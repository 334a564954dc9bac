import SaltConventions.Error
import SaltConventions.Json
import SaltConventions.Severity
import SaltConventions.Text.Blank
import SaltConventions.Text.Pieces

/-!
# Configuration

The settings of a run, with their defaults.
-/

namespace SaltConventions

/-- A map from names to names, as pairs in increasing order of the first. -/
abbrev NameMap := List (String × String)

namespace NameMap

/-- The map with `value` for `key`. -/
def insert (key value : String) : NameMap → NameMap
  | [] => [(key, value)]
  | (k, v) :: later =>
    if key < k then (key, value) :: (k, v) :: later
    else if key = k then (key, value) :: later
    else (k, v) :: insert key value later

/-- The map of some pairs; of pairs with the same key the last one counts. -/
def ofPairs (pairs : List (String × String)) : NameMap :=
  pairs.foldl (fun m pair => insert pair.1 pair.2 m) []

def get? (m : NameMap) (key : String) : Option String :=
  (m.find? (·.1 == key)).map (·.2)

end NameMap

/-- Unwanted functions with their replacements, as a table or as a text such as
`bad=good,worse=better`. -/
inductive FunctionList where
  | inline (text : String)
  | table (pairs : List (String × String))
  deriving DecidableEq, Repr, Inhabited

namespace FunctionList

def trimmed (cs : List Char) : String :=
  String.ofList (Text.trim Text.isBlank cs)

/-- Reads `bad=good`; items without exactly one equals sign or without a name before it do not
count. -/
def item? (cs : List Char) : Option (String × String) :=
  match Text.pieces (· == '=') cs with
  | [bad, good] => if trimmed bad = "" then none else some (trimmed bad, trimmed good)
  | _ => none

/-- The pairs of a text, in order. -/
def inlinePairs (text : String) : List (String × String) :=
  (Text.pieces (· == ',') text.toList).filterMap item?

def toMap : FunctionList → NameMap
  | inline text => NameMap.ofPairs (inlinePairs text)
  | table pairs => NameMap.ofPairs pairs

/-- The JSON form: a text as it is, a table with its names in order. -/
def toJson : FunctionList → Json
  | inline text => .string text
  | table pairs => .object ((NameMap.ofPairs pairs).map fun pair => (pair.1, .string pair.2))

end FunctionList

/-- Settings of the permission check. -/
structure PermissionSettings where
  default : String
  ignorePaths : List String
  deriving DecidableEq, Repr, Inhabited

/-- Settings of the string checks. -/
structure StringSettings where
  bracesAreErrors : Bool
  checkSubstitution : Bool
  substitutionIsError : Bool
  deriving DecidableEq, Repr, Inhabited

/-- Where modules are looked for. Without a directory of the standard library its usual modules are
taken as known. -/
structure ModuleSettings where
  stdlibDir : Option Path
  searchPaths : List Path
  deriving DecidableEq, Repr, Inhabited

/-- The settings of a run. -/
structure Config where
  failOn : Severity
  disable : List String
  allowedModules : List String
  functions : FunctionList
  permissions : PermissionSettings
  strings : StringSettings
  modules : ModuleSettings
  deriving DecidableEq, Repr, Inhabited

namespace Config

def fileName : String := "saltlint.toml"

/-- The settings of a run without a configuration. -/
def standard : Config where
  failOn := .warning
  disable := []
  allowedModules := []
  functions := .table []
  permissions := ⟨"0644", []⟩
  strings := ⟨true, true, true⟩
  modules := ⟨none, []⟩

/-- Whether a code, symbol or rule name is switched off. -/
def isDisabled (config : Config) (key : String) : Bool :=
  config.disable.any fun d => d == key || d == "all"

/-- The JSON form of the settings. -/
def toJson (config : Config) : Json :=
  .object
    [("fail_on", .string config.failOn.name), ("disable", .strings config.disable),
      ("allowed_3rd_party_modules", .strings config.allowedModules),
      ("blacklisted_functions", config.functions.toJson),
      ("fileperms", .object
        [("default", .string config.permissions.default),
          ("ignore_paths", .strings config.permissions.ignorePaths)]),
      ("strings", .object
        [("un_indexed_curly_braces_always_error", .bool config.strings.bracesAreErrors),
          ("enforce_string_formatting_over_substitution", .bool config.strings.checkSubstitution),
          ("string_substitutions_usage_is_an_error", .bool config.strings.substitutionIsError)]),
      ("python", .object
        [("stdlib_dir", .ofOption (config.modules.stdlibDir.map Path.text)),
          ("search_paths", .strings (config.modules.searchPaths.map Path.text))])]

end Config

end SaltConventions
