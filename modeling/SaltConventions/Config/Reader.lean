import SaltConventions.Config
import SaltConventions.Toml.Reader

/-!
# Reading configurations

Settings are read from TOML. Settings that are not there keep their defaults, names that are not
known do not count, and a value of the wrong kind makes the whole configuration unusable. A group of
settings can also be written as an array with its settings in order.
-/

namespace SaltConventions.Config

/-- The name under which a date stands where a table is expected. -/
def dateMember : String := "$__toml_private_datetime"

def members? (names : List String) : Toml.Value → Option (List (String × Toml.Value))
  | .table members => some members
  | .array items => some (names.zip items)
  | .datetime text => some [(dateMember, .string text)]
  | _ => none

/-- Reads a setting, which has a default. -/
def setting {α : Type} (members : List (String × Toml.Value)) (name : String) (default : α)
    (read : Toml.Value → Option α) : Option α :=
  match members.find? (·.1 == name) with
  | some (_, value) => read value
  | none => some default

def string? : Toml.Value → Option String
  | .string text => some text
  | _ => none

def bool? : Toml.Value → Option Bool
  | .boolean value => some value
  | _ => none

def strings? : Toml.Value → Option (List String)
  | .array items => items.mapM string?
  | _ => none

/-- Reads a severity: its name, or a table with the name as its only member and nothing in it. -/
def severity? : Toml.Value → Option Severity
  | .string name => Severity.ofName? name
  | .table [(name, .table [])] => Severity.ofName? name
  | .table [(name, .array [])] => Severity.ofName? name
  | _ => none

def functions? : Toml.Value → Option FunctionList
  | .string text => some (.inline text)
  | .table members =>
    (members.mapM fun member => (string? member.2).map fun text => (member.1, text)).map .table
  | .datetime text => some (.table [(dateMember, text)])
  | _ => none

def permissions? (value : Toml.Value) : Option PermissionSettings := do
  let members ← members? ["default", "ignore_paths"] value
  return {
    default := ← setting members "default" standard.permissions.default string?
    ignorePaths := ← setting members "ignore_paths" standard.permissions.ignorePaths strings? }

def stringSettings? (value : Toml.Value) : Option StringSettings := do
  let braces := "un_indexed_curly_braces_always_error"
  let substitution := "enforce_string_formatting_over_substitution"
  let isError := "string_substitutions_usage_is_an_error"
  let members ← members? [braces, substitution, isError] value
  return {
    bracesAreErrors := ← setting members braces standard.strings.bracesAreErrors bool?
    checkSubstitution := ← setting members substitution standard.strings.checkSubstitution bool?
    substitutionIsError := ← setting members isError standard.strings.substitutionIsError bool? }

def moduleSettings? (value : Toml.Value) : Option ModuleSettings := do
  let members ← members? ["stdlib_dir", "search_paths"] value
  return {
    stdlibDir := ← setting members "stdlib_dir" none fun v => (string? v).map fun t => some ⟨t⟩
    searchPaths := ← setting members "search_paths" [] fun v => (strings? v).map (·.map Path.mk) }

def ofToml? (document : Toml.Value) : Option Config := do
  let members ← members? [] document
  return {
    failOn := ← setting members "fail_on" standard.failOn severity?
    disable := ← setting members "disable" standard.disable strings?
    allowedModules :=
      ← setting members "allowed_3rd_party_modules" standard.allowedModules strings?
    functions := ← setting members "blacklisted_functions" standard.functions functions?
    permissions := ← setting members "fileperms" standard.permissions permissions?
    strings := ← setting members "strings" standard.strings stringSettings?
    modules := ← setting members "python" standard.modules moduleSettings? }

def parse (text : String) : Except ConfigError Config :=
  match (Toml.parse? text).bind ofToml? with
  | some config => .ok config
  | none => .error .malformed

def fromFile (tree : FileTree) (path : Path) : Except ConfigError Config :=
  match tree.read path with
  | .ok text => parse text
  | .error cause => .error (.unreadable path cause)

end SaltConventions.Config
