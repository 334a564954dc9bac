import SaltConventions.Bindings
import SaltConventions.Rule

/-!
# Modules patched in tests

Tests that set attributes of imported project modules directly, above all the names that the loader
puts into them, instead of patching them for the time of a test.
-/

namespace SaltConventions.PatchedModules

def dunderSet : Message where
  code := "E9501"
  symbol := "unmocked-patch-dunder"
  template :=
    "Blacklisted salt loader dunder usage. Setting dunder attribute %r to module %r. " ++
    "Use 'salt.support.mock' and 'patch.dict()' instead."
  description := "Used when a salt loader dunder is set directly on a module in a test."

def attributeSet : Message where
  code := "E9502"
  symbol := "unmocked-patch"
  template :=
    "Blacklisted salt loader dunder usage. Setting attribute %r to module %r. " ++
    "Use 'salt.support.mock' and 'patch()' instead."
  description := "Used when an attribute is set directly on a salt module in a test."

def dunderUpdated : Message where
  code := "E9503"
  symbol := "unmocked-patch-dunder-update"
  template :=
    "Blacklisted salt loader dunder usage. Updating dunder attribute %r on module %r. " ++
    "Use 'salt.support.mock' and 'patch.dict()' instead."
  description := "Used when a key of a salt loader dunder is assigned directly in a test."

def messages : List Message :=
  [dunderSet, attributeSet, dunderUpdated]

/-- The names that the loader puts into modules. -/
def loaderNames : List String :=
  ["__opts__", "__salt__", "__runner__", "__context__", "__utils__", "__ext_pillar__",
    "__thorium__", "__states__", "__serializers__", "__ret__", "__grains__", "__pillar__",
    "__sdb__", "__proxy__", "__low__", "__orchestration_jid__", "__running__", "__intance_id__",
    "__lowstate__", "__env__"]

/-- The package whose imports are followed. -/
def trackedPackage : String := "salt"

/-- The module that an expression stands for, if it was imported from the tracked package. -/
def moduleOf? (imports : Bindings) (base : Expr) : Option String :=
  base.dotted?.bind imports.qualify?

mutual

def checkTarget (ctx : FileContext) (imports : Bindings) : Expr → List Finding
  | .subscript span (.attribute _ base attr) _ =>
    if loaderNames.contains attr then
      match moduleOf? imports base with
      | some module => [ctx.findingAt dunderUpdated span.start [attr, module]]
      | none => []
    else []
  | .attribute span base attr =>
    match moduleOf? imports base with
    | some module =>
      let message := if loaderNames.contains attr then dunderSet else attributeSet
      [ctx.findingAt message span.start [attr, module]]
    | none => []
  | .tuple _ items => checkTargets ctx imports items
  | _ => []

/-- What is found about assignment targets, from left to right. -/
def checkTargets (ctx : FileContext) (imports : Bindings) : List Expr → List Finding
  | [] => []
  | target :: later => checkTarget ctx imports target ++ checkTargets ctx imports later

end

/-- What entering a node does to the imports known so far, and what is found about it. -/
def enter (ctx : FileContext) (node : Node) (imports : Bindings) : Bindings × List Finding :=
  match node with
  | .module _ => (.empty, [])
  | .importNames _ names =>
    if ctx.path.isTestModule then (imports.bindImport (isWithin · trackedPackage) names, [])
    else (imports, [])
  | .importFrom _ (some module) names 0 =>
    if ctx.path.isTestModule && isWithin module trackedPackage then
      (imports.bindFrom module names, [])
    else (imports, [])
  | .assign _ targets _ =>
    if ctx.path.isTestModule then (imports, checkTargets ctx imports targets) else (imports, [])
  | _ => (imports, [])

def leave (node : Node) (imports : Bindings) : Bindings :=
  match node with
  | .module _ => .empty
  | _ => imports

def rule : Rule where
  name := "blacklisted-unmocked-patching"
  messages := messages
  State := Bindings
  initial := .empty
  watcher :=
    { interests := [.module, .importNames, .importFrom, .assign]
      step := fun ctx event imports =>
        match event.phase with
        | .enter => enter ctx event.node imports
        | .leave => (leave event.node imports, []) }

end SaltConventions.PatchedModules
