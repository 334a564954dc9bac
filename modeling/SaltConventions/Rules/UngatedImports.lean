import SaltConventions.Rule

/-!
# Imports that are not gated

Third-party modules may be missing where the project is loaded, so their imports have to stand in a
`try` with a handler, unless the package is allowed.
-/

namespace SaltConventions.UngatedImports

/-- A third-party import at module level without a gate. -/
def notGated : Message where
  code := "W8410"
  symbol := "3rd-party-module-not-gated"
  template := "3rd-party module import is not gated in a try/except: %r"
  description :=
    "Used when a 3rd-party module is imported at module level without a try/except."

/-- A third-party import inside a function or a condition without a gate. -/
def localNotGated : Message where
  code := "C8410"
  symbol := "3rd-party-local-module-not-gated"
  template :=
    "3rd-party local module import is not gated in a try/except: %r. " ++
    "Consider importing at the module global scope level and gate it in a try/except."
  description := "Used when a 3rd-party module is imported inside a function or conditional."

def messages : List Message :=
  [notGated, localNotGated]

/-- The message that an import of a module deserves, if any. -/
def verdict (allowed : List String) (origin : ModuleOrigin) (module : String) (scope : Scope) :
    Option Message :=
  if origin != .thirdParty || scope.insideTry || allowed.contains (topLevel module) then none
  else if scope.insideIf || scope.insideFunction then some localNotGated
  else some notGated

def checkModule (allowed : List String) (ctx : FileContext) (scope : Scope) (start level : Nat)
    (module : String) : List Finding :=
  match verdict allowed (ctx.env.classify module level ctx.path) module scope with
  | some message => [ctx.findingAt message start [module]]
  | none => []

def check (allowed : List String) (ctx : FileContext) (scope : Scope) (node : Node) :
    List Finding :=
  match node with
  | .importNames start names =>
    names.flatMap fun a => checkModule allowed ctx scope start 0 a.name
  | .importFrom start module _ level =>
    checkModule allowed ctx scope start level (module.getD "")
  | _ => []

def rule (allowed : List String) : Rule where
  name := "3rd-party-imports"
  messages := messages
  State := Unit
  initial := ()
  watcher := .onEnter [.importNames, .importFrom] (check allowed)

end SaltConventions.UngatedImports
