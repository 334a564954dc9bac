import SaltConventions.Bindings
import SaltConventions.Rule

/-!
# Functions that were replaced

Calls of functions that the configuration lists with their replacements. A call is named through the
imports of the file, so that a function is recognised under whatever name it was imported.
-/

namespace SaltConventions.ReplacedFunctions

def replacedFunction : Message where
  code := "E9601"
  symbol := "blacklisted-function"
  template := "Use of blacklisted function %s (use %s instead)"
  description := "Used a function marked as blacklisted"

/-- The full name of what a dotted text stands for in a file. -/
def fullName (imports : Bindings) (dotted : String) : String :=
  (imports.qualify? dotted).getD dotted

def checkCall (listed : NameMap) (ctx : FileContext) (imports : Bindings) (start : Nat)
    (func : Expr) : List Finding :=
  match func.dotted? with
  | none => []
  | some dotted =>
    let called := fullName imports dotted
    match listed.get? called with
    | some replacement => [ctx.findingAt replacedFunction start [called, replacement]]
    | none => []

/-- What entering a node does to the imports known so far, and what is found about it. Without
listed functions nothing is followed. -/
def enter (listed : NameMap) (ctx : FileContext) (node : Node) (imports : Bindings) :
    Bindings × List Finding :=
  if listed.isEmpty then (imports, [])
  else
    match node with
    | .module _ => (.empty, [])
    | .importNames _ names => (imports.bindImport (fun _ => true) names, [])
    | .importFrom _ (some module) names 0 => (imports.bindFrom module names, [])
    | .call span func => (imports, checkCall listed ctx imports span.start func)
    | _ => (imports, [])

def rule (listed : NameMap) : Rule where
  name := "blacklisted-functions"
  messages := [replacedFunction]
  State := Bindings
  initial := .empty
  watcher :=
    { interests := [.module, .importNames, .importFrom, .call]
      step := fun ctx event imports =>
        match event.phase with
        | .enter => enter listed ctx event.node imports
        | .leave => (imports, []) }

end SaltConventions.ReplacedFunctions
