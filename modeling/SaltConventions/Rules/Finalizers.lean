import SaltConventions.Rule

/-!
# Finalizers

Methods and functions named `__del__`.
-/

namespace SaltConventions.Finalizers

def noFinalizer : Message where
  code := "W1701"
  symbol := "no-dunder-del"
  template := "\"__del__\" is not allowed!"
  description := "\"__del__\" is not allowed! A \"with\" block could be a good solution"

def check (ctx : FileContext) (_ : Scope) (node : Node) : List Finding :=
  match node with
  | .functionDef function =>
    if function.name == "__del__" then [ctx.findingAt noFinalizer function.start []] else []
  | _ => []

def rule : Rule where
  name := "dunder-del"
  messages := [noFinalizer]
  State := Unit
  initial := ()
  watcher := .onEnter [.functionDef] check

end SaltConventions.Finalizers
