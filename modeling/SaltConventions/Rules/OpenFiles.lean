import SaltConventions.Rule

/-!
# Files that may stay open

Calls that open a file outside a `with` statement, and every call of the builtin `open`.
-/

namespace SaltConventions.OpenFiles

def leakage : Message where
  code := "W8470"
  symbol := "resource-leakage"
  template := "Resource leakage detected. %s "
  description := "Used when a file handle is opened in a way that may never close it."

def fopenOutsideWith : String :=
  "Please call 'salt.utils.files.fopen' using the 'with' context " ++
  "manager, otherwise the file handle won't be closed and resource leakage will occur."

def openInsideWith : String :=
  "Please use 'with salt.utils.files.fopen()' instead of " ++
  "'with open()'. It assures salt does not leak file handles."

def openOutsideWith : String :=
  "Please use 'salt.utils.files.fopen()' instead of 'open()' " ++
  "using the 'with' context manager, otherwise the file handle won't be closed and resource " ++
  "leakage will occur."

/-- The advice for a call of `func`, if it opens a file the wrong way. -/
def advice? (insideWith : Bool) : Expr → Option String
  | .attribute _ _ attr => if attr == "fopen" && !insideWith then some fopenOutsideWith else none
  | .name _ id =>
    if id == "open" then some (if insideWith then openInsideWith else openOutsideWith) else none
  | _ => none

def check (ctx : FileContext) (scope : Scope) (node : Node) : List Finding :=
  match node with
  | .call span func =>
    match advice? scope.insideWith func with
    | some advice => [ctx.findingAt leakage span.start [advice]]
    | none => []
  | _ => []

def rule : Rule where
  name := "resource-leakage"
  messages := [leakage]
  State := Unit
  initial := ()
  watcher := .onEnter [.call] check

end SaltConventions.OpenFiles
