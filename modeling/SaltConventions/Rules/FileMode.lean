import SaltConventions.Permission
import SaltConventions.Rule

/-!
# Permission bits of source files

Source files have the configured permission bits, unless their path matches a pattern to ignore.
-/

namespace SaltConventions.FileMode

def wrongMode : Message where
  code := "E0599"
  symbol := "file-perms"
  template := "Module file has the wrong file permissions(expected %s): %s"
  description := "Wrong file permissions"

/-- Reads the patterns of paths to ignore; the first that is no pattern is an error. -/
def readPatterns : List String → Except ConfigError (List Glob)
  | [] => .ok []
  | pattern :: later =>
    match Glob.parse? pattern with
    | none => .error (.badGlob pattern)
    | some glob => (readPatterns later).map (glob :: ·)

def check (expected : Permission) (ignored : List Glob) (ctx : FileContext) (_ : Scope)
    (node : Node) : List Finding :=
  match node with
  | .module _ =>
    let path := ctx.path.relativeTo ctx.env.cwd
    if ignored.any (·.accepts path.text) then []
    else
      match ctx.env.tree.mode? ctx.path with
      | none => []
      | some mode =>
        if expected.accepts mode then []
        else [⟨wrongMode, 1, [expected.display, Permission.showMode mode]⟩]
  | _ => []

def rule (expected : Permission) (ignored : List Glob) : Rule where
  name := "fileperms"
  messages := [wrongMode]
  State := Unit
  initial := ()
  watcher := .onEnter [.module] (check expected ignored)

def readSettings (settings : PermissionSettings) : Except ConfigError (Permission × List Glob) := do
  let expected ← Permission.parse settings.default
  let ignored ← readPatterns settings.ignorePaths
  return (expected, ignored)

end SaltConventions.FileMode
