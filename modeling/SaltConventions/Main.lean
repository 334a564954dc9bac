import SaltConventions.Cli
import SaltConventions.SyntaxTree.Stored

/-!
# The program

The part of the disk that a command line can see is read into a file tree, the command line is run
on it, and the outcome is printed. Symbolic links and directories that cannot be listed are left
out. Permission bits are not known, except that a file that cannot be read has none.
-/

namespace SaltConventions.Disk

def location (text : String) : Location :=
  (Text.splitAt '/' text).filter (· != "")

/-- Whether a run may ask for the contents of a file: of a source file, a syntax tree or a
configuration. -/
def isRead (name : String) : Bool :=
  ["py", "json", "toml"].any fun extension => Path.hasExtension extension ⟨name⟩

/-- What stands at an entry of a directory and below it, at most `depth` levels down. -/
def gather (isRead : String → Bool) : (depth : Nat) → IO.FS.DirEntry → IO (List (Location × Entry))
  | 0, _ => return []
  | depth + 1, entry => do
    let .ok metadata ← entry.path.symlinkMetadata.toBaseIO | return []
    let here := location entry.path.toString
    match metadata.type with
    | .file =>
      if isRead entry.fileName then
        let .ok contents ← (IO.FS.readBinFile entry.path).toBaseIO
          | return [(here, .file .empty (some 0))]
        return [(here, .file contents none)]
      else return [(here, .file .empty none)]
    | .dir =>
      let .ok inner ← entry.path.readDir.toBaseIO | return []
      let found ← inner.toList.mapM (gather isRead depth)
      return (here, .directory none) :: found.flatten
    | _ => return []

/-- The deepest level that is looked at. -/
def depthLimit : Nat := 128

def gatherRoot (isRead : String → Bool) (path : Path) : IO (List (Location × Entry)) := do
  let .ok real ← (IO.FS.realPath path.text).toBaseIO | return []
  gather isRead depthLimit ⟨real.parent.getD real, real.fileName.getD ""⟩

/-- What stands at some paths and below them, with the contents of every file that is named itself.
-/
def gatherRoots (paths : List Path) : IO (List (Location × Entry)) := do
  let found ← paths.mapM fun path =>
    gatherRoot (fun name => isRead name || path.fileName? == some name) path
  return found.flatten

/-- The file tree that a command line can see. The configuration is read first, because it names
further paths. -/
def load (args : List String) (cwd : Path) : IO FileTree := do
  let here := location cwd.text
  let named := Cli.roots args ⟨here, []⟩ cwd
  if named.isEmpty then return ⟨here, []⟩
  let first ← gatherRoots (⟨"."⟩ :: named)
  let configured := (Cli.roots args ⟨here, first⟩ cwd).drop named.length
  return ⟨here, first ++ (← gatherRoots configured)⟩

end SaltConventions.Disk

def main (args : List String) : IO UInt32 := do
  let cwd : SaltConventions.Path := ⟨(← IO.currentDir).toString⟩
  let tree ← SaltConventions.Disk.load args cwd
  let outcome := SaltConventions.Cli.run args tree cwd tree.parser
  IO.print outcome.stdout
  IO.eprint outcome.stderr
  return outcome.exit.toUInt32
