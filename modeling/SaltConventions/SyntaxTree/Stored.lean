import SaltConventions.Json.Reader
import SaltConventions.Linter
import SaltConventions.SyntaxTree.Exchange

/-!
# Stored syntax trees

Source files on disk are parsed by another program, which leaves the syntax tree of `a.py` in
exchange form in `a.py.ast.json` next to it. A source file without one counts as unparsable, unless
it is empty.
-/

namespace SaltConventions

/-- The location of the syntax tree of the source file at a location. -/
def storedLocation : Location → Location
  | [] => []
  | [name] => [name ++ ".ast.json"]
  | directory :: names => directory :: storedLocation names

namespace FileTree

/-- The statements stored for the source file at a location. -/
def storedBody? (tree : FileTree) (location : Location) : Option (List Stmt) := do
  let (contents, _) ← tree.fileAt? (storedLocation location)
  let text ← String.fromUTF8? contents
  Stmt.listOfJson? (← Json.parse? text)

/-- The source texts of a tree, without byte order marks, with the statements stored for them. -/
def storedModules (tree : FileTree) : List (String × List Stmt) :=
  tree.entries.filterMap fun listed =>
    match listed with
    | (_, .directory _) => none
    | (location, .file contents _) => do
      let body ← tree.storedBody? location
      let source ← String.fromUTF8? contents
      return ((Linter.stripBom source).1, body)

/-- The parser that knows the syntax trees stored in a tree. -/
def parser (tree : FileTree) : Parser :=
  let known := tree.storedModules
  fun text =>
    if text = "" then some []
    else (known.find? (·.1 == text)).map (·.2)

end FileTree

end SaltConventions
