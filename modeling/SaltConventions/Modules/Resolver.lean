import SaltConventions.Modules.StandardLibrary

/-!
# Locating modules

A module is located by its dotted name. On a file tree this is done by probing the places where a
module can be under a list of roots, the first root that has it deciding.
-/

namespace SaltConventions

/-- Whether a text is a dotted name: identifiers between dots. -/
def isDottedName (module : String) : Bool :=
  (Text.pieces (· == '.') module.toList).all Text.isIdentifier

def topLevel (module : String) : String :=
  String.ofList (module.toList.takeWhile (· != '.'))

/-- The path of a module under a root: the dots of its name become slashes. -/
def modulePath (module : String) : Path :=
  ⟨String.ofList (module.toList.map fun c => if c = '.' then '/' else c)⟩

/-- The places where a module with this base path can be, best first: a package, a source file, and
compiled files. -/
def moduleFiles (base : Path) : List Path :=
  [base.join ⟨"__init__.py"⟩, base.withExtension "py", base.withExtension "so",
    base.withExtension "pyd"]

/-- The place of a module under one root. A directory without an initializer counts too, as a last
resort. -/
def locateUnder? (tree : FileTree) (module : String) (root : Path) : Option Path :=
  let base := root.join (modulePath module)
  ((moduleFiles base).find? tree.isFile).or (if tree.isDirectory base then some base else none)

/-- Gives the place of a module that a file imports. -/
abbrev Resolver := (module : String) → (importer : Path) → Except ResolveError Path

/-- Locates a module under the first root that has it. -/
def locateModule (tree : FileTree) (roots : List Path) (module : String) :
    Except ResolveError Path :=
  if !isDottedName module then .error (.invalidName module)
  else
    match roots.findSome? (locateUnder? tree module) with
    | some place => .ok place
    | none => .error (.notFound module)

/-- The resolver that looks for modules under some roots, whatever file imports them. -/
def Resolver.ofRoots (tree : FileTree) (roots : List Path) : Resolver :=
  fun module _ => locateModule tree roots module

end SaltConventions
