import SaltConventions.Config
import SaltConventions.Modules.Resolver

/-!
# Where modules come from

An imported module is part of the standard library, of the project, or of a third party. Of a module
outside the standard library and not next to the importing file, the longest part of its dotted name
that can be located decides.
-/

namespace SaltConventions

/-- Where an imported module comes from; there is no telling for a text that is no dotted name. -/
inductive ModuleOrigin where
  | standardLibrary
  | projectLocal
  | thirdParty
  | unresolved
  deriving DecidableEq, Repr, Inhabited

def ModuleOrigin.name : ModuleOrigin → String
  | standardLibrary => "standard-library"
  | projectLocal => "project-local"
  | thirdParty => "third-party"
  | unresolved => "unresolved"

def ModuleOrigin.all : List ModuleOrigin :=
  [.standardLibrary, .projectLocal, .thirdParty, .unresolved]

/-- What all files of a run share: the file tree, the working directory as it is written, the
standard library, and how other modules are located. -/
structure Environment where
  tree : FileTree
  cwd : Path
  library : StandardLibrary
  resolver : Resolver

namespace Environment

/-- The environment of a configuration. Modules are looked for in the working directory first. -/
def ofConfig (config : Config) (tree : FileTree) (cwd : Path) : Except LintError Environment := do
  let library ←
    match config.modules.stdlibDir with
    | some directory => StandardLibrary.discover tree directory
    | none => .ok .usual
  let resolver := Resolver.ofRoots tree (cwd :: config.modules.searchPaths)
  return { tree, cwd, library, resolver }

/-- Whether a top-level module is a module or package next to a file. -/
def isSibling (env : Environment) (top : String) (file : Path) : Bool :=
  match file.parent? with
  | none => false
  | some directory =>
    let base := directory.join ⟨top⟩
    env.tree.isFile (base.withExtension "py") || env.tree.isFile (base.join ⟨"__init__.py"⟩)

/-- The parts of a dotted name that end before a dot or at the end, longest first. -/
def candidates (module : String) : List String :=
  ((Text.dotCuts module.toList).map fun cut => String.ofList cut.1).reverse

/-- The place of the longest part of a module that can be located for a file. -/
def longestPlace? (env : Environment) (module : String) (file : Path) : Option Path :=
  (candidates module).findSome? fun candidate => (env.resolver candidate file).toOption

/-- Where a module comes from that `file` imports with `level` leading dots. -/
def classify (env : Environment) (module : String) (level : Nat) (file : Path) : ModuleOrigin :=
  if 0 < level then .projectLocal
  else if !isDottedName module then .unresolved
  else if env.library.contains (topLevel module) then .standardLibrary
  else if env.isSibling (topLevel module) file then .projectLocal
  else
    match env.longestPlace? module file with
    | some place => if place.startsWith env.cwd then .projectLocal else .thirdParty
    | none => .thirdParty

end Environment

end SaltConventions
