import SaltConventions.SyntaxTree
import SaltConventions.Text.Pieces

/-!
# Import bindings

Which module path each name of a file stands for. The first binding of a name stays; importing it
again changes nothing.
-/

namespace SaltConventions

/-- `true` if `module` is `root` or one of its submodules. -/
def isWithin (module root : String) : Bool :=
  match Text.stripPrefix? root.toList module.toList with
  | some [] => true
  | some (c :: _) => c == '.'
  | none => false

/-- Bound names with the module paths they stand for, in the order they were bound. -/
structure Bindings where
  pairs : List (String × String)
  deriving DecidableEq, Repr, Inhabited

namespace Bindings

def empty : Bindings := ⟨[]⟩

def get? (b : Bindings) (name : String) : Option String :=
  (b.pairs.find? (·.1 == name)).map (·.2)

def bind (b : Bindings) (name target : String) : Bindings :=
  if (b.get? name).isSome then b else ⟨b.pairs ++ [(name, target)]⟩

/-- Binds the names of `import a.b as c` whose module passes `keep`. A module without an alias is
bound under its whole dotted path, as it is written in use. -/
def bindImport (keep : String → Bool) (b : Bindings) (names : List Alias) : Bindings :=
  (names.filter fun a => keep a.name).foldl (fun b a => b.bind a.bound a.name) b

/-- The module path of `name` imported from `module`. -/
def memberPath (module name : String) : String :=
  if module = "" then name else module ++ "." ++ name

/-- Binds the names of `from module import a as b`. A star binds nothing. -/
def bindFrom (module : String) (b : Bindings) (names : List Alias) : Bindings :=
  (names.filter (·.name != "*")).foldl (fun b a => b.bind a.bound (memberPath module a.name)) b

/-- What an expression stands for, if it is a chain of names bound as a whole. -/
def resolve? (b : Bindings) (e : Expr) : Option String :=
  e.dotted?.bind b.get?

/-- Replaces the longest bound part of a dotted name, counted from its start and ending before a dot
or at the end, by what it stands for. -/
def qualify? (b : Bindings) (dotted : String) : Option String :=
  (Text.dotCuts dotted.toList).reverse.findSome? fun cut =>
    (b.get? (String.ofList cut.1)).map fun target => target ++ String.ofList cut.2

end Bindings

end SaltConventions
