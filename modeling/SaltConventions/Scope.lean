/-!
# Enclosing constructs

Rules ask whether a node lies inside an `if`, a `try` with handlers, a function body or a `with`. A
tracker counts how many of each are open; it counts rather than flags, so that leaving an inner
construct does not forget an outer one.
-/

namespace SaltConventions

/-- A construct whose inside matters. A `try` counts only if it has a handler. -/
inductive Construct where
  | ifElse
  | tryExcept
  | function
  | withBlock
  deriving DecidableEq, Repr, Inhabited

/-- Which constructs enclose a node. -/
structure Scope where
  insideIf : Bool
  insideTry : Bool
  insideFunction : Bool
  insideWith : Bool
  deriving DecidableEq, Repr, Inhabited

/-- What entering a construct hands out, to be given back when it is left. -/
structure ScopeToken where
  construct : Construct
  depth : Nat
  deriving DecidableEq, Repr, Inhabited

/-- How many constructs of each kind are open. -/
structure ScopeTracker where
  ifs : Nat
  tries : Nat
  functions : Nat
  withs : Nat
  deriving DecidableEq, Repr, Inhabited

namespace ScopeTracker

def empty : ScopeTracker := ⟨0, 0, 0, 0⟩

def count (t : ScopeTracker) : Construct → Nat
  | .ifElse => t.ifs
  | .tryExcept => t.tries
  | .function => t.functions
  | .withBlock => t.withs

def setCount (t : ScopeTracker) (construct : Construct) (n : Nat) : ScopeTracker :=
  match construct with
  | .ifElse => { t with ifs := n }
  | .tryExcept => { t with tries := n }
  | .function => { t with functions := n }
  | .withBlock => { t with withs := n }

def enter (t : ScopeTracker) (construct : Construct) : ScopeToken × ScopeTracker :=
  let depth := t.count construct + 1
  (⟨construct, depth⟩, t.setCount construct depth)

/-- Closes a construct of the token's kind; a count of 0 stays 0. Depths are not compared here:
walks give every token back at its own (`Visit.depth_of_mem_returns`). -/
def leave (t : ScopeTracker) (token : ScopeToken) : ScopeTracker :=
  t.setCount token.construct (t.count token.construct - 1)

/-- What is open, as rules see it. -/
def scope (t : ScopeTracker) : Scope where
  insideIf := 0 < t.ifs
  insideTry := 0 < t.tries
  insideFunction := 0 < t.functions
  insideWith := 0 < t.withs

end ScopeTracker

end SaltConventions
