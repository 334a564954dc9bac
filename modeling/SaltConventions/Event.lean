import SaltConventions.Visit

/-!
# Walks as event lists

Walking a module is the list of events in which its nodes are entered and left, each with the
constructs that enclose the node. The walk carries a tracker along: the inside of a node is walked
with the node's construct open, and the token of that construct is given back before the node is
left. Both are logged as the walk goes, and its events and its returned tokens are read off the log.
-/

namespace SaltConventions

/-- Whether a node is entered or left. -/
inductive Phase where
  | enter
  | leave
  deriving DecidableEq, Repr, Inhabited

/-- A node entered or left, and what encloses it. -/
structure Event where
  phase : Phase
  node : Node
  scope : Scope

def ScopeTracker.enter? (t : ScopeTracker) : Option Construct → Option ScopeToken × ScopeTracker
  | none => (none, t)
  | some construct =>
    let (token, inner) := t.enter construct
    (some token, inner)

def ScopeTracker.leave? (t : ScopeTracker) : Option ScopeToken → ScopeTracker
  | none => t
  | some token => t.leave token

/-- What a walk does: it enters and leaves nodes, and it gives tokens back to the tracker. -/
inductive Move where
  | visited (event : Event)
  | returned (tracker : ScopeTracker) (token : ScopeToken)

/-- The event of a move, if it enters or leaves a node. -/
def Move.event? : Move → Option Event
  | visited event => some event
  | returned _ _ => none

/-- The token of a move that gives one back, with the tracker that takes it. -/
def Move.return? : Move → Option (ScopeTracker × ScopeToken)
  | visited _ => none
  | returned tracker token => some (tracker, token)

mutual

/-- The moves of one visit, and the tracker after it. -/
def Visit.moves (t : ScopeTracker) : Visit → List Move × ScopeTracker
  | .mk node opens inside =>
    let (token, inner) := t.enter? opens
    let (moves, reached) := movesAll inner inside
    let outer := reached.leave? token
    ([.visited ⟨.enter, node, t.scope⟩] ++ moves ++ token.toList.map (.returned reached)
      ++ [.visited ⟨.leave, node, outer.scope⟩], outer)

def movesAll (t : ScopeTracker) : List Visit → List Move × ScopeTracker
  | [] => ([], t)
  | visit :: later =>
    let (moves, next) := visit.moves t
    let (rest, last) := movesAll next later
    (moves ++ rest, last)

end

/-- The events of one visit, and the tracker after it. -/
def Visit.walk (t : ScopeTracker) (v : Visit) : List Event × ScopeTracker :=
  let (moves, reached) := v.moves t
  (moves.filterMap Move.event?, reached)

def walkAll (t : ScopeTracker) (vs : List Visit) : List Event × ScopeTracker :=
  let (moves, reached) := movesAll t vs
  (moves.filterMap Move.event?, reached)

/-- The tokens that one visit gives back, each with the tracker that takes it. -/
def Visit.returns (t : ScopeTracker) (v : Visit) : List (ScopeTracker × ScopeToken) :=
  (v.moves t).1.filterMap Move.return?

/-- The events of walking a module. -/
def eventsOfModule (body : List Stmt) : List Event :=
  ((visitOfModule body).walk .empty).1

end SaltConventions
