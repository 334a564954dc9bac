import Mathlib.Tactic.Lemma
import SaltConventions.Event

/-!
# Walks are balanced

A walk gives back every token it took: the tracker after a visit is the tracker before it, so the
scope shown when a node is left is the scope shown when it was entered, and the events of a walk are
properly nested. The moves of a walk show the same about the tokens: each comes back at the depth it
was handed out.
-/

namespace SaltConventions

namespace ScopeTracker

@[simp] lemma count_setCount_self (t : ScopeTracker) (c : Construct) (n : Nat) :
    (t.setCount c n).count c = n := by
  cases c <;> rfl

lemma count_setCount_of_ne (t : ScopeTracker) {c d : Construct} (h : d ≠ c) (n : Nat) :
    (t.setCount c n).count d = t.count d := by
  cases c <;> cases d <;> simp_all [setCount, count]

@[simp] lemma setCount_setCount (t : ScopeTracker) (c : Construct) (m n : Nat) :
    (t.setCount c m).setCount c n = t.setCount c n := by
  cases c <;> rfl

@[simp] lemma setCount_count (t : ScopeTracker) (c : Construct) : t.setCount c (t.count c) = t := by
  cases c <;> rfl

/-- The tracker inside a node that opens a construct, if any. -/
def opened (t : ScopeTracker) (opens : Option Construct) : ScopeTracker :=
  (t.enter? opens).2

@[simp] lemma opened_none (t : ScopeTracker) : t.opened none = t := rfl

lemma count_opened_some (t : ScopeTracker) (c d : Construct) :
    (t.opened (some c)).count d = t.count d + if d = c then 1 else 0 := by
  by_cases h : d = c
  · subst h
    simp [opened, enter?, enter]
  · simp [opened, enter?, enter, count_setCount_of_ne t h, h]

lemma leave?_enter? (t : ScopeTracker) (opens : Option Construct) :
    (t.enter? opens).2.leave? (t.enter? opens).1 = t := by
  cases opens with
  | none => rfl
  | some c => simp [enter?, enter, leave?, leave]

lemma depth_of_enter? {t : ScopeTracker} {opens : Option Construct} {token : ScopeToken}
    (h : (t.enter? opens).1 = some token) :
    token.depth = (t.opened opens).count token.construct ∧ 0 < token.depth := by
  cases opens with
  | none => simp [enter?] at h
  | some c =>
    obtain rfl : (t.enter c).1 = token := by simpa [enter?] using h
    simp [opened, enter?, enter]

end ScopeTracker

/-- What a node shows of one construct. -/
def Scope.inside (scope : Scope) : Construct → Bool
  | .ifElse => scope.insideIf
  | .tryExcept => scope.insideTry
  | .function => scope.insideFunction
  | .withBlock => scope.insideWith

@[simp] lemma ScopeTracker.inside_scope (t : ScopeTracker) (c : Construct) :
    t.scope.inside c = decide (0 < t.count c) := by
  cases c <;> rfl

/-! ### The tracker after a visit -/

theorem Visit.induct {P : Visit → Prop}
    (step : ∀ node opens inside, (∀ v ∈ inside, P v) → P (.mk node opens inside)) (v : Visit) :
    P v := by
  induction hn : sizeOf v using Nat.strongRecOn generalizing v with
  | ind n ih =>
    subst hn
    cases v with
    | mk node opens inside =>
      refine step node opens inside fun w hw => ih (sizeOf w) ?_ w rfl
      have hinside : sizeOf w < sizeOf inside := List.sizeOf_lt_of_mem hw
      simp only [Visit.mk.sizeOf_spec]
      omega

lemma movesAll_snd_of {vs : List Visit} (h : ∀ v ∈ vs, ∀ t, (v.moves t).2 = t)
    (t : ScopeTracker) : (movesAll t vs).2 = t := by
  induction vs with
  | nil => rfl
  | cons v later ih =>
    have hv : (v.moves t).2 = t := h v (by simp) t
    have hl : (movesAll t later).2 = t := ih fun w hw => h w (by simp [hw])
    simp only [movesAll, hv, hl]

theorem Visit.moves_snd (v : Visit) (t : ScopeTracker) : (v.moves t).2 = t := by
  induction v using Visit.induct generalizing t with
  | step node opens inside ih =>
    simp only [Visit.moves, movesAll_snd_of ih]
    exact t.leave?_enter? opens

lemma movesAll_snd (t : ScopeTracker) (vs : List Visit) : (movesAll t vs).2 = t :=
  movesAll_snd_of (fun v _ => v.moves_snd) t

@[simp] lemma walkAll_snd (t : ScopeTracker) (vs : List Visit) : (walkAll t vs).2 = t :=
  movesAll_snd t vs

lemma movesAll_fst (t : ScopeTracker) (vs : List Visit) :
    (movesAll t vs).1 = vs.flatMap fun v => (v.moves t).1 := by
  induction vs with
  | nil => rfl
  | cons v later ih => simp only [movesAll, v.moves_snd, ih, List.flatMap_cons]

lemma Visit.moves_fst (node : Node) (opens : Option Construct) (inside : List Visit)
    (t : ScopeTracker) :
    ((Visit.mk node opens inside).moves t).1 =
      [.visited ⟨.enter, node, t.scope⟩] ++ (movesAll (t.opened opens) inside).1 ++
        (t.enter? opens).1.toList.map (.returned (t.opened opens)) ++
          [.visited ⟨.leave, node, t.scope⟩] := by
  simp only [Visit.moves, movesAll_snd, t.leave?_enter? opens]
  rfl

/-! ### Events -/

lemma filterMap_event?_returned (t : ScopeTracker) (tokens : List ScopeToken) :
    (tokens.map (Move.returned t)).filterMap Move.event? = [] := by
  simp [Move.event?]

lemma Visit.walk_fst (node : Node) (opens : Option Construct) (inside : List Visit)
    (t : ScopeTracker) :
    ((Visit.mk node opens inside).walk t).1 =
      ⟨.enter, node, t.scope⟩ :: (walkAll (t.opened opens) inside).1 ++
        [⟨.leave, node, t.scope⟩] := by
  simp only [Visit.walk, Visit.moves_fst, List.filterMap_append, filterMap_event?_returned]
  simp [Move.event?, walkAll]

lemma walkAll_fst (t : ScopeTracker) (vs : List Visit) :
    (walkAll t vs).1 = vs.flatMap fun v => (v.walk t).1 := by
  simp only [walkAll, movesAll_fst, List.filterMap_flatMap]
  rfl

lemma walkAll_append_fst (t : ScopeTracker) (vs ws : List Visit) :
    (walkAll t (vs ++ ws)).1 = (walkAll t vs).1 ++ (walkAll t ws).1 := by
  rw [walkAll_fst, walkAll_fst, walkAll_fst, List.flatMap_append]

/-! ### Tokens that are given back -/

lemma filterMap_return?_returned (t : ScopeTracker) (tokens : List ScopeToken) :
    (tokens.map (Move.returned t)).filterMap Move.return? = tokens.map fun k => (t, k) := by
  simp [Function.comp_def, Move.return?]

lemma Visit.returns_mk (node : Node) (opens : Option Construct) (inside : List Visit)
    (t : ScopeTracker) :
    (Visit.mk node opens inside).returns t =
      inside.flatMap (Visit.returns (t.opened opens)) ++
        (t.enter? opens).1.toList.map fun token => (t.opened opens, token) := by
  have hinside : (movesAll (t.opened opens) inside).1.filterMap Move.return? =
      inside.flatMap (Visit.returns (t.opened opens)) := by
    rw [movesAll_fst, List.filterMap_flatMap]
    rfl
  simp only [Visit.returns, Visit.moves_fst, List.filterMap_append, hinside,
    filterMap_return?_returned]
  simp [List.filterMap_cons, Move.return?]

/-- Every token comes back at the depth it was handed out, to a tracker that counts it. -/
theorem Visit.depth_of_mem_returns (v : Visit) (t : ScopeTracker) :
    ∀ r ∈ v.returns t, r.2.depth = r.1.count r.2.construct ∧ 0 < r.1.count r.2.construct := by
  induction v using Visit.induct generalizing t with
  | step node opens inside ih =>
    intro r hr
    rw [Visit.returns_mk, List.mem_append] at hr
    rcases hr with hi | hk
    · obtain ⟨w, hw, hrw⟩ := List.mem_flatMap.mp hi
      exact ih w hw _ r hrw
    · obtain ⟨token, htoken, rfl⟩ := List.mem_map.mp hk
      have h := ScopeTracker.depth_of_enter? (Option.mem_toList.mp htoken)
      exact ⟨h.1, h.1 ▸ h.2⟩

/-! ### Nesting -/

/-- Properly nested events: every node that is entered is left again, with the same scope, after
what is inside it. -/
inductive Bracketed : List Event → Prop where
  | nil : Bracketed []
  | node (node : Node) (scope : Scope) {inside later : List Event} (hi : Bracketed inside)
      (hl : Bracketed later) :
      Bracketed (⟨.enter, node, scope⟩ :: inside ++ ⟨.leave, node, scope⟩ :: later)

lemma Bracketed.append {xs ys : List Event} (hx : Bracketed xs) (hy : Bracketed ys) :
    Bracketed (xs ++ ys) := by
  induction hx with
  | nil => exact hy
  | node node scope hi _ _ ihl =>
    have h := Bracketed.node node scope hi ihl
    simpa using h

lemma Bracketed.flatMap {α : Type} {f : α → List Event} {xs : List α}
    (h : ∀ x ∈ xs, Bracketed (f x)) : Bracketed (xs.flatMap f) := by
  induction xs with
  | nil => exact .nil
  | cons x later ih =>
    rw [List.flatMap_cons]
    exact (h x (by simp)).append (ih fun y hy => h y (by simp [hy]))

theorem Visit.bracketed_walk (v : Visit) (t : ScopeTracker) : Bracketed (v.walk t).1 := by
  induction v using Visit.induct generalizing t with
  | step node opens inside ih =>
    rw [Visit.walk_fst, walkAll_fst]
    exact .node node t.scope (.flatMap fun w hw => ih w hw _) .nil

theorem walkAll_bracketed (t : ScopeTracker) (vs : List Visit) : Bracketed (walkAll t vs).1 := by
  rw [walkAll_fst]
  exact .flatMap fun v _ => v.bracketed_walk t

lemma eventsOfModule_eq (body : List Stmt) :
    eventsOfModule body =
      ⟨.enter, .module body, ScopeTracker.empty.scope⟩ ::
        (walkAll .empty (visitsOfBody false body)).1 ++
          [⟨.leave, .module body, ScopeTracker.empty.scope⟩] := by
  rw [eventsOfModule, visitOfModule, Visit.walk_fst]
  rfl

end SaltConventions
