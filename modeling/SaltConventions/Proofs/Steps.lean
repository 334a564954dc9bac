import SaltConventions.Proofs.History

/-!
# Steps of a walk

The events of a walk say when a node is entered and left. Most statements are no nodes, and what
holds between two of them cannot be told from events. So the steps of a walk tell of every part that
is walked over when it is reached and when it is left behind, and of the nodes among them when they
are entered and left in between. The events are some of the steps, and so are the occurrences that
are visited.
-/

namespace SaltConventions

/-- What happens with a part: the walk comes to it, enters it and leaves it if it is a node, and goes
on to what comes next. -/
inductive Moment where
  | reach
  | enter
  | leave
  | done
  deriving DecidableEq

/-- One step of a walk: what happens, and where. -/
structure Step where
  moment : Moment
  place : Occurrence

/-- The steps of walking over a part with an address and holders. -/
def Part.steps (address : List Nat) (holders : List (Part × Role)) (p : Part) : List Step :=
  let here : Occurrence := ⟨address, holders, p⟩
  [⟨.reach, here⟩] ++
  (if p.isLambda then []
    else p.ahead.zipIdx.attach.flatMap fun ⟨c, _⟩ =>
      c.1.2.steps (address ++ [c.2]) (holders ++ [(p, c.1.1)])) ++
  (if p.isNode then [⟨.enter, here⟩] else []) ++
  ((p.inside.zipIdx p.ahead.length).attach.flatMap fun ⟨c, _⟩ =>
    c.1.2.steps (address ++ [c.2]) (holders ++ [(p, c.1.1)])) ++
  (if p.isNode then [⟨.leave, here⟩] else []) ++
  [⟨.done, here⟩]
termination_by sizeOf p
decreasing_by
  · exact sizeOf_lt_of_mem_children
      (List.mem_append_left _ (List.fst_mem_of_mem_zipIdx (by assumption)))
  · exact sizeOf_lt_of_mem_children
      (List.mem_append_right _ (List.fst_mem_of_mem_zipIdx (by assumption)))

/-- The steps of walking over some children, numbered from `k` on. -/
def Part.stepsOf (address : List Nat) (holders : List (Part × Role)) (p : Part) (k : Nat)
    (cs : List (Role × Part)) : List Step :=
  (cs.zipIdx k).flatMap fun c => c.1.2.steps (address ++ [c.2]) (holders ++ [(p, c.1.1)])

/-- The steps of walking over a part, from when it is reached until it is done. -/
def Part.stepsBetween (address : List Nat) (holders : List (Part × Role)) (p : Part) : List Step :=
  (if p.isLambda then [] else p.stepsOf address holders 0 p.ahead) ++
  (if p.isNode then [⟨.enter, ⟨address, holders, p⟩⟩] else []) ++
  p.stepsOf address holders p.ahead.length p.inside ++
  (if p.isNode then [⟨.leave, ⟨address, holders, p⟩⟩] else [])

lemma Part.steps_eq (address : List Nat) (holders : List (Part × Role)) (p : Part) :
    p.steps address holders =
      ⟨.reach, ⟨address, holders, p⟩⟩ ::
        (p.stepsBetween address holders ++ [⟨.done, ⟨address, holders, p⟩⟩]) := by
  rw [steps, stepsBetween]
  simp only [stepsOf, List.flatMap_subtype, List.unattach_attach, List.cons_append,
    List.nil_append, List.append_assoc]

lemma Part.stepsOf_cons (address : List Nat) (holders : List (Part × Role)) (p : Part) (k : Nat)
    (c : Role × Part) (later : List (Role × Part)) :
    p.stepsOf address holders k (c :: later) =
      c.2.steps (address ++ [k]) (holders ++ [(p, c.1)]) ++
        p.stepsOf address holders (k + 1) later := by
  simp [stepsOf]

/-! ### Events -/

/-- The scope that shows which constructs enclose what has these holders. -/
def Scope.around (holders : List (Part × Role)) : Scope where
  insideIf := Enclosed holders .ifElse
  insideTry := Enclosed holders .tryExcept
  insideFunction := Enclosed holders .function
  insideWith := Enclosed holders .withBlock

/-- The event of a step, if it is one that rules can see. -/
def Step.event? (step : Step) : Option Event :=
  match step.moment with
  | .enter => step.place.node?.map fun node => ⟨.enter, node, .around step.place.holders⟩
  | .leave => step.place.node?.map fun node => ⟨.leave, node, .around step.place.holders⟩
  | _ => none

lemma Part.filterMap_event?_steps (address : List Nat) (holders : List (Part × Role)) (p : Part) :
    (p.steps address holders).filterMap Step.event? =
      (p.stepsBetween address holders).filterMap Step.event? := by
  simp [steps_eq, Step.event?, List.filterMap_cons]

lemma ScopeTracker.Follows.scope_eq {t : ScopeTracker} {holders : List (Part × Role)}
    (ht : t.Follows holders) : t.scope = .around holders := by
  have hcount : ∀ c, decide (0 < t.count c) = decide (Enclosed holders c) := fun c =>
    decide_eq_decide.mpr (ht c)
  rw [scope, Scope.around, Scope.mk.injEq]
  exact ⟨hcount .ifElse, hcount .tryExcept, hcount .function, hcount .withBlock⟩

lemma Part.events_stepsOf {address : List Nat} {holders : List (Part × Role)} {p : Part}
    {t : ScopeTracker} {cs : List (Role × Part)} (k : Nat)
    (h : ∀ c ∈ cs, ∀ address, (c.2.steps address (holders ++ [(p, c.1)])).filterMap Step.event? =
      (walkAll t (c.2.visits (inClassBody (holders ++ [(p, c.1)])))).1) :
    (p.stepsOf address holders k cs).filterMap Step.event? =
      (walkAll t (cs.flatMap p.childVisits)).1 := by
  induction cs generalizing k with
  | nil => rfl
  | cons c later ih =>
    rw [stepsOf_cons, List.filterMap_append, h c (by simp), ih (k + 1) fun d hd => h d (by simp [hd]),
      List.flatMap_cons, walkAll_append_fst, inClassBody_append_singleton]
    rfl

theorem Part.events_steps (p : Part) {t : ScopeTracker} {holders : List (Part × Role)}
    (ht : t.Follows holders) (address : List Nat) :
    (p.steps address holders).filterMap Step.event? =
      (walkAll t (p.visits (inClassBody holders))).1 := by
  induction p using Part.induct generalizing t holders address with
  | step p ih =>
    have hahead : (p.stepsOf address holders 0 p.ahead).filterMap Step.event? =
        (walkAll t (p.ahead.flatMap p.childVisits)).1 :=
      events_stepsOf 0 fun c hc => ih c (List.mem_append_left _ hc) (ht.ahead hc)
    have hinside : (p.stepsOf address holders p.ahead.length p.inside).filterMap Step.event? =
        (walkAll (t.opened p.opens) (p.inside.flatMap p.childVisits)).1 :=
      events_stepsOf _ fun c hc => ih c (List.mem_append_right _ hc) (ht.inside hc)
    have hsurroundings : (if p.isLambda then [] else p.stepsOf address holders 0 p.ahead).filterMap
        Step.event? = (walkAll t (if p.isLambda then [] else p.ahead.flatMap p.childVisits)).1 := by
      split
      · rfl
      · exact hahead
    rw [filterMap_event?_steps, stepsBetween, visits_eq, walkAll_append_fst,
      p.isNode_eq (inClassBody holders)]
    simp only [List.filterMap_append, hsurroundings, hinside]
    cases hn : p.node? (inClassBody holders) with
    | none =>
      rw [opens_of_node?_eq_none hn]
      simp [Step.event?]
    | some node =>
      have hevent : Occurrence.node? ⟨address, holders, p⟩ = some node := hn
      simp [Step.event?, hevent, walkAll_fst, Visit.walk_fst, ht.scope_eq]

/-! ### What is visited -/

def Step.entered? (step : Step) : Option Occurrence :=
  match step.moment with
  | .enter => some step.place
  | _ => none

def Occurrence.within (address : List Nat) (holders : List (Part × Role)) (o : Occurrence) :
    Occurrence :=
  ⟨address ++ o.address, holders ++ o.holders, o.part⟩

lemma Occurrence.within_root (address : List Nat) (holders : List (Part × Role)) (p : Part) :
    (Occurrence.root p).within address holders = ⟨address, holders, p⟩ := by
  simp [within, root]

lemma Occurrence.within_below (address : List Nat) (holders : List (Part × Role)) (p : Part)
    (role : Role) (i : Nat) (o : Occurrence) :
    (o.below p role i).within address holders =
      o.within (address ++ [i]) (holders ++ [(p, role)]) := by
  simp [within, below]

lemma Part.entered_stepsOf (address : List Nat) (holders : List (Part × Role)) {p : Part}
    {cs : List (Role × Part)} (k : Nat)
    (h : ∀ c ∈ cs, ∀ address holders, (c.2.steps address holders).filterMap Step.entered? =
      c.2.itinerary.map (.within address holders)) :
    (p.stepsOf address holders k cs).filterMap Step.entered? =
      (p.itineraryOf k cs).map (.within address holders) := by
  induction cs generalizing k with
  | nil => rfl
  | cons c later ih =>
    rw [stepsOf_cons, List.filterMap_append, h c (by simp), ih (k + 1) fun d hd => h d (by simp [hd]),
      itineraryOf_cons, List.map_append, List.map_map]
    congr 2
    funext o
    exact (Occurrence.within_below ..).symm

theorem Part.entered_steps (address : List Nat) (holders : List (Part × Role)) (p : Part) :
    (p.steps address holders).filterMap Step.entered? =
      p.itinerary.map (.within address holders) := by
  induction p using Part.induct generalizing address holders with
  | step p ih =>
    have hahead := entered_stepsOf address holders (p := p) 0
      fun c hc a hs => ih c (List.mem_append_left _ hc) a hs
    have hinside := entered_stepsOf address holders (p := p) p.ahead.length
      fun c hc a hs => ih c (List.mem_append_right _ hc) a hs
    have hsurroundings : (if p.isLambda then [] else p.stepsOf address holders 0 p.ahead).filterMap
        Step.entered? =
          (if p.isLambda then [] else p.itineraryOf 0 p.ahead).map (.within address holders) := by
      split
      · rfl
      · exact hahead
    rw [steps_eq, stepsBetween, itinerary_eq]
    simp only [List.filterMap_cons, List.filterMap_append, List.map_append, hsurroundings, hinside]
    by_cases hn : p.isNode <;>
      simp [hn, Step.entered?, List.filterMap_cons, Occurrence.within_root]

/-! ### Steps of a module -/

lemma Part.stepsOf_split (address : List Nat) (holders : List (Part × Role)) {p : Part} {k i : Nat}
    {cs : List (Role × Part)} {c : Role × Part} (h : (c, i) ∈ cs.zipIdx k) :
    ∃ before after, p.stepsOf address holders k cs =
      before ++ c.2.steps (address ++ [i]) (holders ++ [(p, c.1)]) ++ after := by
  obtain ⟨before, after, hsplit⟩ := List.append_of_mem h
  rw [stepsOf, hsplit, List.flatMap_append, List.flatMap_cons, ← List.append_assoc]
  exact ⟨_, _, rfl⟩

/-- Walking over a statement is a part of the steps: what happens between reaching it and being done
with it are the events of its visits. -/
lemma Part.Holds.steps_split {p : Part} {o : Occurrence} (h : p.Holds o) {s : Stmt}
    (hs : o.part = .stmt s) {t : ScopeTracker} {holders : List (Part × Role)}
    (ht : t.Follows holders) (address : List Nat) :
    ∃ before inner after, p.steps address holders =
        before ++ ⟨.reach, o.within address holders⟩ ::
          (inner ++ ⟨.done, o.within address holders⟩ :: after) ∧
      ∃ u : ScopeTracker, u.Follows (holders ++ o.holders) ∧ inner.filterMap Step.event? =
        (walkAll u (s.visits (inClassBody (holders ++ o.holders)))).1 := by
  induction h generalizing t holders address with
  | self p =>
    obtain rfl : p = .stmt s := hs
    refine ⟨[], (Part.stmt s).stepsBetween address holders, [], ?_, t, ?_, ?_⟩
    · rw [Occurrence.within_root, steps_eq, List.nil_append]
    · simpa [Occurrence.root] using ht
    · rw [← filterMap_event?_steps, events_steps _ ht]
      simp [Occurrence.root, visits]
  | @child p c role i q hc hq ih =>
    have hin : ((role, c), i) ∈ p.inside.zipIdx p.ahead.length := by
      refine (getElem?_children.mp hc).resolve_left fun hahead => ?_
      obtain ⟨e, rfl⟩ := eq_expr_of_mem_ahead (List.fst_mem_of_mem_zipIdx hahead)
      obtain ⟨f, hf⟩ := hq.eq_expr
      exact absurd (hf.symm.trans hs) (by simp)
    obtain ⟨left, right, hsplit⟩ := stepsOf_split address holders hin
    obtain ⟨before, inner, after, hsteps, u, hu, hinner⟩ :=
      ih hs (ht.inside (List.fst_mem_of_mem_zipIdx hin)) (address ++ [i])
    rw [List.append_assoc] at hu hinner
    rw [hsteps] at hsplit
    rw [steps_eq, stepsBetween, hsplit, Occurrence.within_below]
    refine ⟨⟨.reach, ⟨address, holders, p⟩⟩ ::
      ((if p.isLambda then [] else p.stepsOf address holders 0 p.ahead) ++
        (if p.isNode then [⟨.enter, ⟨address, holders, p⟩⟩] else []) ++ left ++ before), inner,
      after ++ right ++ (if p.isNode then [⟨.leave, ⟨address, holders, p⟩⟩] else []) ++
        [⟨.done, ⟨address, holders, p⟩⟩], ?_, u, hu, hinner⟩
    simp only [List.append_assoc, List.cons_append]

/-- The steps of a walk of a module: its events are among them, and each of its statements is walked
over between being reached and being done. -/
structure StepsThrough (body : List Stmt) (steps : List Step) : Prop where
  events : steps.filterMap Step.event? = eventsOfModule body
  entered : VisitedInOrder body (steps.filterMap Step.entered?)
  statements : ∀ o s, (Part.module body).Holds o → o.part = .stmt s →
    ∃ before inner after, steps = before ++ ⟨.reach, o⟩ :: (inner ++ ⟨.done, o⟩ :: after) ∧
      ∃ t : ScopeTracker, t.Follows o.holders ∧
        inner.filterMap Step.event? = (walkAll t (s.visits (inClassBody o.holders))).1

theorem stepsThrough (body : List Stmt) :
    StepsThrough body ((Part.module body).steps [] []) where
  events := by
    rw [Part.events_steps _ ScopeTracker.follows_empty, Part.visits, walkAll_fst,
      List.flatMap_singleton]
    rfl
  entered := by
    have hsame : Occurrence.within [] [] = id := rfl
    rw [Part.entered_steps, hsame, List.map_id]
    exact visitedInOrder body
  statements _ _ ho hs := ho.steps_split hs ScopeTracker.follows_empty []

/-! ### Watching the steps -/

namespace Watcher

variable {σ : Type} (w : Watcher σ) (ctx : FileContext)

/-- The state after a step. -/
def pass (s : σ) (step : Step) : σ :=
  match step.event? with
  | some event => (w.observe ctx event s).1
  | none => s

/-- What is found at a step. -/
def foundAt (s : σ) (step : Step) : List Finding :=
  match step.event? with
  | some event => (w.observe ctx event s).2
  | none => []

lemma run_steps (steps : List Step) (s : σ) :
    w.run ctx (steps.filterMap Step.event?) s =
      (steps.foldl (w.pass ctx) s,
        (withEarlier steps).flatMap fun y => w.foundAt ctx (y.1.foldl (w.pass ctx) s) y.2) := by
  induction steps generalizing s with
  | nil => rfl
  | cons step later ih =>
    rw [withEarlier_cons, List.flatMap_cons, List.flatMap_map]
    cases he : step.event? with
    | none =>
      rw [List.filterMap_cons_none he, ih]
      simp [pass, foundAt, he]
    | some event =>
      rw [List.filterMap_cons_some he, run_cons, ih]
      simp [pass, foundAt, he]

end Watcher

lemma withEarlier_filterMap {α β : Type} (f : α → Option β) (xs : List α) :
    withEarlier (xs.filterMap f) =
      (withEarlier xs).filterMap fun y => (f y.2).map fun z => (y.1.filterMap f, z) := by
  induction xs with
  | nil => rfl
  | cons x later ih =>
    rw [withEarlier_cons, List.filterMap_cons, List.filterMap_cons, List.filterMap_map]
    cases hx : f x with
    | none =>
      rw [ih]
      apply List.filterMap_congr
      intro y _
      simp [hx]
    | some z =>
      dsimp only [Option.map_some]
      rw [withEarlier_cons, ih, List.map_filterMap]
      congr 1
      apply List.filterMap_congr
      intro y _
      cases hy : f y.2 <;> simp [hx, hy]

/-- Some elements are passed from a state: before each of them `C` holds of it and of the state, and
after all of them `Q` holds. -/
def PassesThrough {σ α : Type} (pass : σ → α → σ) (C : α → σ → Prop) (Q : σ → Prop) :
    List α → σ → Prop
  | [], s => Q s
  | x :: later, s => C x s ∧ PassesThrough pass C Q later (pass s x)

section

variable {σ α : Type} {pass : σ → α → σ} {C : α → σ → Prop} {Q R : σ → Prop}

lemma PassesThrough.append {xs ys : List α} {s : σ} (hx : PassesThrough pass C Q xs s)
    (hy : ∀ t, Q t → PassesThrough pass C R ys t) : PassesThrough pass C R (xs ++ ys) s := by
  induction xs generalizing s with
  | nil => exact hy s hx
  | cons x later ih => exact ⟨hx.1, ih hx.2⟩

lemma PassesThrough.imp {xs : List α} {s : σ} (h : PassesThrough pass C Q xs s)
    (hqr : ∀ t, Q t → R t) : PassesThrough pass C R xs s := by
  induction xs generalizing s with
  | nil => exact hqr s h
  | cons x later ih => exact ⟨h.1, ih h.2⟩

lemma PassesThrough.ite_singleton {b : Bool} {x : α} {s : σ}
    (h : if b then C x s ∧ Q (pass s x) else Q s) :
    PassesThrough pass C Q (if b then [x] else []) s := by
  cases b <;> exact h

lemma PassesThrough.of_mem_withEarlier {xs : List α} {s : σ} (h : PassesThrough pass C Q xs s)
    {y : List α × α} (hy : y ∈ withEarlier xs) : C y.2 (y.1.foldl pass s) := by
  induction xs generalizing s y with
  | nil => cases hy
  | cons x later ih =>
    rw [withEarlier_cons, List.mem_cons, List.mem_map] at hy
    rcases hy with rfl | ⟨z, hz, rfl⟩
    · exact h.1
    · exact ih h.2 hz

end

section

variable {σ : Type} {pass : σ → Step → σ} {C : Step → σ → Prop} {address : List Nat}
  {holders : List (Part × Role)} {p : Part}

/-- If every child is passed and keeps `Q`, then so are the children one after another. -/
lemma Part.passesThrough_stepsOf {Q : σ → Prop} {cs : List (Role × Part)} (k : Nat)
    (h : ∀ c ∈ cs, ∀ address s, Q s →
      PassesThrough pass C Q (c.2.steps address (holders ++ [(p, c.1)])) s) {s : σ} (hs : Q s) :
    PassesThrough pass C Q (p.stepsOf address holders k cs) s := by
  induction cs generalizing k s with
  | nil => exact hs
  | cons c later ih =>
    rw [stepsOf_cons]
    exact (h c (by simp) _ s hs).append fun t ht => ih (k + 1) (fun d hd => h d (by simp [hd])) ht

/-- A part is passed if its surroundings keep `Before` and its inside keeps `Inside`, and the steps of
the part itself lead from one to the next. -/
theorem Part.passesThrough_steps (Before Inside After Q : σ → Prop)
    (hreach : ∀ s, Before s → C ⟨.reach, ⟨address, holders, p⟩⟩ s ∧
      Before (pass s ⟨.reach, ⟨address, holders, p⟩⟩))
    (hahead : p.isLambda = false → ∀ c ∈ p.ahead, ∀ address s, Before s →
      PassesThrough pass C Before (c.2.steps address (holders ++ [(p, c.1)])) s)
    (henter : ∀ s, Before s → if p.isNode then C ⟨.enter, ⟨address, holders, p⟩⟩ s ∧
      Inside (pass s ⟨.enter, ⟨address, holders, p⟩⟩) else Inside s)
    (hinside : ∀ c ∈ p.inside, ∀ address s, Inside s →
      PassesThrough pass C Inside (c.2.steps address (holders ++ [(p, c.1)])) s)
    (hleave : ∀ s, Inside s → if p.isNode then C ⟨.leave, ⟨address, holders, p⟩⟩ s ∧
      After (pass s ⟨.leave, ⟨address, holders, p⟩⟩) else After s)
    (hdone : ∀ s, After s → C ⟨.done, ⟨address, holders, p⟩⟩ s ∧
      Q (pass s ⟨.done, ⟨address, holders, p⟩⟩)) {s : σ} (hs : Before s) :
    PassesThrough pass C Q (p.steps address holders) s := by
  rw [steps_eq, stepsBetween]
  have hsurroundings : ∀ t, Before t → PassesThrough pass C Before
      (if p.isLambda then [] else p.stepsOf address holders 0 p.ahead) t := by
    intro t ht
    split
    · exact ht
    · rename_i hl
      exact passesThrough_stepsOf 0 (hahead (Bool.eq_false_iff.mpr hl)) ht
  obtain ⟨hfirst, hbefore⟩ := hreach s hs
  refine ⟨hfirst, PassesThrough.append ?_ hdone⟩
  exact (((hsurroundings _ hbefore).append fun t ht => .ite_singleton (henter t ht)).append
    fun t ht => passesThrough_stepsOf _ hinside ht).append fun t ht => .ite_singleton (hleave t ht)

end

end SaltConventions
