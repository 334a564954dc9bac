import Mathlib.Data.List.Infix
import SaltConventions.Proofs.RuleDiagnostics

/-!
# What came before

What a rule finds about a node can hang on the nodes that were entered before it. `withEarlier` puts
the elements before it next to each element of a list. A rule whose state is learned from one node
after the other finds about a node what the nodes before it have taught.
-/

namespace SaltConventions

/-- The elements of a list, each with those before it. -/
def withEarlier {α : Type} (xs : List α) : List (List α × α) :=
  xs.inits.zip xs

lemma withEarlier_cons {α : Type} (x : α) (xs : List α) :
    withEarlier (x :: xs) = ([], x) :: (withEarlier xs).map fun y => (x :: y.1, y.2) := by
  rw [withEarlier, List.inits, List.zip_cons_cons, List.zip_map_left]
  rfl

lemma map_snd_withEarlier {α : Type} (xs : List α) : (withEarlier xs).map Prod.snd = xs := by
  induction xs with
  | nil => rfl
  | cons x later ih =>
    rw [withEarlier_cons, List.map_cons, List.map_map]
    exact congrArg (x :: ·) ih

lemma mem_withEarlier {α : Type} {xs before : List α} {x : α} :
    (before, x) ∈ withEarlier xs ↔ ∃ after, xs = before ++ x :: after := by
  induction xs generalizing before with
  | nil => simp [withEarlier]
  | cons y later ih =>
    rw [withEarlier_cons, List.mem_cons, List.mem_map]
    constructor
    · rintro (h | ⟨⟨earlier, z⟩, hz, heq⟩)
      · obtain ⟨rfl, rfl⟩ := Prod.mk.inj h
        exact ⟨later, rfl⟩
      · obtain ⟨rfl, rfl⟩ := Prod.mk.inj heq
        obtain ⟨after, rfl⟩ := ih.mp hz
        exact ⟨after, rfl⟩
    · rintro ⟨after, h⟩
      cases before with
      | nil =>
        obtain ⟨rfl, -⟩ := List.cons_eq_cons.mp h
        exact .inl rfl
      | cons z earlier =>
        obtain ⟨rfl, hlater⟩ := List.cons_eq_cons.mp h
        exact .inr ⟨(earlier, x), ih.mpr ⟨after, hlater⟩, rfl⟩

/-! ### Rules that learn -/

/-- Each event teaches a watcher, and makes it find, what the element beside it says. So about each
element it finds what it has learned to find from those before. -/
theorem Watcher.run_of_forall₂ {σ α : Type} {w : Watcher σ} {ctx : FileContext}
    {learn : σ → α → σ} {found : σ → α → List Finding} {as : List α} {events : List Event}
    (h : List.Forall₂ (fun a e => ∀ s, w.observe ctx e s = (learn s a, found s a)) as events)
    (s : σ) :
    w.run ctx events s =
      (as.foldl learn s, (withEarlier as).flatMap fun y => found (y.1.foldl learn s) y.2) := by
  induction h generalizing s with
  | nil => rfl
  | cons hstep _ ih =>
    rw [run_cons, hstep, ih, withEarlier_cons, List.flatMap_cons, List.flatMap_map]
    rfl

/-- The occurrences that a walk of a module visits, each place once, in the order in which they are
entered. -/
structure VisitedInOrder (body : List Stmt) (visited : List Occurrence) : Prop where
  mem_iff : ∀ o, o ∈ visited ↔ (Part.module body).Holds o ∧ o.Visited
  addresses : (visited.map Occurrence.address).Nodup
  entered : List.Forall₂ Occurrence.ShownBy visited (entered (eventsOfModule body))

theorem visitedInOrder (body : List Stmt) : VisitedInOrder body (Part.module body).itinerary where
  mem_iff _ := Part.mem_itinerary
  addresses := (Part.module body).nodup_itinerary
  entered := shown_itinerary_module body

lemma itinerary_module (body : List Stmt) :
    (Part.module body).itinerary =
      .root (.module body) :: (Part.module body).itineraryOf 0 (blockParts body) := by
  rw [Part.itinerary_eq]
  rfl

lemma entered_eventsOfModule (body : List Stmt) :
    entered (eventsOfModule body) =
      ⟨.enter, .module body, ScopeTracker.empty.scope⟩ ::
        entered (walkAll .empty (visitsOfBody false body)).1 := by
  rw [eventsOfModule_eq, List.cons_append, entered, List.filter_cons_of_pos rfl,
    List.filter_append]
  exact congrArg _ (List.append_nil _)

/-- A watcher of a module that starts afresh with it, learns only from nodes that are entered, and
learns nothing from the module itself. -/
structure Watcher.LearnsBy {σ : Type} (w : Watcher σ) (ctx : FileContext) (initial : σ)
    (learn : σ → Occurrence → σ) (found : σ → Occurrence → List Finding) : Prop where
  start : ∀ body scope s, w.observe ctx ⟨.enter, .module body, scope⟩ s = (initial, [])
  leave : ∀ node scope s, w.observe ctx ⟨.leave, node, scope⟩ s = (s, [])
  enter : ∀ o node scope s, o.ShownBy ⟨.enter, node, scope⟩ → node.kind ≠ .module →
    w.observe ctx ⟨.enter, node, scope⟩ s = (learn s o, found s o)
  root : ∀ body, learn initial (.root (.module body)) = initial ∧
    found initial (.root (.module body)) = []

theorem Watcher.LearnsBy.run_eventsOfModule {σ : Type} {w : Watcher σ} {ctx : FileContext}
    {initial : σ} {learn : σ → Occurrence → σ} {found : σ → Occurrence → List Finding}
    (h : w.LearnsBy ctx initial learn found) (body : List Stmt) (s : σ) :
    (w.run ctx (eventsOfModule body) s).2 =
      (withEarlier (Part.module body).itinerary).flatMap
        fun y => found (y.1.foldl learn initial) y.2 := by
  have hidle : ∀ e ∈ eventsOfModule body, (e.phase == .enter) = false →
      ∀ s, w.observe ctx e s = (s, []) := by
    rintro ⟨phase, node, scope⟩ - hphase
    cases phase with
    | enter => cases hphase
    | leave => exact h.leave node scope
  have hshown := shown_itinerary_module body
  rw [itinerary_module, entered_eventsOfModule] at hshown
  have hinner : ∀ e ∈ entered (walkAll .empty (visitsOfBody false body)).1,
      e.phase = .enter ∧ e.node.kind ≠ .module := by
    intro e he
    obtain ⟨he, hphase⟩ := List.mem_filter.mp he
    exact ⟨beq_iff_eq.mp hphase, kind_of_mem_walkAll_body he⟩
  have hsteps : List.Forall₂ (fun o e => ∀ s, w.observe ctx e s = (learn s o, found s o))
      ((Part.module body).itineraryOf 0 (blockParts body))
      (entered (walkAll .empty (visitsOfBody false body)).1) := by
    have hboth := (List.forall₂_and_left _ _).mpr ⟨hinner, (List.forall₂_cons.mp hshown).2.flip⟩
    refine hboth.flip.imp ?_
    rintro o ⟨_, node, scope⟩ ⟨⟨rfl, hkind⟩, hshows⟩ s
    exact h.enter o node scope s hshows hkind
  rw [Watcher.run_filter hidle, ← entered, entered_eventsOfModule, Watcher.run_cons, h.start,
    Watcher.run_of_forall₂ hsteps, itinerary_module, withEarlier_cons, List.flatMap_cons,
    List.flatMap_map]
  simp only [List.foldl_cons, List.foldl_nil, (h.root body).1, (h.root body).2, List.nil_append]

end SaltConventions
