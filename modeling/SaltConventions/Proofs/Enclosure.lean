import Mathlib.Data.List.Forall2
import SaltConventions.Proofs.Dispatch
import SaltConventions.Proofs.Itinerary
import SaltConventions.Proofs.Walk

/-!
# What encloses a node

A node is entered with a scope that tells which constructs enclose it in the syntax tree. The
tracker is kept in step with the parts on the way to a node: a construct is open exactly if one of
them puts the node inside it. `Part.Encloses` says when a part does, in the words of the syntax tree
alone.
-/

namespace SaltConventions

/-- Standing in a part in some role means standing inside a construct: in an `if`, in a `try` with a
handler, in the body of a function, or in a `with`. -/
inductive Part.Encloses : Part → Role → Construct → Prop where
  | ifElse (span : Span) (test : Expr) (body orelse : List Stmt) (role : Role) :
      Encloses (.stmt (.ifElse span test body orelse)) role .ifElse
  | tryExcept (span : Span) (isStar : Bool) (body : List Stmt) (handlers : List Handler)
      (orelse finalbody : List Stmt) (role : Role) (hh : handlers ≠ []) :
      Encloses (.stmt (.tryExcept span isStar body handlers orelse finalbody)) role .tryExcept
  | function (span : Span) (isAsync : Bool) (name : String) (params : List Parameter)
      (body : List Stmt) (decorators : List Expr) :
      Encloses (.stmt (.functionDef span isAsync name params body decorators)) .block .function
  | withBlock (span : Span) (isAsync : Bool) (items : List WithItem) (body : List Stmt)
      (role : Role) : Encloses (.stmt (.withBlock span isAsync items body)) role .withBlock

lemma Part.encloses_iff {p : Part} {role : Role} {c : Construct} :
    p.Encloses role c ↔ p.opens = some c ∧ (c = .function → role = .block) := by
  constructor
  · intro h
    cases h with
    | tryExcept _ _ _ _ _ _ _ hh => simp [opens, hh]
    | ifElse | function | withBlock => simp [opens]
  · rintro ⟨ho, hrole⟩
    cases p with
    | module | expr => cases ho
    | stmt s =>
      cases s with
      | functionDef span isAsync name params body decorators =>
        obtain rfl : Construct.function = c := by simpa [opens] using ho
        obtain rfl := hrole rfl
        exact .function ..
      | ifElse span test body orelse =>
        obtain rfl : Construct.ifElse = c := by simpa [opens] using ho
        exact .ifElse ..
      | withBlock span isAsync items body =>
        obtain rfl : Construct.withBlock = c := by simpa [opens] using ho
        exact .withBlock ..
      | tryExcept span isStar body handlers orelse finalbody =>
        have hh : handlers ≠ [] := by
          rintro rfl
          cases ho
        obtain rfl : Construct.tryExcept = c := by simpa [opens, hh] using ho
        exact .tryExcept _ _ _ _ _ _ _ hh
      | _ => cases ho

lemma Part.encloses_of_mem_inside {p q : Part} {role : Role} (h : (role, q) ∈ p.inside)
    (c : Construct) : p.Encloses role c ↔ p.opens = some c := by
  rw [encloses_iff, and_iff_left_iff_imp]
  rintro ho rfl
  -- Only a function definition opens a function, and it holds nothing but the block of its body.
  have he : p.Encloses .block .function := encloses_iff.mpr ⟨ho, fun _ => rfl⟩
  cases he with
  | function span isAsync name params body decorators =>
    obtain ⟨s, -, hs⟩ := mem_blockParts.mp h
    exact (Prod.mk.inj hs).1

lemma Part.not_encloses_of_mem_ahead {p q : Part} {role : Role} (h : (role, q) ∈ p.ahead)
    (c : Construct) : ¬p.Encloses role c := by
  intro he
  cases he with
  | function span isAsync name params body decorators =>
    simp [ahead, mem_exprParts] at h
  | ifElse | tryExcept | withBlock => simp [ahead] at h

/-! ### The tracker follows the holders -/

/-- Some part on the way puts what stands below it inside a construct. -/
def Enclosed (holders : List (Part × Role)) (c : Construct) : Prop :=
  ∃ h ∈ holders, h.1.Encloses h.2 c

instance (p : Part) (role : Role) (c : Construct) : Decidable (p.Encloses role c) :=
  decidable_of_iff _ Part.encloses_iff.symm

instance (holders : List (Part × Role)) (c : Construct) : Decidable (Enclosed holders c) :=
  inferInstanceAs (Decidable (∃ h ∈ holders, h.1.Encloses h.2 c))

lemma enclosed_append_singleton {holders : List (Part × Role)} {p : Part} {role : Role}
    {c : Construct} :
    Enclosed (holders ++ [(p, role)]) c ↔ Enclosed holders c ∨ p.Encloses role c := by
  simp [Enclosed, or_and_right, exists_or]

/-- The tracker has open what encloses a part with these holders. -/
def ScopeTracker.Follows (t : ScopeTracker) (holders : List (Part × Role)) : Prop :=
  ∀ c, 0 < t.count c ↔ Enclosed holders c

lemma ScopeTracker.follows_empty : ScopeTracker.empty.Follows [] := by
  intro c
  cases c <;> simp [Enclosed, empty, count]

lemma ScopeTracker.Follows.ahead {t : ScopeTracker} {holders : List (Part × Role)}
    (ht : t.Follows holders) {p q : Part} {role : Role} (h : (role, q) ∈ p.ahead) :
    t.Follows (holders ++ [(p, role)]) := by
  intro c
  rw [ht c, enclosed_append_singleton]
  simp [Part.not_encloses_of_mem_ahead h c]

lemma ScopeTracker.Follows.inside {t : ScopeTracker} {holders : List (Part × Role)}
    (ht : t.Follows holders) {p q : Part} {role : Role} (h : (role, q) ∈ p.inside) :
    (t.opened p.opens).Follows (holders ++ [(p, role)]) := by
  intro c
  rw [enclosed_append_singleton, ← ht c, Part.encloses_of_mem_inside h c]
  cases p.opens with
  | none => simp
  | some d =>
    rw [count_opened_some, Option.some.injEq]
    by_cases hc : c = d
    · simp [hc]
    · simp [hc, Ne.symm hc]

/-! ### Entered nodes and their scopes -/

/-- The events that enter a node. -/
def entered (events : List Event) : List Event :=
  events.filter fun e => e.phase == .enter

@[simp] lemma entered_append (xs ys : List Event) : entered (xs ++ ys) = entered xs ++ entered ys :=
  List.filter_append ..

/-- An event shows the node of an occurrence, with the constructs that enclose it. -/
def Occurrence.ShownBy (o : Occurrence) (e : Event) : Prop :=
  o.node? = some e.node ∧ ∀ c, e.scope.inside c = true ↔ Enclosed o.holders c

lemma Occurrence.ShownBy.shows {o : Occurrence} {e : Event} (h : o.ShownBy e) :
    o.part.Shows (inClassBody o.holders) e.node :=
  Part.node?_eq_some_iff.mp h.1

/-- An occurrence in a tree that has holders of its own. -/
def Occurrence.under (holders : List (Part × Role)) (o : Occurrence) : Occurrence :=
  { o with holders := holders ++ o.holders }

lemma Occurrence.shownBy_under_below {holders : List (Part × Role)} {p : Part} {role : Role}
    {i : Nat} {o : Occurrence} {e : Event} :
    ((o.below p role i).under holders).ShownBy e ↔
      (o.under (holders ++ [(p, role)])).ShownBy e := by
  simp [ShownBy, under, below, node?]

lemma inClassBody_append_singleton (holders : List (Part × Role)) (p : Part) (role : Role) :
    inClassBody (holders ++ [(p, role)]) = (p.isClass && role == .block) := by
  simp [inClassBody]

lemma Part.isNode_eq (p : Part) (inClass : Bool) : p.isNode = (p.node? inClass).isSome := by
  unfold isNode
  fun_cases node? false p <;> simp [node?]

lemma Part.opens_of_node?_eq_none {p : Part} {inClass : Bool} (h : p.node? inClass = none) :
    p.opens = none := by
  fun_cases opens p <;> simp_all [node?]

lemma Part.shown_itineraryOf {p : Part} {t : ScopeTracker} {holders : List (Part × Role)}
    {cs : List (Role × Part)} (k : Nat)
    (h : ∀ c ∈ cs, List.Forall₂ (fun o e => (o.under (holders ++ [(p, c.1)])).ShownBy e)
      c.2.itinerary
      (entered (walkAll t (c.2.visits (inClassBody (holders ++ [(p, c.1)])))).1)) :
    List.Forall₂ (fun o e => (o.under holders).ShownBy e) (p.itineraryOf k cs)
      (entered (walkAll t (cs.flatMap p.childVisits)).1) := by
  induction cs generalizing k with
  | nil => exact .nil
  | cons c later ih =>
    have hc := h c (by simp)
    have hlater := ih (k + 1) fun d hd => h d (by simp [hd])
    rw [inClassBody_append_singleton] at hc
    rw [itineraryOf_cons, List.flatMap_cons, walkAll_append_fst, entered_append]
    refine List.rel_append ?_ hlater
    rw [List.forall₂_map_left_iff]
    simpa only [Occurrence.shownBy_under_below, childVisits] using hc

/-- The nodes of a part are entered as its itinerary says, each with the constructs that enclose it.
-/
theorem Part.shown_itinerary (p : Part) {t : ScopeTracker} {holders : List (Part × Role)}
    (ht : t.Follows holders) :
    List.Forall₂ (fun o e => (o.under holders).ShownBy e) p.itinerary
      (entered (walkAll t (p.visits (inClassBody holders))).1) := by
  induction p using Part.induct generalizing t holders with
  | step p ih =>
    have hahead : List.Forall₂ (fun o e => (o.under holders).ShownBy e) (p.itineraryOf 0 p.ahead)
        (entered (walkAll t (p.ahead.flatMap p.childVisits)).1) :=
      shown_itineraryOf 0 fun c hc => ih c (List.mem_append_left _ hc) (ht.ahead hc)
    have hinside : List.Forall₂ (fun o e => (o.under holders).ShownBy e)
        (p.itineraryOf p.ahead.length p.inside)
        (entered (walkAll (t.opened p.opens) (p.inside.flatMap p.childVisits)).1) :=
      shown_itineraryOf _ fun c hc => ih c (List.mem_append_right _ hc) (ht.inside hc)
    rw [itinerary_eq, visits_eq, walkAll_append_fst, entered_append, List.append_assoc]
    refine List.rel_append ?_ ?_
    · split
      · exact .nil
      · exact hahead
    · rw [p.isNode_eq (inClassBody holders)]
      cases hn : p.node? (inClassBody holders) with
      | none =>
        rw [opens_of_node?_eq_none hn] at hinside
        simpa using hinside
      | some node =>
        have hself : ((Occurrence.root p).under holders).ShownBy ⟨.enter, node, t.scope⟩ := by
          simp only [Occurrence.ShownBy, Occurrence.node?, Occurrence.root, Occurrence.under,
            List.append_nil, hn, ScopeTracker.inside_scope, decide_eq_true_eq]
          exact ⟨trivial, ht⟩
        have hevents : entered (walkAll t [.mk node p.opens (p.inside.flatMap p.childVisits)]).1 =
            ⟨.enter, node, t.scope⟩ ::
              entered (walkAll (t.opened p.opens) (p.inside.flatMap p.childVisits)).1 := by
          rw [walkAll_fst, List.flatMap_singleton, Visit.walk_fst]
          simp [entered]
        rw [hevents]
        exact .cons hself hinside

theorem shown_itinerary_module (body : List Stmt) :
    List.Forall₂ Occurrence.ShownBy (Part.module body).itinerary
      (entered (eventsOfModule body)) := by
  have h := (Part.module body).shown_itinerary ScopeTracker.follows_empty
  rw [Part.visits, walkAll_fst, List.flatMap_singleton] at h
  exact h

lemma NodeKind.contains_all (kind : NodeKind) : NodeKind.all.contains kind = true := by
  cases kind <;> rfl

/-- The events of a module are properly nested, every node is entered with the constructs that
enclose it in the tree, and every token comes back at its depth. -/
theorem eventsOfModule_nested_and_scoped (config : Config) (ctx : FileContext) (body : List Stmt)
    (before after : List ActiveRule) :
    (walkModule config ctx body
        (before ++ (Rule.recorder NodeKind.all).activate :: after)).1[before.length]? =
      some ⟨Rule.recorder NodeKind.all, (eventsOfModule body).reverse⟩ ∧
    (∃ scope inside, Bracketed inside ∧ eventsOfModule body =
      ⟨.enter, .module body, scope⟩ :: inside ++ [⟨.leave, .module body, scope⟩]) ∧
    (∃ itinerary : List Occurrence,
      (∀ o ∈ itinerary, (Part.module body).Holds o) ∧
      (itinerary.map Occurrence.address).Nodup ∧
      List.Forall₂ Occurrence.ShownBy itinerary (entered (eventsOfModule body))) ∧
    (∀ r ∈ (visitOfModule body).returns .empty,
      r.2.depth = r.1.count r.2.construct ∧ 0 < r.1.count r.2.construct) ∧
    ∀ (t : ScopeTracker) (p : Part) (inClass : Bool), (walkAll t (p.visits inClass)).2 = t := by
  refine ⟨?_, ?_, ?_, ?_, ?_⟩
  · have h := recorder_after_walkModule config ctx body NodeKind.all before after
    simpa only [NodeKind.contains_all, List.filter_true] using h
  · exact ⟨_, _, walkAll_bracketed _ _, eventsOfModule_eq body⟩
  · exact ⟨(Part.module body).itinerary, fun o ho => (Part.mem_itinerary.mp ho).1,
      (Part.module body).nodup_itinerary, shown_itinerary_module body⟩
  · exact (visitOfModule body).depth_of_mem_returns .empty
  · exact fun t p inClass => walkAll_snd t (p.visits inClass)

end SaltConventions
