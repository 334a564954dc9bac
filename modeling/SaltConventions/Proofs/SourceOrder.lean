import SaltConventions.Proofs.Enclosure

/-!
# Statements in source order

In a module whose statements have ranges as a source text gives them, the statements that rules can
see are entered in the order of the text: all of them, whatever blocks they stand in, and each once.
The order of the ranges is a condition on each part and the statements directly in it; that it holds
along a whole walk is the content of this file.
-/

namespace SaltConventions

def Stmt.span : Stmt → Span
  | functionDef span _ _ _ _ _ => span
  | classDef span _ _ _ _ _ => span
  | ret span _ => span
  | delete span _ => span
  | assign span _ _ => span
  | typeAlias span => span
  | augAssign span _ _ => span
  | annAssign span _ _ => span
  | forLoop span _ _ _ _ _ => span
  | whileLoop span _ _ _ => span
  | ifElse span _ _ _ => span
  | withBlock span _ _ _ => span
  | matchCases span _ _ => span
  | raise span _ _ => span
  | tryExcept span _ _ _ _ _ => span
  | assert span _ _ => span
  | importNames span _ => span
  | importFrom span _ _ _ => span
  | scopeNames span _ => span
  | expr span _ => span
  | pass span => span
  | jump span => span

def Part.stmt? : Part → Option Stmt
  | stmt s => some s
  | _ => none

/-- The statements directly in a part, those of successive blocks one after another. -/
def Part.nested (p : Part) : List Stmt :=
  p.children.filterMap fun c => c.2.stmt?

/-- The ranges of statements are as in a source text: those directly in one part are not empty,
follow each other and lie in the statement that holds them. -/
inductive Part.WellRanged : Part → Prop where
  | intro {p : Part} (nonempty : ∀ s ∈ p.nested, s.span.start < s.span.stop)
      (apart : p.nested.Pairwise fun a b => a.span.stop ≤ b.span.start)
      (within : ∀ holder, p.stmt? = some holder → ∀ s ∈ p.nested,
        holder.span.start < s.span.start ∧ s.span.stop ≤ holder.span.stop)
      (children : ∀ c ∈ p.children, c.2.WellRanged) : p.WellRanged

/-! ### Starts of the statements on an itinerary -/

/-- Where the statements start that are visited in a part. -/
def Part.starts (p : Part) : List Nat :=
  p.itinerary.filterMap fun o => o.part.stmt?.map fun s => s.span.start

lemma Part.filterMap_itineraryOf (p : Part) (k : Nat) (cs : List (Role × Part)) :
    (p.itineraryOf k cs).filterMap (fun o => o.part.stmt?.map fun s => s.span.start) =
      cs.flatMap fun c => c.2.starts := by
  induction cs generalizing k with
  | nil => rfl
  | cons c later ih =>
    rw [itineraryOf_cons, List.filterMap_append, ih, List.flatMap_cons, List.filterMap_map]
    rfl

lemma Part.starts_eq (p : Part) :
    p.starts =
      (if p.isLambda then [] else p.ahead.flatMap fun c => c.2.starts) ++
      (if p.isNode then (p.stmt?.map fun s => s.span.start).toList else []) ++
      p.inside.flatMap fun c => c.2.starts := by
  rw [starts, itinerary_eq, List.filterMap_append, List.filterMap_append, filterMap_itineraryOf]
  congr 2
  · split
    · rfl
    · exact p.filterMap_itineraryOf 0 p.ahead
  · split
    · cases h : p.stmt? <;> simp [Occurrence.root, h]
    · rfl

lemma eq_expr_of_mem_exprParts {role : Role} {es : List Expr} {c : Role × Part}
    (h : c ∈ exprParts role es) : ∃ e, c.2 = .expr e := by
  obtain ⟨e, -, rfl⟩ := mem_exprParts.mp h
  exact ⟨e, rfl⟩

lemma eq_stmt_of_mem_blockParts {body : List Stmt} {c : Role × Part} (h : c ∈ blockParts body) :
    ∃ s, c.2 = .stmt s := by
  obtain ⟨s, -, rfl⟩ := mem_blockParts.mp h
  exact ⟨s, rfl⟩

lemma Part.eq_expr_of_mem_ahead {p : Part} {c : Role × Part} (h : c ∈ p.ahead) :
    ∃ e, c.2 = .expr e := by
  cases p with
  | module body => cases h
  | stmt s =>
    cases s with
    | functionDef span isAsync name params body decorators =>
      rcases List.mem_append.mp h with hdecorator | hdefault
      · exact eq_expr_of_mem_exprParts hdecorator
      · exact eq_expr_of_mem_exprParts hdefault
    | classDef => exact eq_expr_of_mem_exprParts h
    | _ => cases h
  | expr e =>
    cases e with
    | lambda => exact eq_expr_of_mem_exprParts h
    | _ => cases h

lemma Part.eq_expr_of_mem_children {e : Expr} {c : Role × Part}
    (h : c ∈ (Part.expr e).children) : ∃ f, c.2 = .expr f := by
  rcases List.mem_append.mp h with ha | hi
  · exact eq_expr_of_mem_ahead ha
  · exact eq_expr_of_mem_exprParts hi

lemma Part.eq_stmt_or_expr_of_mem_children {p : Part} {c : Role × Part} (h : c ∈ p.children) :
    (∃ s, c.2 = .stmt s) ∨ ∃ e, c.2 = .expr e := by
  have hh : ∀ hs : List Handler, c ∈ hs.flatMap Handler.parts →
      (∃ s, c.2 = .stmt s) ∨ ∃ e, c.2 = .expr e := by
    intro hs hc
    obtain ⟨⟨type, name, body⟩, -, hc⟩ := List.mem_flatMap.mp hc
    exact (List.mem_append.mp hc).symm.imp eq_stmt_of_mem_blockParts eq_expr_of_mem_exprParts
  have hm : ∀ cs : List MatchCase, c ∈ cs.flatMap MatchCase.parts →
      (∃ s, c.2 = .stmt s) ∨ ∃ e, c.2 = .expr e := by
    intro cs hc
    obtain ⟨⟨guard, body⟩, -, hc⟩ := List.mem_flatMap.mp hc
    exact (List.mem_append.mp hc).symm.imp eq_stmt_of_mem_blockParts eq_expr_of_mem_exprParts
  rcases List.mem_append.mp h with ha | hi
  · exact .inr (eq_expr_of_mem_ahead ha)
  · cases p with
    | module body => exact .inl (eq_stmt_of_mem_blockParts hi)
    | expr e => exact .inr (eq_expr_of_mem_exprParts hi)
    | stmt s =>
      cases s <;> simp only [inside, Stmt.inside, List.mem_append, List.not_mem_nil] at hi <;>
        grind [eq_expr_of_mem_exprParts, eq_stmt_of_mem_blockParts]

lemma Part.stmt?_of_mem_ahead {p : Part} {c : Role × Part} (h : c ∈ p.ahead) :
    c.2.stmt? = none := by
  obtain ⟨e, he⟩ := eq_expr_of_mem_ahead h
  simp [he, stmt?]

lemma Part.nested_eq (p : Part) : p.nested = p.inside.filterMap fun c => c.2.stmt? := by
  have ha : (p.ahead.filterMap fun c => c.2.stmt?) = [] :=
    List.filterMap_eq_nil_iff.mpr fun c hc => stmt?_of_mem_ahead hc
  rw [nested, children, List.filterMap_append, ha, List.nil_append]

lemma Part.flatMap_starts {cs : List (Role × Part)}
    (h : ∀ c ∈ cs, c.2.stmt? = none → c.2.starts = []) :
    (cs.flatMap fun c => c.2.starts) =
      (cs.filterMap fun c => c.2.stmt?).flatMap fun s => (Part.stmt s).starts := by
  induction cs with
  | nil => rfl
  | cons c later ih =>
    have hlater := ih fun d hd => h d (by simp [hd])
    have hc := h c (by simp)
    obtain ⟨role, q⟩ := c
    cases q with
    | stmt s => simp [stmt?, hlater]
    | module | expr =>
      specialize hc rfl
      simp [stmt?, hlater, hc]

lemma Part.starts_expr (e : Expr) : (Part.expr e).starts = [] := by
  generalize hp : Part.expr e = p
  induction p using Part.induct generalizing e with
  | step p ih =>
    subst hp
    have hc : ∀ c ∈ (Part.expr e).children, c.2.starts = [] := by
      intro c hc
      obtain ⟨f, hf⟩ := eq_expr_of_mem_children hc
      exact ih c hc f hf.symm
    have hahead := List.flatMap_eq_nil_iff.mpr fun c h => hc c (List.mem_append_left _ h)
    have hinside := List.flatMap_eq_nil_iff.mpr fun c h => hc c (List.mem_append_right _ h)
    rw [starts_eq, hahead, hinside]
    simp [stmt?]

lemma Part.starts_of_mem_children {p : Part} {c : Role × Part} (h : c ∈ p.children)
    (hs : c.2.stmt? = none) : c.2.starts = [] := by
  rcases eq_stmt_or_expr_of_mem_children h with ⟨s, hc⟩ | ⟨e, hc⟩
  · simp [hc, stmt?] at hs
  · rw [hc, starts_expr]

lemma Part.starts_eq_nested (p : Part) :
    p.starts = (if p.isNode then (p.stmt?.map fun s => s.span.start).toList else []) ++
      p.nested.flatMap fun s => (Part.stmt s).starts := by
  have hahead : (p.ahead.flatMap fun c => c.2.starts) = [] :=
    List.flatMap_eq_nil_iff.mpr fun c hc =>
      starts_of_mem_children (List.mem_append_left _ hc) (stmt?_of_mem_ahead hc)
  rw [starts_eq, hahead, ite_self, List.nil_append, nested_eq,
    flatMap_starts fun c hc => starts_of_mem_children (List.mem_append_right _ hc)]

/-! ### The order of the starts -/

lemma pairwise_flatMap_of_apart {ss : List Stmt} {f : Stmt → List Nat}
    (apart : ss.Pairwise fun a b => a.span.stop ≤ b.span.start)
    (hf : ∀ s ∈ ss, (f s).Pairwise (· < ·) ∧ ∀ x ∈ f s, s.span.start ≤ x ∧ x < s.span.stop) :
    (ss.flatMap f).Pairwise (· < ·) := by
  rw [List.pairwise_flatMap]
  refine ⟨fun s hs => (hf s hs).1, ?_⟩
  refine apart.imp_of_mem ?_
  intro a b ha hb hab x hx y hy
  have hxa := ((hf a ha).2 x hx).2
  have hyb := ((hf b hb).2 y hy).1
  omega

/-- The starts of the statements visited in a part increase, and those in a statement lie in its
range. -/
theorem Part.WellRanged.starts_increase {p : Part} (h : p.WellRanged) :
    p.starts.Pairwise (· < ·) ∧
      ∀ s, p.stmt? = some s → s.span.start < s.span.stop →
        ∀ x ∈ p.starts, s.span.start ≤ x ∧ x < s.span.stop := by
  induction h with
  | @intro p nonempty apart within children ih =>
    have hnested : ∀ s ∈ p.nested, (Part.stmt s).starts.Pairwise (· < ·) ∧
        ∀ x ∈ (Part.stmt s).starts, s.span.start ≤ x ∧ x < s.span.stop := by
      intro s hs
      obtain ⟨⟨role, q⟩, hc, hq⟩ := List.mem_filterMap.mp hs
      obtain rfl : q = .stmt s := by
        cases q <;> simp_all [stmt?]
      obtain ⟨hp, hx⟩ := ih _ hc
      exact ⟨hp, hx s rfl (nonempty s hs)⟩
    have hpair := pairwise_flatMap_of_apart apart hnested
    rw [starts_eq_nested]
    cases hp : p.stmt? with
    | none => simpa using hpair
    | some holder =>
      have hin : ∀ x ∈ p.nested.flatMap fun s => (Part.stmt s).starts,
          holder.span.start < x ∧ x < holder.span.stop := by
        intro x hx
        obtain ⟨s, hs, hxs⟩ := List.mem_flatMap.mp hx
        have hs' := within holder hp s hs
        have hx' := (hnested s hs).2 x hxs
        omega
      refine ⟨?_, ?_⟩
      · split
        · exact List.pairwise_cons.mpr ⟨fun x hx => (hin x hx).1, hpair⟩
        · exact hpair
      · rintro _ ⟨rfl⟩ hne x hx
        rcases List.mem_append.mp hx with ho | hn
        · have hx' : x = holder.span.start := by
            split at ho
            · simpa using ho
            · simp at ho
          omega
        · have hstands : holder.span.start < x ∧ x < holder.span.stop := hin x hn
          omega

lemma Part.wellRanged_expr (e : Expr) : (Part.expr e).WellRanged := by
  generalize hp : Part.expr e = p
  induction p using Part.induct generalizing e with
  | step p ih =>
    subst hp
    have hnested : (Part.expr e).nested = [] := by
      refine List.filterMap_eq_nil_iff.mpr fun c hc => ?_
      obtain ⟨f, hf⟩ := eq_expr_of_mem_children hc
      simp [hf, stmt?]
    refine .intro (by simp [hnested]) (by simp [hnested]) (by simp [hnested]) fun c hc => ?_
    obtain ⟨f, hf⟩ := eq_expr_of_mem_children hc
    exact ih c hc f hf.symm

/-- Ranges have to be looked at in statements only. -/
lemma Part.wellRanged_of_nested {p : Part}
    (nonempty : ∀ s ∈ p.nested, s.span.start < s.span.stop)
    (apart : p.nested.Pairwise fun a b => a.span.stop ≤ b.span.start)
    (within : ∀ holder, p.stmt? = some holder → ∀ s ∈ p.nested,
      holder.span.start < s.span.start ∧ s.span.stop ≤ holder.span.stop)
    (nested : ∀ s ∈ p.nested, (Part.stmt s).WellRanged) : p.WellRanged := by
  refine .intro nonempty apart within fun c hc => ?_
  rcases eq_stmt_or_expr_of_mem_children hc with ⟨s, hs⟩ | ⟨e, he⟩
  · rw [hs]
    exact nested s (List.mem_filterMap.mpr ⟨c, hc, by rw [hs, stmt?]⟩)
  · rw [he]
    exact wellRanged_expr e

lemma Part.wellRanged_of_nested_eq_nil {p : Part} (h : p.nested = []) : p.WellRanged :=
  wellRanged_of_nested (by simp [h]) (by simp [h]) (by simp [h]) (by simp [h])

/-! ### Statements that are entered -/

/-- Whether the nodes of a kind are statements. -/
def NodeKind.isStatement : NodeKind → Bool
  | importNames | importFrom | assign | functionDef | classDef => true
  | ifElse | tryExcept | withBlock => true
  | module | call | binOp | constant => false

/-- The events that enter a statement. -/
def enteredStatements (events : List Event) : List Event :=
  (entered events).filter fun e => e.node.kind.isStatement

lemma Part.start_of_node? {p : Part} {inClass : Bool} {node : Node}
    (h : p.node? inClass = some node) :
    (p.stmt?.map fun s => s.span.start) =
      if node.kind.isStatement then some node.start else none := by
  cases node?_eq_some_iff.mp h <;> rfl

lemma start_enteredStatements (body : List Stmt) :
    (enteredStatements (eventsOfModule body)).map (fun e => e.node.start) =
      (Part.module body).starts := by
  have h := shown_itinerary_module body
  unfold enteredStatements Part.starts
  generalize entered (eventsOfModule body) = events at h ⊢
  generalize (Part.module body).itinerary = visited at h ⊢
  induction h with
  | nil => rfl
  | @cons o e os es hoe _ ih =>
    have ho := Part.start_of_node? hoe.1
    rw [List.filterMap_cons, ho, ← ih]
    by_cases hk : e.node.kind.isStatement <;> simp [hk]

lemma Part.Holds.eq_expr {e : Expr} {o : Occurrence} (h : (Part.expr e).Holds o) :
    ∃ f, o.part = .expr f := by
  generalize hp : Part.expr e = p at h
  induction h generalizing e with
  | self p => exact ⟨e, hp.symm⟩
  | child hc _ ih =>
    subst hp
    obtain ⟨f, hf⟩ := eq_expr_of_mem_children (List.mem_of_getElem? hc)
    exact ih hf.symm

lemma Part.Holds.not_isLambda {p : Part} {o : Occurrence} (h : p.Holds o) {s : Stmt}
    (hs : o.part = .stmt s) : ∀ holder ∈ o.holders, ¬holder.1.isLambda := by
  induction h with
  | self p => simp [Occurrence.root]
  | @child p c role i q hc hq ih =>
    have hp : ¬p.isLambda := by
      intro hl
      obtain ⟨e, rfl⟩ : ∃ e, p = .expr e := by
        cases p <;> simp_all [isLambda]
      obtain ⟨f, rfl⟩ := eq_expr_of_mem_children (List.mem_of_getElem? hc)
      obtain ⟨g, hg⟩ := hq.eq_expr
      exact absurd (hg.symm.trans hs) (by simp)
    exact List.forall_mem_cons.mpr ⟨hp, ih hs⟩

lemma Part.Holds.mem_itinerary {p : Part} {o : Occurrence} (h : p.Holds o) {node : Node}
    (hn : o.node? = some node) (hk : node.kind.isStatement) : o ∈ p.itinerary := by
  have hstart := start_of_node? hn
  rw [if_pos hk] at hstart
  obtain ⟨s, hs, -⟩ := Option.map_eq_some_iff.mp hstart
  have hpart : o.part = .stmt s := by
    cases ho : o.part <;> simp_all [stmt?]
  have hnode : o.part.isNode := by
    rw [isNode_eq _ (inClassBody o.holders)]
    exact Option.isSome_of_eq_some hn
  exact Part.mem_itinerary.mpr
    ⟨h, hnode, fun holder hh hl => absurd hl (h.not_isLambda hpart holder hh)⟩

/-- A function that tries one import, falls back on another and assigns in the end. -/
def guardedImports : List Stmt :=
  [.functionDef ⟨0, 94⟩ false "f" []
    [.tryExcept ⟨13, 94⟩ false
      [.importNames ⟨26, 34⟩ [⟨"a", none⟩]]
      [.mk (some (.name ⟨46, 47⟩ "E")) none [.importNames ⟨57, 65⟩ [⟨"b", none⟩]]]
      []
      [.assign ⟨87, 94⟩ [.name ⟨87, 88⟩ "x"] (.constant ⟨91, 94⟩ (.str "s") none)]] []]

/-- The statements that rules can see, at all places of the tree, are entered once each and in the
order of the text, and no other node is entered twice either. -/
theorem enteredStatements_exact_and_ordered {body : List Stmt}
    (h : (Part.module body).WellRanged) :
    (∃ statements : List Occurrence,
      (∀ o, o ∈ statements ↔
        (Part.module body).Holds o ∧ ∃ node, o.node? = some node ∧ node.kind.isStatement) ∧
      (statements.map Occurrence.address).Nodup ∧
      List.Forall₂ (fun o e => o.node? = some e.node) statements
        (enteredStatements (eventsOfModule body))) ∧
    ((enteredStatements (eventsOfModule body)).map fun e => e.node.start).Pairwise (· < ·) ∧
    ∃ itinerary : List Occurrence,
      (∀ o ∈ itinerary, (Part.module body).Holds o) ∧
      (itinerary.map Occurrence.address).Nodup ∧
      List.Forall₂ (fun o e => o.node? = some e.node) itinerary
        (entered (eventsOfModule body)) := by
  have hnodes : List.Forall₂ (fun o e => o.node? = some e.node) (Part.module body).itinerary
      (entered (eventsOfModule body)) :=
    (shown_itinerary_module body).imp fun _ _ hoe => hoe.1
  have hnodup := (Part.module body).nodup_itinerary
  refine ⟨?_, ?_, ?_⟩
  · refine ⟨(Part.module body).itinerary.filter fun o => o.node?.any (·.kind.isStatement),
      ?_, ?_, ?_⟩
    · intro o
      rw [List.mem_filter, Option.any_eq_true]
      constructor
      · rintro ⟨ho, hn⟩
        exact ⟨(Part.mem_itinerary.mp ho).1, hn⟩
      · rintro ⟨ho, node, hn, hk⟩
        exact ⟨ho.mem_itinerary hn hk, node, hn, hk⟩
    · exact hnodup.sublist (List.filter_sublist.map _)
    · refine List.rel_filter ?_ hnodes
      intro o e hoe
      simp [hoe]
  · rw [start_enteredStatements]
    exact h.starts_increase.1
  · exact ⟨_, fun o ho => (Part.mem_itinerary.mp ho).1, hnodup, hnodes⟩

theorem enteredStatements_guardedImports :
    (Part.module guardedImports).WellRanged ∧
    ((enteredStatements (eventsOfModule guardedImports)).map fun e => e.node.start) =
      [0, 13, 26, 57, 87] ∧
    ((enteredStatements (eventsOfModule guardedImports)).map fun e => e.node.start).Pairwise
      (· < ·) := by
  have h : (Part.module guardedImports).WellRanged := by
    refine Part.wellRanged_of_nested (by decide) (by decide) nofun ?_
    refine List.forall_mem_singleton.mpr ?_
    refine Part.wellRanged_of_nested (by decide) (by decide) (by rintro _ ⟨rfl⟩; decide) ?_
    refine List.forall_mem_singleton.mpr ?_
    refine Part.wellRanged_of_nested (by decide) (by decide) (by rintro _ ⟨rfl⟩; decide) ?_
    refine fun s hs => Part.wellRanged_of_nested_eq_nil ?_
    revert s
    decide
  exact ⟨h, by decide, (enteredStatements_exact_and_ordered h).2.1⟩

end SaltConventions
