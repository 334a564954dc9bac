import SaltConventions.Proofs.SourceOrder

/-!
# Statements in tree order

The address of an occurrence says where it stands: addresses that are compared like words in a
dictionary put a statement before what it holds and an earlier child before a later one. A walk
comes to the statements of a part in this order, since what belongs to the surroundings of a
definition holds no statements.
-/

namespace SaltConventions

def Stmt.isImport : Stmt → Bool
  | importNames .. => true
  | importFrom .. => true
  | _ => false

def Stmt.isAssign : Stmt → Bool
  | assign .. => true
  | _ => false

/-- A choice of statements: those that rules see as nodes of some kinds. -/
def Picks (keep : Stmt → Bool) (kinds : List NodeKind) : Prop :=
  ∀ s, keep s = ((Part.stmt s).node? false).any fun node => kinds.contains node.kind

lemma picks_isImport : Picks Stmt.isImport [.importNames, .importFrom] := by
  intro s
  cases s <;> rfl

lemma picks_isAssign : Picks Stmt.isAssign [.assign] := by
  intro s
  cases s <;> rfl

lemma Part.any_kind_node? (p : Part) (inClass : Bool) (test : NodeKind → Bool) :
    (p.node? inClass).any (fun node => test node.kind) =
      (p.node? false).any fun node => test node.kind := by
  fun_cases node? false p <;> simp [node?, Node.kind]

/-- The statements of a kind that a part holds, each place once, in the order of the tree. With ranges
as in a source text this is the order of the text. -/
structure Part.StatementsInOrder (p : Part) (keep : Stmt → Bool) (os : List Occurrence) : Prop where
  mem_iff : ∀ o, o ∈ os ↔ p.Holds o ∧ ∃ s, o.part = .stmt s ∧ keep s
  addresses : (os.map Occurrence.address).Pairwise (· < ·)
  starts : p.WellRanged →
    (os.filterMap fun o => o.part.stmt?.map fun s => s.span.start).Pairwise (· < ·)

namespace Part

/-- The statements of a kind that are visited in a part. -/
def statements (p : Part) (keep : Stmt → Bool) : List Occurrence :=
  p.itinerary.filter fun o => o.part.stmt?.any keep

lemma any_stmt? {p : Part} {keep : Stmt → Bool} :
    p.stmt?.any keep = true ↔ ∃ s, p = .stmt s ∧ keep s := by
  cases p <;> simp [stmt?]

lemma mem_statements {p : Part} {keep : Stmt → Bool} {kinds : List NodeKind}
    (hkeep : Picks keep kinds) {o : Occurrence} :
    o ∈ p.statements keep ↔ p.Holds o ∧ ∃ s, o.part = .stmt s ∧ keep s := by
  rw [statements, List.mem_filter, any_stmt?, mem_itinerary]
  constructor
  · rintro ⟨⟨hp, -⟩, hs⟩
    exact ⟨hp, hs⟩
  · rintro ⟨hp, s, hs, hk⟩
    refine ⟨⟨hp, ?_, ?_⟩, s, hs, hk⟩
    · rw [hkeep s] at hk
      rw [hs, isNode]
      exact Option.isSome_of_any hk
    · intro holder hh hl
      exact absurd hl (hp.not_isLambda hs holder hh)

lemma filter_itineraryOf_cons (p : Part) (keep : Stmt → Bool) (k : Nat) (c : Role × Part)
    (later : List (Role × Part)) :
    (p.itineraryOf k (c :: later)).filter (fun o => o.part.stmt?.any keep) =
      (c.2.statements keep).map (.below p c.1 k) ++
        (p.itineraryOf (k + 1) later).filter fun o => o.part.stmt?.any keep := by
  rw [itineraryOf_cons, List.filter_append, List.filter_map]
  rfl

lemma pairwise_filter_itineraryOf {p : Part} {keep : Stmt → Bool} {cs : List (Role × Part)}
    (h : ∀ c ∈ cs, ((c.2.statements keep).map Occurrence.address).Pairwise (· < ·)) (k : Nat) :
    (((p.itineraryOf k cs).filter fun o => o.part.stmt?.any keep).map
      Occurrence.address).Pairwise (· < ·) := by
  induction cs generalizing k with
  | nil => simp [itineraryOf]
  | cons c later ih =>
    have hlater := ih (fun d hd => h d (by simp [hd])) (k + 1)
    have hfirst : (((c.2.statements keep).map (.below p c.1 k)).map Occurrence.address) =
        ((c.2.statements keep).map Occurrence.address).map (k :: ·) := by
      simp [Occurrence.below]
    rw [filter_itineraryOf_cons, List.map_append, hfirst, List.pairwise_append]
    refine ⟨?_, hlater, ?_⟩
    · rw [List.pairwise_map]
      exact (h c (by simp)).imp fun hab => List.cons_lt_cons_iff.mpr (.inr ⟨rfl, hab⟩)
    · intro a ha b hb
      obtain ⟨a', -, rfl⟩ := List.mem_map.mp ha
      obtain ⟨o, ho, rfl⟩ := List.mem_map.mp hb
      obtain ⟨i, b', hi, hle, -⟩ := bounds_of_mem_itineraryOf (List.mem_filter.mp ho).1
      rw [hi]
      exact List.cons_lt_cons_iff.mpr (.inl (by omega))

lemma filter_itineraryOf_ahead (p : Part) (keep : Stmt → Bool) (k : Nat) :
    (p.itineraryOf k p.ahead).filter (fun o => o.part.stmt?.any keep) = [] := by
  rw [List.filter_eq_nil_iff]
  intro o ho hs
  obtain ⟨i, role, c, q, hc, hq, rfl⟩ := mem_itineraryOf.mp ho
  obtain ⟨e, rfl⟩ := eq_expr_of_mem_ahead (List.fst_mem_of_mem_zipIdx hc)
  obtain ⟨f, hf⟩ := (mem_itinerary.mp hq).1.eq_expr
  obtain ⟨s, hs, -⟩ := any_stmt?.mp hs
  exact absurd (hf.symm.trans hs) (by simp)

lemma pairwise_statements (p : Part) (keep : Stmt → Bool) :
    ((p.statements keep).map Occurrence.address).Pairwise (· < ·) := by
  induction p using Part.induct with
  | step p ih =>
    have hahead := p.filter_itineraryOf_ahead keep 0
    have hinside := pairwise_filter_itineraryOf (p := p)
      (fun c hc => ih c (List.mem_append_right _ hc)) p.ahead.length
    have hroot : ∀ b ∈ ((p.itineraryOf p.ahead.length p.inside).filter
        fun o => o.part.stmt?.any keep).map Occurrence.address, [] < b := by
      intro b hb
      obtain ⟨o, ho, rfl⟩ := List.mem_map.mp hb
      obtain ⟨i, b', hi, -⟩ := bounds_of_mem_itineraryOf (List.mem_filter.mp ho).1
      rw [hi]
      exact List.nil_lt_cons i b'
    rw [statements, itinerary_eq, List.filter_append, List.filter_append]
    have hleft : (if p.isLambda then [] else p.itineraryOf 0 p.ahead).filter
        (fun o => o.part.stmt?.any keep) = [] := by
      split
      · rfl
      · exact hahead
    rw [hleft, List.nil_append, List.map_append, List.pairwise_append]
    refine ⟨?_, hinside, ?_⟩
    · split
      · exact (List.pairwise_singleton _ _).sublist ((List.filter_sublist).map _)
      · exact .nil
    · intro a ha b hb
      obtain ⟨o, ho, rfl⟩ := List.mem_map.mp ha
      have ho := (List.mem_filter.mp ho).1
      split at ho
      · obtain rfl := List.mem_singleton.mp ho
        exact hroot b hb
      · cases ho

lemma filter_statements (p : Part) {keep some : Stmt → Bool} (h : ∀ s, some s → keep s) :
    (p.statements keep).filter (fun o => o.part.stmt?.any some) = p.statements some := by
  rw [statements, statements, List.filter_filter]
  apply List.filter_congr
  intro o _
  cases o.part.stmt? with
  | none => rfl
  | some s =>
    have hs := h s
    simp only [Option.any_some, Bool.and_eq_left_iff_imp]
    exact hs

theorem statementsInOrder (p : Part) {keep : Stmt → Bool} {kinds : List NodeKind}
    (hkeep : Picks keep kinds) : p.StatementsInOrder keep (p.statements keep) where
  mem_iff _ := mem_statements hkeep
  addresses := p.pairwise_statements keep
  starts h := h.starts_increase.1.sublist (List.filter_sublist.filterMap _)

end Part

end SaltConventions
