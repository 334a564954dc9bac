import Mathlib.Data.List.Nodup
import SaltConventions.Proofs.Parts

/-!
# Where the visited nodes stand

An occurrence is a part at its place in a tree. The itinerary of a part lists the occurrences that
are visited in it, in the order in which they are entered. `Part.mem_itinerary` says which
occurrences these are: all that rules can see, except below the default of a lambda.
-/

namespace SaltConventions

/-- A part at its place in a tree: the indices of the children that lead to it, what holds it, in
which roles, from the outside in, and the part itself. -/
structure Occurrence where
  address : List Nat
  holders : List (Part × Role)
  part : Part

namespace Occurrence

/-- A part at the top of its own tree. -/
def root (p : Part) : Occurrence := ⟨[], [], p⟩

/-- An occurrence in a child, seen from the part that holds the child. -/
def below (p : Part) (role : Role) (i : Nat) (o : Occurrence) : Occurrence :=
  ⟨i :: o.address, (p, role) :: o.holders, o.part⟩

end Occurrence

/-- Whether a part with these holders stands directly in a class body. -/
def inClassBody (holders : List (Part × Role)) : Bool :=
  match holders.getLast? with
  | some (p, role) => p.isClass && role == .block
  | none => false

def Occurrence.node? (o : Occurrence) : Option Node :=
  o.part.node? (inClassBody o.holders)

/-- The occurrences in a part: the part itself and the occurrences in its children. -/
inductive Part.Holds : Part → Occurrence → Prop where
  | self (p : Part) : p.Holds (.root p)
  | child {p c : Part} {role : Role} {i : Nat} {o : Occurrence}
      (hc : p.children[i]? = some (role, c)) (ho : c.Holds o) : p.Holds (o.below p role i)

def Part.isNode (p : Part) : Bool :=
  (p.node? false).isSome

/-- The occurrences that are visited in a part, in the order in which they are entered. -/
def Part.itinerary (p : Part) : List Occurrence :=
  (if p.isLambda then []
    else p.ahead.zipIdx.attach.flatMap fun ⟨c, _⟩ => c.1.2.itinerary.map (.below p c.1.1 c.2)) ++
  (if p.isNode then [.root p] else []) ++
  (p.inside.zipIdx p.ahead.length).attach.flatMap fun ⟨c, _⟩ =>
    c.1.2.itinerary.map (.below p c.1.1 c.2)
termination_by sizeOf p
decreasing_by
  · exact sizeOf_lt_of_mem_children
      (List.mem_append_left _ (List.fst_mem_of_mem_zipIdx (by assumption)))
  · exact sizeOf_lt_of_mem_children
      (List.mem_append_right _ (List.fst_mem_of_mem_zipIdx (by assumption)))

/-- What is visited in some children, numbered from `k` on. -/
def Part.itineraryOf (p : Part) (k : Nat) (cs : List (Role × Part)) : List Occurrence :=
  (cs.zipIdx k).flatMap fun c => c.1.2.itinerary.map (.below p c.1.1 c.2)

lemma Part.itinerary_eq (p : Part) :
    p.itinerary =
      (if p.isLambda then [] else p.itineraryOf 0 p.ahead) ++
      (if p.isNode then [.root p] else []) ++ p.itineraryOf p.ahead.length p.inside := by
  rw [itinerary]
  simp only [itineraryOf, List.flatMap_subtype, List.unattach_attach]

namespace Part

lemma itineraryOf_cons (p : Part) (k : Nat) (c : Role × Part) (later : List (Role × Part)) :
    p.itineraryOf k (c :: later) =
      c.2.itinerary.map (.below p c.1 k) ++ p.itineraryOf (k + 1) later := by
  simp [itineraryOf]

lemma mem_itineraryOf {p : Part} {k : Nat} {cs : List (Role × Part)} {o : Occurrence} :
    o ∈ p.itineraryOf k cs ↔
      ∃ i role c q, ((role, c), i) ∈ cs.zipIdx k ∧ q ∈ c.itinerary ∧ o = q.below p role i := by
  simp only [itineraryOf, List.mem_flatMap, List.mem_map, Prod.exists]
  constructor
  · rintro ⟨role, c, i, hc, q, hq, rfl⟩
    exact ⟨i, role, c, q, hc, hq, rfl⟩
  · rintro ⟨i, role, c, q, hc, hq, rfl⟩
    exact ⟨role, c, i, hc, q, hq, rfl⟩

lemma getElem?_children {p : Part} {i : Nat} {c : Role × Part} :
    p.children[i]? = some c ↔
      (c, i) ∈ p.ahead.zipIdx ∨ (c, i) ∈ p.inside.zipIdx p.ahead.length := by
  rw [← List.mk_mem_zipIdx_iff_getElem?, children, List.zipIdx_append, List.mem_append,
    Nat.zero_add]

lemma role_of_mem_ahead {p : Part} (hp : p.isLambda) {c : Role × Part} (h : c ∈ p.ahead) :
    c.1 = .default := by
  obtain ⟨span, params, body, rfl⟩ := eq_lambda_of_isLambda hp
  obtain ⟨e, -, rfl⟩ := mem_exprParts.mp h
  rfl

lemma role_of_mem_inside {p : Part} (hp : p.isLambda) {c : Role × Part} (h : c ∈ p.inside) :
    c.1 = .operand := by
  obtain ⟨span, params, body, rfl⟩ := eq_lambda_of_isLambda hp
  obtain ⟨e, -, rfl⟩ := mem_exprParts.mp h
  rfl

end Part

/-- Rules can see the part, and it does not stand in the default of a lambda. -/
def Occurrence.Visited (o : Occurrence) : Prop :=
  o.part.isNode ∧ ∀ h ∈ o.holders, h.1.isLambda → h.2 ≠ .default

lemma Occurrence.visited_below {p : Part} {role : Role} {i : Nat} {o : Occurrence} :
    (o.below p role i).Visited ↔ o.Visited ∧ (p.isLambda → role ≠ .default) := by
  simp only [Visited, below, List.forall_mem_cons]
  tauto

/-- The itinerary of a part holds the occurrences of parts that rules can see, except those in the
default of a lambda. -/
theorem Part.mem_itinerary {p : Part} {o : Occurrence} :
    o ∈ p.itinerary ↔ p.Holds o ∧ o.Visited := by
  induction p using Part.induct generalizing o with
  | step p ih =>
    rw [itinerary_eq, List.mem_append, List.mem_append]
    constructor
    · rintro ((ha | hp) | hi)
      · split at ha
        · simp at ha
        · rename_i hl
          obtain ⟨i, role, c, q, hc, hq, rfl⟩ := mem_itineraryOf.mp ha
          have hch := getElem?_children.mpr (.inl hc)
          have hcq := (ih (role, c) (List.mem_of_getElem? hch)).mp hq
          exact ⟨.child hch hcq.1, Occurrence.visited_below.mpr ⟨hcq.2, fun h => absurd h hl⟩⟩
      · split at hp
        · rename_i hn
          obtain rfl : o = .root p := by simpa using hp
          exact ⟨.self p, hn, by simp [Occurrence.root]⟩
        · simp at hp
      · obtain ⟨i, role, c, q, hc, hq, rfl⟩ := mem_itineraryOf.mp hi
        have hch := getElem?_children.mpr (.inr hc)
        have hcq := (ih (role, c) (List.mem_of_getElem? hch)).mp hq
        refine ⟨.child hch hcq.1, Occurrence.visited_below.mpr ⟨hcq.2, fun hl => ?_⟩⟩
        have hr : role = .operand := role_of_mem_inside hl (List.fst_mem_of_mem_zipIdx hc)
        simp [hr]
    · rintro ⟨ho, hv⟩
      cases ho with
      | self => exact .inl (.inr (by simp [Occurrence.Visited, Occurrence.root] at hv; simp [hv]))
      | @child _ c role i q hch hcq =>
        obtain ⟨hq, hr⟩ := Occurrence.visited_below.mp hv
        have hqi := (ih (role, c) (List.mem_of_getElem? hch)).mpr ⟨hcq, hq⟩
        rcases getElem?_children.mp hch with hc | hc
        · have hl : ¬p.isLambda := fun hl =>
            hr hl (role_of_mem_ahead hl (List.fst_mem_of_mem_zipIdx hc))
          rw [if_neg hl]
          exact .inl (.inl (mem_itineraryOf.mpr ⟨i, role, c, q, hc, hqi, rfl⟩))
        · exact .inr (mem_itineraryOf.mpr ⟨i, role, c, q, hc, hqi, rfl⟩)

/-! ### No place is visited twice -/

lemma Part.bounds_of_mem_itineraryOf {p : Part} {k : Nat} {cs : List (Role × Part)} {o : Occurrence}
    (h : o ∈ p.itineraryOf k cs) :
    ∃ i a, o.address = i :: a ∧ k ≤ i ∧ i < k + cs.length := by
  obtain ⟨i, role, c, q, hc, -, rfl⟩ := mem_itineraryOf.mp h
  exact ⟨i, q.address, rfl, List.le_snd_of_mem_zipIdx hc, List.snd_lt_add_of_mem_zipIdx hc⟩

lemma Part.nodup_itineraryOf {p : Part} {cs : List (Role × Part)}
    (h : ∀ c ∈ cs, (c.2.itinerary.map Occurrence.address).Nodup) (k : Nat) :
    ((p.itineraryOf k cs).map Occurrence.address).Nodup := by
  induction cs generalizing k with
  | nil => simp [itineraryOf]
  | cons c later ih =>
    rw [itineraryOf_cons, List.map_append, List.nodup_append']
    refine ⟨?_, ih (fun d hd => h d (by simp [hd])) (k + 1), ?_⟩
    · have hc : (c.2.itinerary.map (.below p c.1 k)).map Occurrence.address =
          (c.2.itinerary.map Occurrence.address).map (k :: ·) := by
        simp [Occurrence.below]
      rw [hc]
      exact (h c (by simp)).map (List.cons_injective)
    · intro a ha hb
      obtain ⟨q, hq, rfl⟩ := List.mem_map.mp ha
      obtain ⟨r, -, rfl⟩ := List.mem_map.mp hq
      obtain ⟨s, hs, he⟩ := List.mem_map.mp hb
      obtain ⟨i, b, hi, hle, -⟩ := bounds_of_mem_itineraryOf hs
      rw [hi] at he
      obtain ⟨rfl, -⟩ := List.cons_eq_cons.mp he
      omega

theorem Part.nodup_itinerary (p : Part) : (p.itinerary.map Occurrence.address).Nodup := by
  induction p using Part.induct with
  | step p ih =>
    have hc : ((p.itineraryOf 0 p.children).map Occurrence.address).Nodup := nodup_itineraryOf ih 0
    have happend : p.itineraryOf 0 p.children =
        p.itineraryOf 0 p.ahead ++ p.itineraryOf p.ahead.length p.inside := by
      simp [itineraryOf, children, List.zipIdx_append]
    have hroot : [] ∉ (p.itineraryOf 0 p.children).map Occurrence.address := by
      intro h
      obtain ⟨o, ho, he⟩ := List.mem_map.mp h
      obtain ⟨i, a, hi, -⟩ := bounds_of_mem_itineraryOf ho
      simp [hi] at he
    -- The itinerary leaves out some of the children and puts the part itself between the others.
    have hsub : p.itinerary.Sublist
        (p.itineraryOf 0 p.ahead ++ .root p :: p.itineraryOf p.ahead.length p.inside) := by
      rw [itinerary_eq, List.append_assoc]
      refine List.Sublist.append ?_ ?_
      · split
        · exact List.nil_sublist _
        · exact List.Sublist.refl _
      · split
        · exact List.Sublist.refl _
        · exact List.sublist_cons_self _ _
    refine List.Nodup.sublist (hsub.map Occurrence.address) ?_
    rw [List.map_append, List.map_cons, List.nodup_middle, ← List.map_append, ← happend]
    exact List.nodup_cons.mpr ⟨hroot, hc⟩

end SaltConventions
