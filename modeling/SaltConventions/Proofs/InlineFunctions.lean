import Mathlib.Data.List.Basic
import Mathlib.Tactic.Lemma
import SaltConventions.Config

/-!
# Functions listed in a text

The items of a list such as `bad=good,worse=better` stand between commas and are read one by one, so
the map of two lists with a comma between them is the map of the first with the entries of the second
on top, and an item that is no pair changes nothing. A map whose names and values hold no comma, no
equals sign and no blanks at their ends is read back from its list, whatever blanks are around them.
-/

namespace SaltConventions

namespace Text

lemma pieces_eq_pair_iff {mark : Char} {cs front back : List Char} :
    pieces (· == mark) cs = [front, back] ↔
      cs = front ++ mark :: back ∧ mark ∉ front ∧ mark ∉ back := by
  constructor
  · intro h
    have hcut : ∀ {cs : List Char}, mark ∈ cs → ∃ xs ys, cs = xs ++ mark :: ys ∧ mark ∉ xs ∧
        pieces (· == mark) cs = xs :: pieces (· == mark) ys := by
      intro cs hmem
      obtain ⟨xs, ys, rfl, hxs⟩ := List.eq_append_cons_of_mem hmem
      exact ⟨xs, ys, rfl, hxs, by rw [pieces_append_cut xs (by simp), pieces_of_not_mem hxs]; rfl⟩
    by_cases hmem : mark ∈ cs
    · obtain ⟨xs, ys, rfl, hxs, hpieces⟩ := hcut hmem
      obtain ⟨rfl, hrest⟩ := List.cons_eq_cons.mp (hpieces.symm.trans h)
      by_cases hys : mark ∈ ys
      · -- A second mark makes a third piece.
        obtain ⟨us, vs, -, -, hmore⟩ := hcut hys
        rw [hmore, List.cons_eq_cons] at hrest
        exact absurd hrest.2 (pieces_ne_nil _ vs)
      · rw [pieces_of_not_mem hys, List.cons_eq_cons] at hrest
        exact ⟨by rw [hrest.1], hxs, hrest.1 ▸ hys⟩
    · rw [pieces_of_not_mem hmem] at h
      cases h
  · rintro ⟨rfl, hfront, hback⟩
    rw [pieces_append_cut front (by simp), pieces_of_not_mem hfront, pieces_of_not_mem hback]
    rfl

end Text

/-! ### Maps -/

namespace NameMap

/-- Every key has one entry, and they are in increasing order. -/
def Sorted (m : NameMap) : Prop :=
  m.Pairwise fun p q => p.1 < q.1

instance : DecidablePred Sorted := fun m =>
  inferInstanceAs (Decidable (m.Pairwise fun p q => p.1 < q.1))

lemma mem_insert {key value : String} {m : NameMap} {pair : String × String}
    (h : pair ∈ insert key value m) : pair = (key, value) ∨ pair ∈ m := by
  induction m with
  | nil => exact .inl (List.mem_singleton.mp h)
  | cons first later ih =>
    rw [insert] at h
    split at h
    · exact List.mem_cons.mp h
    · split at h
      · exact (List.mem_cons.mp h).imp_right (List.mem_cons_of_mem _)
      · rcases List.mem_cons.mp h with rfl | h
        · exact .inr List.mem_cons_self
        · exact (ih h).imp_right (List.mem_cons_of_mem _)

lemma Sorted.insert {m : NameMap} (h : m.Sorted) (key value : String) :
    (m.insert key value).Sorted := by
  induction m with
  | nil => exact List.pairwise_singleton _ _
  | cons first later ih =>
    obtain ⟨hfirst, hlater⟩ := List.pairwise_cons.mp h
    rw [NameMap.insert]
    split
    next hlt =>
      refine List.pairwise_cons.mpr ⟨fun pair hpair => ?_, h⟩
      rcases List.mem_cons.mp hpair with rfl | hpair
      · exact hlt
      · exact String.lt_trans hlt (hfirst pair hpair)
    next hlt =>
      split
      next heq => exact List.pairwise_cons.mpr ⟨heq ▸ hfirst, hlater⟩
      next hne =>
        refine List.pairwise_cons.mpr ⟨fun pair hpair => ?_, ih hlater⟩
        rcases mem_insert hpair with rfl | hpair
        · exact String.not_le.mp fun hle => hne (String.le_antisymm hle (String.not_lt.mp hlt))
        · exact hfirst pair hpair

lemma get?_cons (pair : String × String) (m : NameMap) (key : String) :
    get? (pair :: m) key = if pair.1 = key then some pair.2 else get? m key := by
  rw [get?, List.find?_cons, get?]
  by_cases h : pair.1 = key
  · simp [h]
  · rw [beq_eq_false_iff_ne.mpr h, if_neg h]

lemma get?_insert (key value other : String) (m : NameMap) :
    (m.insert key value).get? other = if key = other then some value else m.get? other := by
  induction m with
  | nil => exact get?_cons (key, value) [] other
  | cons first later ih =>
    rw [insert]
    split
    · rw [get?_cons]
    · split
      next heq =>
        rw [get?_cons, get?_cons, ← heq]
        by_cases hother : key = other <;> simp [hother]
      next hne =>
        rw [get?_cons, get?_cons, ih]
        by_cases hother : key = other
        · subst other
          rw [if_neg (Ne.symm hne), if_pos rfl, if_pos rfl]
        · rw [if_neg hother, if_neg hother]

/-- The last pair of a key counts, and if there is none then what was there before. -/
lemma get?_foldl_insert (pairs : List (String × String)) (m : NameMap) (key : String) :
    (pairs.foldl (fun m pair => m.insert pair.1 pair.2) m).get? key =
      ((pairs.reverse.find? (·.1 == key)).map (·.2)).or (m.get? key) := by
  induction pairs generalizing m with
  | nil => rfl
  | cons pair later ih =>
    rw [List.foldl_cons, ih, get?_insert, List.reverse_cons, List.find?_append, List.find?_singleton]
    cases later.reverse.find? (·.1 == key) with
    | some found => rfl
    | none => by_cases h : pair.1 = key <;> simp [h]

lemma get?_ofPairs_append (xs ys : List (String × String)) (key : String) :
    (ofPairs (xs ++ ys)).get? key = ((ofPairs ys).get? key).or ((ofPairs xs).get? key) := by
  have hnone : NameMap.get? [] key = none := rfl
  rw [ofPairs, List.foldl_append, get?_foldl_insert ys, ofPairs, get?_foldl_insert ys [], hnone,
    Option.or_none]
  rfl

lemma sorted_ofPairs (pairs : List (String × String)) : (ofPairs pairs).Sorted := by
  have hfold : ∀ m : NameMap, m.Sorted →
      (pairs.foldl (fun m pair => m.insert pair.1 pair.2) m).Sorted := by
    induction pairs with
    | nil => exact fun m h => h
    | cons pair later ih => exact fun m h => ih _ (h.insert _ _)
  exact hfold [] .nil

lemma insert_perm {key value : String} {m : NameMap} (h : ∀ pair ∈ m, pair.1 ≠ key) :
    (m.insert key value).Perm ((key, value) :: m) := by
  induction m with
  | nil => exact .refl _
  | cons first later ih =>
    obtain ⟨hfirst, hlater⟩ := List.forall_mem_cons.mp h
    rw [insert]
    split
    · exact .refl _
    · rw [if_neg (Ne.symm hfirst)]
      exact ((ih hlater).cons first).trans (.swap _ _ _)

lemma foldl_insert_perm {pairs : List (String × String)} {m : NameMap}
    (h : ((m ++ pairs).map (·.1)).Nodup) :
    (pairs.foldl (fun m pair => m.insert pair.1 pair.2) m).Perm (m ++ pairs) := by
  induction pairs generalizing m with
  | nil => rw [List.append_nil, List.foldl_nil]
  | cons pair later ih =>
    have hmiddle : (m ++ pair :: later).Perm (pair :: m ++ later) := List.perm_middle
    have hkeys : ((pair :: m ++ later).map (·.1)).Nodup := (hmiddle.map _).nodup_iff.mp h
    have hnew : ∀ other ∈ m, other.1 ≠ pair.1 := by
      intro other hother heq
      have hnot := (List.nodup_cons.mp hkeys).1
      exact hnot (List.mem_map.mpr ⟨other, List.mem_append_left _ hother, heq⟩)
    have hinsert : (m.insert pair.1 pair.2 ++ later).Perm (pair :: m ++ later) :=
      (insert_perm hnew).append_right later
    rw [List.foldl_cons]
    exact (ih ((hinsert.map _).nodup_iff.mpr hkeys)).trans (hinsert.trans hmiddle.symm)

theorem ofPairs_of_perm {pairs : List (String × String)} {m : NameMap} (h : pairs.Perm m)
    (hm : m.Sorted) : ofPairs pairs = m := by
  have hne : ∀ p q : String × String, p.1 < q.1 → p.1 ≠ q.1 := fun p q hlt heq =>
    String.lt_irrefl p.1 (heq ▸ hlt)
  have hkeys : (m.map (·.1)).Nodup := List.pairwise_map.mpr (hm.imp (hne _ _))
  have hperm : (ofPairs pairs).Perm m :=
    (foldl_insert_perm (m := []) ((h.map _).nodup_iff.mpr hkeys)).trans h
  refine hperm.eq_of_pairwise (fun p q _ _ hpq hqp => ?_) (sorted_ofPairs pairs) hm
  exact absurd hqp (String.lt_asymm hpq)

end NameMap

namespace FunctionList

/-! ### Items -/

/-- A name or a value that an item can hold. -/
structure Plain (s : String) : Prop where
  no_comma : ',' ∉ s.toList
  no_equals : '=' ∉ s.toList
  head : ∀ c ∈ s.toList.head?, Text.isBlank c = false
  last : ∀ c ∈ s.toList.getLast?, Text.isBlank c = false

instance : DecidablePred Plain := fun s =>
  decidable_of_iff (',' ∉ s.toList ∧ '=' ∉ s.toList ∧
      s.toList.head?.all (!Text.isBlank ·) = true ∧ s.toList.getLast?.all (!Text.isBlank ·) = true)
    ⟨fun ⟨hcomma, hequals, hhead, hlast⟩ => ⟨hcomma, hequals,
        fun c hc => by simpa using (Option.all_eq_true _ _).mp hhead c hc,
        fun c hc => by simpa using (Option.all_eq_true _ _).mp hlast c hc⟩,
      fun h => ⟨h.no_comma, h.no_equals,
        (Option.all_eq_true _ _).mpr fun c hc => by simpa using h.head c hc,
        (Option.all_eq_true _ _).mpr fun c hc => by simpa using h.last c hc⟩⟩

/-- The blanks around the name and the value of an item. -/
structure Gaps where
  beforeName : String
  afterName : String
  beforeValue : String
  afterValue : String
  blank : ∀ gap ∈ [beforeName, afterName, beforeValue, afterValue], ∀ c ∈ gap.toList,
    Text.isBlank c = true

def Gaps.write (g : Gaps) (name value : String) : String :=
  (g.beforeName ++ name ++ g.afterName) ++ "=" ++ (g.beforeValue ++ value ++ g.afterValue)

/-- The text is an item for the name and the value. -/
def IsItem (item name value : String) : Prop :=
  ∃ g : Gaps, item = g.write name value ∧ name ≠ "" ∧ Plain name ∧ Plain value

lemma trimmed_append {before text after : String} (h : Plain text)
    (hbefore : ∀ c ∈ before.toList, Text.isBlank c = true)
    (hafter : ∀ c ∈ after.toList, Text.isBlank c = true) :
    trimmed (before ++ text ++ after).toList = text := by
  rw [trimmed, String.toList_append, String.toList_append,
    Text.trim_append hbefore h.head h.last hafter, String.ofList_toList]

lemma not_mem_padded {before text after : String} {mark : Char} (hmark : Text.isBlank mark = false)
    (hbefore : ∀ c ∈ before.toList, Text.isBlank c = true) (htext : mark ∉ text.toList)
    (hafter : ∀ c ∈ after.toList, Text.isBlank c = true) :
    mark ∉ (before ++ text ++ after).toList := by
  simp only [String.toList_append, List.mem_append]
  rintro ((h | h) | h)
  · exact Bool.eq_false_iff.mp hmark (hbefore mark h)
  · exact htext h
  · exact Bool.eq_false_iff.mp hmark (hafter mark h)

lemma Gaps.no_comma_write (g : Gaps) {name value : String} (hname : Plain name)
    (hvalue : Plain value) : ',' ∉ (g.write name value).toList := by
  have hleft : ',' ∉ (g.beforeName ++ name ++ g.afterName).toList :=
    not_mem_padded rfl (g.blank _ (by simp)) hname.no_comma (g.blank _ (by simp))
  have hright : ',' ∉ (g.beforeValue ++ value ++ g.afterValue).toList :=
    not_mem_padded rfl (g.blank _ (by simp)) hvalue.no_comma (g.blank _ (by simp))
  rw [write, String.toList_append, String.toList_append, List.mem_append, List.mem_append]
  rintro ((h | h) | h)
  · exact hleft h
  · exact absurd h (by decide)
  · exact hright h

lemma plain_trimmed {cs : List Char} (hcomma : ',' ∉ cs) (hequals : '=' ∉ cs) :
    ∃ before after : String, String.ofList cs = before ++ trimmed cs ++ after ∧
      Plain (trimmed cs) ∧ (∀ c ∈ before.toList, Text.isBlank c = true) ∧
      ∀ c ∈ after.toList, Text.isBlank c = true := by
  obtain ⟨front, back, hcs, hfront, hback⟩ := Text.exists_trim Text.isBlank cs
  obtain ⟨hhead, hlast⟩ := Text.ends_trim Text.isBlank cs
  have hsub : ∀ c ∈ (trimmed cs).toList, c ∈ cs := by
    intro c hc
    rw [trimmed, String.toList_ofList] at hc
    rw [hcs]
    simp [hc]
  refine ⟨String.ofList front, String.ofList back, ?_, ?_, by simpa using hfront, by simpa using hback⟩
  · apply String.toList_injective
    simpa [trimmed] using hcs
  · exact ⟨fun h => hcomma (hsub _ h), fun h => hequals (hsub _ h), by simpa [trimmed] using hhead,
      by simpa [trimmed] using hlast⟩

theorem item?_eq_some_iff {item : String} (hitem : ',' ∉ item.toList) {name value : String} :
    item? item.toList = some (name, value) ↔ IsItem item name value := by
  constructor
  · intro h
    rw [item?] at h
    split at h
    next bad good hpieces =>
      obtain ⟨htext, hbad, hgood⟩ := Text.pieces_eq_pair_iff.mp hpieces
      rw [htext, List.mem_append, List.mem_cons] at hitem
      split at h
      · cases h
      next hne =>
        obtain ⟨rfl, rfl⟩ : trimmed bad = name ∧ trimmed good = value := by simpa using h
        obtain ⟨beforeName, afterName, hleft, hname, hbefore, hafter⟩ :=
          plain_trimmed (fun h => hitem (.inl h)) hbad
        obtain ⟨beforeValue, afterValue, hright, hvalue, hbefore', hafter'⟩ :=
          plain_trimmed (fun h => hitem (.inr (.inr h))) hgood
        refine ⟨⟨beforeName, afterName, beforeValue, afterValue, ?_⟩, ?_, hne, hname, hvalue⟩
        · simp only [List.forall_mem_cons]
          exact ⟨hbefore, hafter, hbefore', hafter', nofun⟩
        · rw [Gaps.write, ← hleft, ← hright]
          apply String.toList_injective
          simpa using htext
    · cases h
  · rintro ⟨g, rfl, hne, hname, hvalue⟩
    have hpieces : Text.pieces (· == '=') (g.write name value).toList =
        [(g.beforeName ++ name ++ g.afterName).toList,
          (g.beforeValue ++ value ++ g.afterValue).toList] := by
      rw [Text.pieces_eq_pair_iff]
      exact ⟨by simp [Gaps.write],
        not_mem_padded rfl (g.blank _ (by simp)) hname.no_equals (g.blank _ (by simp)),
        not_mem_padded rfl (g.blank _ (by simp)) hvalue.no_equals (g.blank _ (by simp))⟩
    rw [item?, hpieces]
    simp only
    rw [trimmed_append hname (g.blank _ (by simp)) (g.blank _ (by simp)),
      trimmed_append hvalue (g.blank _ (by simp)) (g.blank _ (by simp)), if_neg hne]

/-! ### Lists of items -/

lemma inlinePairs_append (front back : String) :
    inlinePairs (front ++ "," ++ back) = inlinePairs front ++ inlinePairs back := by
  have htext : (front ++ "," ++ back).toList = front.toList ++ ',' :: back.toList := by simp
  rw [inlinePairs, htext, Text.pieces_append_cut _ rfl, List.filterMap_append]
  rfl

lemma inlinePairs_of_no_comma {item : String} (h : ',' ∉ item.toList) :
    inlinePairs item = (item? item.toList).toList := by
  rw [inlinePairs, Text.pieces_of_not_mem h]
  cases hitem : item? item.toList <;> simp [hitem]

lemma inlinePairs_intercalate {pairs : List (String × String)} {gaps : List Gaps}
    (h : ∀ pair ∈ pairs, pair.1 ≠ "" ∧ Plain pair.1 ∧ Plain pair.2)
    (hlength : gaps.length = pairs.length) :
    inlinePairs (",".intercalate (List.zipWith (fun g pair => g.write pair.1 pair.2) gaps pairs)) =
      pairs := by
  have hone : ∀ (g : Gaps) pair, pair ∈ pairs → inlinePairs (g.write pair.1 pair.2) = [pair] := by
    intro g pair hpair
    obtain ⟨hne, hname, hvalue⟩ := h pair hpair
    have hcomma := g.no_comma_write hname hvalue
    rw [inlinePairs_of_no_comma hcomma,
      (item?_eq_some_iff hcomma).mpr ⟨g, rfl, hne, hname, hvalue⟩]
    rfl
  induction pairs generalizing gaps with
  | nil =>
    rw [List.zipWith_nil_right]
    decide
  | cons pair later ih =>
    obtain ⟨g, gaps, rfl⟩ := List.exists_cons_of_length_eq_add_one hlength
    have hrest := ih (fun p hp => h p (List.mem_cons_of_mem _ hp)) (Nat.succ.inj hlength)
      fun g p hp => hone g p (List.mem_cons_of_mem _ hp)
    rw [List.zipWith_cons_cons]
    cases later with
    | nil =>
      rw [List.zipWith_nil_right, String.intercalate_singleton]
      exact hone g pair List.mem_cons_self
    | cons next more =>
      obtain ⟨g', gaps, rfl⟩ := List.exists_cons_of_length_eq_add_one (Nat.succ.inj hlength)
      rw [List.zipWith_cons_cons] at hrest ⊢
      rw [String.intercalate_cons_cons, inlinePairs_append, hone g pair List.mem_cons_self, hrest]
      rfl

/-- Of two lists the second counts on top of the first, what is no item counts for nothing, and a
map is read back from the list of its entries. -/
theorem toMap_inline_laws :
    (∀ text : String, (toMap (.inline text)).Sorted) ∧
    (∀ front back key : String, (toMap (.inline (front ++ "," ++ back))).get? key =
      ((toMap (.inline back)).get? key).or ((toMap (.inline front)).get? key)) ∧
    (∀ item : String, ',' ∉ item.toList →
      (∀ name value, IsItem item name value → toMap (.inline item) = [(name, value)]) ∧
      ((∀ name value, ¬IsItem item name value) → toMap (.inline item) = [] ∧
        ∀ front back : String, toMap (.inline (front ++ "," ++ item ++ "," ++ back)) =
          toMap (.inline (front ++ "," ++ back)))) ∧
    ∀ (m : NameMap) (pairs : List (String × String)) (gaps : List Gaps), m.Sorted →
      pairs.Perm m → (∀ pair ∈ m, pair.1 ≠ "" ∧ Plain pair.1 ∧ Plain pair.2) →
      gaps.length = pairs.length →
      toMap (.inline (",".intercalate
        (List.zipWith (fun g pair => g.write pair.1 pair.2) gaps pairs))) = m := by
  refine ⟨fun text => NameMap.sorted_ofPairs _, fun front back key => ?_, fun item hitem => ?_, ?_⟩
  · rw [toMap, inlinePairs_append]
    exact NameMap.get?_ofPairs_append _ _ key
  · have hpairs := inlinePairs_of_no_comma hitem
    constructor
    · intro name value h
      rw [(item?_eq_some_iff hitem).mpr h] at hpairs
      rw [toMap, hpairs]
      rfl
    · intro hnone
      have hread : item? item.toList = none := by
        rw [Option.eq_none_iff_forall_ne_some]
        rintro ⟨name, value⟩ h
        exact hnone name value ((item?_eq_some_iff hitem).mp h)
      rw [hread, Option.toList_none] at hpairs
      refine ⟨by rw [toMap, hpairs]; rfl, fun front back => ?_⟩
      rw [toMap, inlinePairs_append, inlinePairs_append, hpairs, List.append_nil, toMap,
        inlinePairs_append]
  · intro m pairs gaps hm hperm hplain hlength
    rw [toMap, inlinePairs_intercalate (fun pair hpair => hplain pair (hperm.subset hpair)) hlength]
    exact NameMap.ofPairs_of_perm hperm hm

lemma blank_of_all {gaps : List String}
    (h : (gaps.all fun gap => gap.toList.all Text.isBlank) = true) :
    ∀ gap ∈ gaps, ∀ c ∈ gap.toList, Text.isBlank c = true :=
  fun gap hgap => List.all_eq_true.mp (List.all_eq_true.mp h gap hgap)

/-- A map of two entries, the second written first, and a text with two items that are none. -/
theorem toMap_inline_of_spaced_list :
    let m : NameMap := [("glob", ""), ("os.walk", "salt.utils.path.os_walk")]
    let text := " os.walk\t=salt.utils.path.os_walk ,glob= "
    m.Sorted ∧ (∀ pair ∈ m, pair.1 ≠ "" ∧ Plain pair.1 ∧ Plain pair.2) ∧
    toMap (.inline text) = m ∧
    (∀ name value, ¬IsItem "a=b=c" name value) ∧ (∀ name value, ¬IsItem " = d" name value) ∧
    toMap (.inline "os.walk=salt.utils.os_walk,a=b=c, = d") = [("os.walk", "salt.utils.os_walk")] := by
  intro m text
  have hplain : ∀ pair ∈ m, pair.1 ≠ "" ∧ Plain pair.1 ∧ Plain pair.2 := by decide
  have hnone : ∀ item ∈ ["a=b=c", " = d"], ∀ name value, ¬IsItem item name value := by
    intro item hitem name value h
    have hread : ∀ item ∈ ["a=b=c", " = d"], ',' ∉ item.toList ∧ item? item.toList = none := by
      decide
    rw [← item?_eq_some_iff (hread item hitem).1, (hread item hitem).2] at h
    cases h
  have hread := toMap_inline_laws.2.2.2 m [("os.walk", "salt.utils.path.os_walk"), ("glob", "")]
    [⟨" ", "\t", "", " ", blank_of_all (by decide)⟩, ⟨"", "", " ", "", blank_of_all (by decide)⟩]
    (by decide) (.swap _ _ _) hplain rfl
  exact ⟨by decide, hplain, hread, hnone _ (by simp), hnone _ (by simp), by decide⟩

end FunctionList

end SaltConventions
