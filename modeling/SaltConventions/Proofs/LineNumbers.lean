import Mathlib.Data.List.Basic
import Mathlib.Order.Monotone.Basic
import SaltConventions.Proofs.PhysicalLines

/-!
# Line numbers and newline bytes

A line index is built from the characters of a source and asked for byte offsets. No character other
than the newline has the byte of a newline in its UTF-8 form. So the line starts are the positions
after the newline bytes, and the number of a line is told by the newline bytes in front of an
offset, at every offset and also past the end.
-/

namespace SaltConventions.Text

def newlineByte : UInt8 := 0x0A

def bytesOf (source : String) : List UInt8 :=
  source.toByteArray.data.toList

/-- How many newline bytes a source has at positions before `offset`. -/
def newlinesBefore (source : String) (offset : Nat) : Nat :=
  ((bytesOf source).take offset).count newlineByte

/-! ### Bytes and characters -/

lemma bytesOf_eq (source : String) :
    bytesOf source = source.toList.flatMap String.utf8EncodeChar := by
  have hencoded : source.toByteArray = source.toList.utf8Encode := by
    rw [← String.toByteArray_ofList, String.ofList_toList]
  rw [bytesOf, hencoded, List.utf8Encode, List.data_toByteArray]

lemma byte_of_mem_utf8EncodeChar {c : Char} {b : UInt8} (h : b ∈ String.utf8EncodeChar c) :
    b.toNat = c.toNat ∨ 128 ≤ b.toNat := by
  unfold String.utf8EncodeChar at h
  dsimp only at h
  split at h
  next hascii =>
    left
    obtain rfl := List.mem_singleton.mp h
    rw [UInt8.toNat_ofNat', Char.toNat]
    omega
  next =>
    right
    split at h
    next =>
      simp only [List.mem_cons, List.not_mem_nil, or_false] at h
      rcases h with rfl | rfl <;> rw [UInt8.toNat_ofNat'] <;> omega
    next =>
      split at h <;> simp only [List.mem_cons, List.not_mem_nil, or_false] at h
      · rcases h with rfl | rfl | rfl <;> rw [UInt8.toNat_ofNat'] <;> omega
      · rcases h with rfl | rfl | rfl | rfl <;> rw [UInt8.toNat_ofNat'] <;> omega

lemma newlineByte_not_mem {c : Char} (h : c ≠ '\n') : newlineByte ∉ String.utf8EncodeChar c := by
  intro hmem
  rcases byte_of_mem_utf8EncodeChar hmem with hten | hlarge
  · exact h (Char.toNat_inj.mp hten.symm)
  · exact absurd hlarge (by decide)

/-! ### Line starts -/

lemma lineStartsFrom_eq_findIdxs (offset : Nat) (cs : List Char) :
    lineStartsFrom offset cs =
      ((cs.flatMap String.utf8EncodeChar).findIdxs (· == newlineByte) offset).map (· + 1) := by
  induction cs generalizing offset with
  | nil => rfl
  | cons c cs ih =>
    rw [List.flatMap_cons, List.findIdxs_append, List.map_append, String.length_utf8EncodeChar,
      lineStartsFrom, ← ih]
    by_cases hc : c = '\n'
    · subst hc
      rfl
    · have hnone : (String.utf8EncodeChar c).findIdxs (· == newlineByte) offset = [] := by
        rw [List.findIdxs_eq_nil_iff]
        intro b hb
        refine beq_eq_false_iff_ne.mpr ?_
        rintro rfl
        exact newlineByte_not_mem hc hb
      rw [hnone, if_neg hc]
      rfl

namespace LineIndex

lemma starts_ofSource (source : String) :
    (ofSource source).starts =
      (0 :: ((bytesOf source).findIdxs (· == newlineByte)).map (· + 1)).toArray := by
  rw [ofSource, lineStartsFrom_eq_findIdxs, bytesOf_eq]

lemma lineAt_eq_newlinesBefore (source : String) (offset : Nat) :
    (ofSource source).lineAt offset = 1 + newlinesBefore source offset := by
  -- The starts after newlines in front of the offset are at most the offset, as the line goes on
  -- there; those after later newlines are above it.
  let before := (bytesOf source).take offset
  let after := (bytesOf source).drop offset
  have hstarts : (ofSource source).starts =
      ((0 :: (before.findIdxs (· == newlineByte)).map (· + 1)) ++
        (after.findIdxs (· == newlineByte) before.length).map (· + 1)).toArray := by
    rw [starts_ofSource, ← List.take_append_drop offset (bytesOf source), List.findIdxs_append,
      List.map_append, Nat.zero_add, List.cons_append]
  have hlow : ∀ start ∈ 0 :: (before.findIdxs (· == newlineByte)).map (· + 1), start ≤ offset := by
    refine List.forall_mem_cons.mpr ⟨Nat.zero_le _, List.forall_mem_map.mpr fun position hp => ?_⟩
    have hlt := List.lt_add_of_mem_findIdxs position hp
    have hlength : before.length ≤ offset := List.length_take_le _ _
    omega
  have hhigh : ∀ start ∈ (after.findIdxs (· == newlineByte) before.length).map (· + 1),
      offset < start := by
    refine List.forall_mem_map.mpr fun position hp => ?_
    have hge := List.ge_of_mem_findIdxs position hp
    have hlt := List.lt_add_of_mem_findIdxs position hp
    have hbefore : before.length = min offset (bytesOf source).length := List.length_take
    have hafter : after.length = (bytesOf source).length - offset := List.length_drop
    omega
  rw [lineAt_eq_length hstarts hlow hhigh, List.length_cons, List.length_map,
    List.length_findIdxs, Nat.add_comm, newlinesBefore, List.count_eq_countP]

/-- The line of a byte offset, also of one past the end, is one more than the newline bytes before
it. -/
theorem lineAt_exact (source : String) :
    (∀ offset, (ofSource source).lineAt offset = 1 + newlinesBefore source offset) ∧
    (∀ offset, 1 ≤ (ofSource source).lineAt offset) ∧
    Monotone (ofSource source).lineAt ∧
    (ofSource source).starts.toList.Pairwise (· < ·) ∧
    (ofSource source).starts[0]? = some 0 ∧
    ∀ start, start ∈ (ofSource source).starts ↔
      start = 0 ∨ ∃ position, (bytesOf source)[position]? = some newlineByte ∧
        start = position + 1 := by
  refine ⟨lineAt_eq_newlinesBefore source, one_le_lineAt source, ?_, ?_, ?_, ?_⟩
  · intro low high hle
    rw [lineAt_eq_newlinesBefore, lineAt_eq_newlinesBefore]
    exact Nat.add_le_add_left ((List.take_sublist_take_left hle).count_le _) _
  · rw [starts_ofSource, List.pairwise_cons, List.forall_mem_map, List.pairwise_map]
    exact ⟨fun _ _ => Nat.succ_pos _, List.pairwise_findIdxs.imp Nat.succ_lt_succ⟩
  · rw [starts_ofSource]
    rfl
  · intro start
    rw [starts_ofSource, List.mem_toArray, List.mem_cons, List.mem_map]
    simp only [List.mem_findIdxs_iff_exists_getElem_pos, beq_iff_eq, List.getElem?_eq_some_iff,
      eq_comm (a := start)]

/-- The letter has two bytes, so the second newline is the byte at position 4. -/
example : ((ofSource "é\nb\n").lineAt 4, (ofSource "é\nb\n").lineAt 5) = (2, 3) := by decide +kernel

end LineIndex

end SaltConventions.Text
