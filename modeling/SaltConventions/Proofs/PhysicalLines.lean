import Mathlib.Tactic.Lemma
import SaltConventions.Text.Bytes
import SaltConventions.Text.LineIndex
import SaltConventions.Text.Pieces

/-!
# Physical lines

A text is cut into lines in two ways: `lines` lists their texts, and a line index finds the line of
a byte offset in a table of line starts. `PhysicalLine` says what a line with its line end is, and
both ways give it the same number. Every byte of a text lies in one physical line.
-/

namespace SaltConventions.Text

/-! ### Cutting -/

/-- Induction over the lines of a text, the last of which has no newline. -/
theorem lineInduction {P : List Char → Prop} (last : ∀ l, '\n' ∉ l → P l)
    (line : ∀ l rest, '\n' ∉ l → P rest → P (l ++ '\n' :: rest)) (cs : List Char) : P cs := by
  have hall : ∀ cs l, '\n' ∉ l → P (l ++ cs) := by
    intro cs
    induction cs with
    | nil =>
      intro l hl
      rw [List.append_nil]
      exact last l hl
    | cons c cs ih =>
      intro l hl
      by_cases hc : c = '\n'
      · subst hc
        exact line l cs hl (ih [] (by simp))
      · have hline : P ((l ++ [c]) ++ cs) := ih (l ++ [c]) (by simp [hl, Ne.symm hc])
        simpa using hline
  exact hall cs [] (by simp)

lemma lines_append_newline {l : List Char} (hl : '\n' ∉ l) (rest : List Char) :
    lines (l ++ '\n' :: rest) = dropReturn l :: lines rest := by
  obtain ⟨piece, later, hr⟩ := List.exists_cons_of_ne_nil (pieces_ne_nil (· == '\n') rest)
  rw [lines, pieces_append_cut l rfl, pieces_of_not_mem hl, lines, hr]
  rfl

lemma lines_of_no_newline {l : List Char} (hl : '\n' ∉ l) :
    lines l = if l.isEmpty then [] else [l] := by
  rw [lines, pieces_of_not_mem hl]
  rfl

lemma dropReturn_prefix (l : List Char) : ∃ dropped, l = dropReturn l ++ dropped := by
  by_cases hr : l.getLast? = some '\r'
  · obtain ⟨m, rfl⟩ := List.getLast?_eq_some_iff.mp hr
    exact ⟨['\r'], by simp [dropReturn]⟩
  · exact ⟨[], by simp [dropReturn, hr]⟩

/-! ### Where a line starts -/

/-- A text that ends with a line, so that what follows it starts a new one. -/
def EndsLine (cs : List Char) : Prop :=
  cs = [] ∨ cs.getLast? = some '\n'

lemma EndsLine.eq_nil {l : List Char} (h : EndsLine l) (hl : '\n' ∉ l) : l = [] := by
  rcases h with rfl | h
  · rfl
  · exact absurd (List.mem_of_getLast? h) hl

lemma EndsLine.rest {l rest : List Char} (h : EndsLine (l ++ '\n' :: rest)) : EndsLine rest := by
  cases rest with
  | nil => exact .inl rfl
  | cons c cs =>
    rcases h with h | h
    · simp at h
    · right
      simpa [List.getLast?_append] using h

lemma lines_append {before : List Char} (h : EndsLine before) (rest : List Char) :
    lines (before ++ rest) = lines before ++ lines rest := by
  induction before using lineInduction with
  | last l hl =>
    obtain rfl := h.eq_nil hl
    rfl
  | line l later hl ih =>
    rw [List.append_assoc, List.cons_append, lines_append_newline hl, lines_append_newline hl,
      ih h.rest, List.cons_append]

lemma length_lines {before : List Char} (h : EndsLine before) :
    (lines before).length = before.count '\n' := by
  induction before using lineInduction with
  | last l hl =>
    obtain rfl := h.eq_nil hl
    rfl
  | line l later hl ih =>
    rw [lines_append_newline hl, List.length_cons, ih h.rest, List.count_append,
      List.count_eq_zero.mpr hl, List.count_cons_self, Nat.zero_add]

/-! ### Line starts -/

lemma byteLength_append (xs ys : List Char) :
    byteLength (xs ++ ys) = byteLength xs + byteLength ys := by
  induction xs with
  | nil => simp [byteLength]
  | cons c cs ih => simp only [List.cons_append, byteLength, ih, Nat.add_assoc]

lemma lineStartsFrom_append (offset : Nat) (xs ys : List Char) :
    lineStartsFrom offset (xs ++ ys) =
      lineStartsFrom offset xs ++ lineStartsFrom (offset + byteLength xs) ys := by
  induction xs generalizing offset with
  | nil => rfl
  | cons c cs ih =>
    simp only [List.cons_append, lineStartsFrom, ih, byteLength, Nat.add_assoc]
    split <;> rfl

lemma length_lineStartsFrom (offset : Nat) (cs : List Char) :
    (lineStartsFrom offset cs).length = cs.count '\n' := by
  induction cs generalizing offset with
  | nil => rfl
  | cons c cs ih =>
    simp only [lineStartsFrom, List.count_cons, ← ih (offset + c.utf8Size)]
    by_cases hc : c = '\n' <;> simp [hc]

lemma bounds_of_mem_lineStartsFrom {offset : Nat} {cs : List Char} {start : Nat}
    (h : start ∈ lineStartsFrom offset cs) : offset < start ∧ start ≤ offset + byteLength cs := by
  induction cs generalizing offset with
  | nil => simp [lineStartsFrom] at h
  | cons c cs ih =>
    have hpos := c.utf8Size_pos
    have hlater : start ∈ lineStartsFrom (offset + c.utf8Size) cs →
        offset < start ∧ start ≤ offset + byteLength (c :: cs) := by
      intro hm
      have hbounds : offset + c.utf8Size < start ∧
          start ≤ offset + c.utf8Size + byteLength cs := ih hm
      simp only [byteLength]
      omega
    rw [lineStartsFrom] at h
    by_cases hc : c = '\n'
    · rw [if_pos hc, List.mem_cons] at h
      rcases h with rfl | h
      · simp only [byteLength]
        omega
      · exact hlater h
    · rw [if_neg hc] at h
      exact hlater h

lemma lineStartsFrom_eq_nil {cs : List Char} (h : '\n' ∉ cs) (offset : Nat) :
    lineStartsFrom offset cs = [] := by
  rw [← List.length_eq_zero_iff, length_lineStartsFrom, List.count_eq_zero]
  exact h

lemma le_of_mem_lineStartsFrom {l rest : List Char} (hl : '\n' ∉ l) {offset start : Nat}
    (h : start ∈ lineStartsFrom offset (l ++ '\n' :: rest)) :
    offset + byteLength (l ++ ['\n']) ≤ start := by
  have hnewline : byteLength ['\n'] = '\n'.utf8Size := rfl
  rw [lineStartsFrom_append, lineStartsFrom_eq_nil hl, List.nil_append, lineStartsFrom, if_pos rfl,
    List.mem_cons] at h
  rw [byteLength_append, hnewline]
  rcases h with rfl | h
  · omega
  · have hafter : offset + byteLength l + '\n'.utf8Size < start := (bounds_of_mem_lineStartsFrom h).1
    omega

namespace LineIndex

/-- Halving finds where the line starts at most `offset` end. -/
lemma search_eq {starts : Array Nat} {offset n : Nat}
    (hn : ∀ i < starts.size, starts.getD i 0 ≤ offset ↔ i < n) (rounds low high : Nat)
    (hlow : low ≤ n) (hhigh : n ≤ high) (hsize : high ≤ starts.size) (hgap : high ≤ low + rounds) :
    search starts offset rounds low high = n := by
  induction rounds generalizing low high with
  | zero =>
    rw [search]
    omega
  | succ rounds ih =>
    rw [search]
    by_cases hlt : low < high
    · rw [if_pos hlt]
      have hmiddle := hn ((low + high) / 2) (by omega)
      by_cases hle : starts.getD ((low + high) / 2) 0 ≤ offset
      · have hless := hmiddle.mp hle
        simp only [hle, if_true]
        exact ih _ _ (by omega) hhigh hsize (by omega)
      · have hless : ¬ (low + high) / 2 < n := fun h => hle (hmiddle.mpr h)
        simp only [hle, if_false]
        exact ih _ _ hlow (by omega) (by omega) (by omega)
    · rw [if_neg hlt]
      omega

lemma lineAt_eq_length {index : LineIndex} {low high : List Nat} {offset : Nat}
    (hstarts : index.starts = (low ++ high).toArray) (hlow : ∀ s ∈ low, s ≤ offset)
    (hhigh : ∀ s ∈ high, offset < s) : index.lineAt offset = low.length := by
  have hn : ∀ i < index.starts.size, index.starts.getD i 0 ≤ offset ↔ i < low.length := by
    intro i hi
    rw [hstarts] at hi ⊢
    rw [List.size_toArray, List.length_append] at hi
    rw [Array.getD_eq_getD_getElem?, List.getElem?_toArray]
    by_cases hil : i < low.length
    · have hle : low[i] ≤ offset := hlow _ (List.getElem_mem hil)
      simp [List.getElem?_append_left hil, hil, hle]
    · have hih : i - low.length < high.length := by omega
      have hlt : offset < high[i - low.length] := hhigh _ (List.getElem_mem hih)
      simp [List.getElem?_append_right (by omega : low.length ≤ i), hil, hih, hlt]
  apply search_eq hn
  · omega
  · rw [hstarts]
    simp
  · omega
  · omega

/-- Halving ends at the end of the table or at a line that starts after `offset`. -/
lemma search_eq_or_lt (starts : Array Nat) (offset rounds low high : Nat) (hle : low ≤ high)
    (hgap : high ≤ low + rounds) :
    search starts offset rounds low high = high ∨
      offset < starts.getD (search starts offset rounds low high) 0 := by
  induction rounds generalizing low high with
  | zero =>
    rw [search]
    exact .inl (by omega)
  | succ rounds ih =>
    rw [search]
    split
    · dsimp only
      split
      · exact ih _ _ (by omega) (by omega)
      · rename_i hmiddle
        rcases ih low ((low + high) / 2) (by omega) (by omega) with hend | hlt
        · rw [hend]
          exact .inr (by omega)
        · exact .inr hlt
    · exact .inl (by omega)

lemma one_le_lineAt (source : String) (offset : Nat) :
    1 ≤ (LineIndex.ofSource source).lineAt offset := by
  have hfirst : (LineIndex.ofSource source).starts.getD 0 0 = 0 := by simp [ofSource]
  have hsize : 0 < (LineIndex.ofSource source).starts.size := by simp [ofSource]
  rcases search_eq_or_lt (LineIndex.ofSource source).starts offset _ 0 _ (Nat.zero_le _)
    (Nat.le_add_left _ _) with hend | hlt
  · rw [lineAt, hend]
    exact hsize
  · refine Nat.pos_of_ne_zero fun hzero => ?_
    rw [lineAt] at hzero
    rw [hzero, hfirst] at hlt
    omega

end LineIndex

/-! ### Physical lines -/

/-- A line of a text with its line end, which may be empty where the text ends. `index` is the number
of the lines before it. -/
structure PhysicalLine (cs : List Char) (index : Nat) (before line ending after : List Char) :
    Prop where
  text : cs = before ++ line ++ ending ++ after
  number : before.count '\n' = index
  endsLine : EndsLine before
  unbroken : '\n' ∉ line
  ended : ending = ['\n'] ∧ line.getLast? ≠ some '\r' ∨ ending = ['\r', '\n'] ∨
    ending = [] ∧ after = [] ∧ line ≠ []

namespace PhysicalLine

variable {cs : List Char} {index : Nat} {before line ending after : List Char}

lemma first {l : List Char} (hl : '\n' ∉ l) (rest : List Char) :
    ∃ ending, PhysicalLine (l ++ '\n' :: rest) 0 [] (dropReturn l) ending rest ∧
      byteLength (dropReturn l ++ ending) = byteLength (l ++ ['\n']) := by
  by_cases hr : l.getLast? = some '\r'
  · obtain ⟨m, rfl⟩ := List.getLast?_eq_some_iff.mp hr
    have hd : dropReturn (m ++ ['\r']) = m := by simp [dropReturn]
    refine ⟨['\r', '\n'], ⟨by simp [hd], rfl, .inl rfl, ?_, .inr (.inl rfl)⟩, by simp [hd]⟩
    rw [hd]
    exact fun hm => hl (by simp [hm])
  · have hd : dropReturn l = l := by simp [dropReturn, hr]
    exact ⟨['\n'], ⟨by simp [hd], rfl, .inl rfl, hd.symm ▸ hl, .inl ⟨rfl, hd.symm ▸ hr⟩⟩, by rw [hd]⟩

lemma behind {xs : List Char} (hxs : EndsLine xs)
    (h : PhysicalLine cs index before line ending after) :
    PhysicalLine (xs ++ cs) (xs.count '\n' + index) (xs ++ before) line ending after where
  text := by simp [h.text]
  number := by rw [List.count_append, h.number]
  endsLine := by
    rcases h.endsLine with rfl | hb
    · rwa [List.append_nil]
    · exact .inr (by rw [List.getLast?_append, hb]; rfl)
  unbroken := h.unbroken
  ended := h.ended

/-- Every byte of a text lies in a physical line. -/
theorem exists_of_lt {offset : Nat} (h : offset < byteLength cs) :
    ∃ index before line ending after, PhysicalLine cs index before line ending after ∧
      byteLength before ≤ offset ∧ offset < byteLength (before ++ line ++ ending) := by
  induction cs using lineInduction generalizing offset with
  | last l hl =>
    have hne : l ≠ [] := by
      rintro rfl
      simp [byteLength] at h
    exact ⟨0, [], l, [], [], ⟨by simp, rfl, .inl rfl, hl, .inr (.inr ⟨rfl, rfl, hne⟩)⟩,
      Nat.zero_le _, by simpa using h⟩
  | line l rest hl ih =>
    by_cases hfirst : offset < byteLength (l ++ ['\n'])
    · obtain ⟨ending, hline, hbytes⟩ := first hl rest
      refine ⟨0, [], dropReturn l, ending, rest, hline, Nat.zero_le _, ?_⟩
      rwa [List.nil_append, hbytes]
    · have hcut : l ++ '\n' :: rest = (l ++ ['\n']) ++ rest := by simp
      have hends : EndsLine (l ++ ['\n']) := .inr (by simp)
      rw [hcut] at h ⊢
      rw [byteLength_append] at h
      have hrest : offset - byteLength (l ++ ['\n']) < byteLength rest := by omega
      obtain ⟨index, before, line, ending, after, hline, hlow, hhigh⟩ := ih hrest
      refine ⟨_, _, line, ending, after, hline.behind hends, ?_, ?_⟩
      · rw [byteLength_append]
        omega
      · rw [List.append_assoc (l ++ ['\n']), List.append_assoc (l ++ ['\n']), byteLength_append]
        omega

theorem getElem?_lines (h : PhysicalLine cs index before line ending after) :
    (lines cs)[index]? = some line := by
  have hfirst : (lines (line ++ (ending ++ after)))[0]? = some line := by
    rcases h.ended with ⟨rfl, hr⟩ | rfl | ⟨rfl, rfl, hne⟩
    · rw [List.singleton_append, lines_append_newline h.unbroken, dropReturn, if_neg hr]
      rfl
    · have hcut : line ++ (['\r', '\n'] ++ after) = (line ++ ['\r']) ++ '\n' :: after := by simp
      rw [hcut, lines_append_newline (by simp [h.unbroken])]
      simp [dropReturn]
    · rw [List.append_nil, List.append_nil, lines_of_no_newline h.unbroken]
      simp [hne]
  rw [h.text, List.append_assoc, List.append_assoc, lines_append h.endsLine, ← h.number,
    ← length_lines h.endsLine, List.getElem?_append_right (Nat.le_refl _), Nat.sub_self]
  exact hfirst

theorem getElem?_lines_iff :
    (lines cs)[index]? = some line ↔
      ∃ before ending after, PhysicalLine cs index before line ending after := by
  refine ⟨fun h => ?_, fun ⟨_, _, _, h⟩ => getElem?_lines h⟩
  induction cs using lineInduction generalizing index with
  | last l hl =>
    rw [lines_of_no_newline hl] at h
    obtain ⟨hne, hline⟩ : l ≠ [] ∧ [l][index]? = some line := by
      split at h
      · cases h
      next hne => exact ⟨fun hnil => hne (by simp [hnil]), h⟩
    obtain ⟨rfl, rfl⟩ : index = 0 ∧ l = line := by simpa [List.getElem?_singleton] using hline
    exact ⟨[], [], [], by simp, rfl, .inl rfl, hl, .inr (.inr ⟨rfl, rfl, hne⟩)⟩
  | line l rest hl ih =>
    rw [lines_append_newline hl] at h
    cases index with
    | zero =>
      obtain rfl : dropReturn l = line := Option.some.inj h
      obtain ⟨ending, hfirst, -⟩ := first hl rest
      exact ⟨[], ending, rest, hfirst⟩
    | succ index =>
      obtain ⟨before, ending, after, hline⟩ := ih h
      have hends : EndsLine (l ++ ['\n']) := .inr (by simp)
      have hbehind := hline.behind hends
      have hcount : (l ++ ['\n']).count '\n' + index = index + 1 := by
        rw [List.count_append, List.count_eq_zero.mpr hl, List.count_singleton_self]
        omega
      rw [hcount, List.append_assoc] at hbehind
      exact ⟨_, _, _, hbehind⟩

/-- The line index gives the bytes of a physical line its number. -/
theorem lineAt_eq {source : String} (h : PhysicalLine source.toList index before line ending after)
    {offset : Nat} (hlow : byteLength before ≤ offset)
    (hhigh : offset < byteLength (before ++ line ++ ending)) :
    (LineIndex.ofSource source).lineAt offset = index + 1 := by
  have hstarts : lineStartsFrom 0 source.toList =
      lineStartsFrom 0 before ++ lineStartsFrom (byteLength before) (line ++ ending ++ after) := by
    rw [h.text, List.append_assoc, List.append_assoc, lineStartsFrom_append, Nat.zero_add,
      ← List.append_assoc line]
  have hnext : ∀ s ∈ lineStartsFrom (byteLength before) (line ++ ending ++ after), offset < s := by
    intro s hs
    rw [List.append_assoc, byteLength_append] at hhigh
    rcases h.ended with ⟨rfl, -⟩ | rfl | ⟨rfl, rfl, -⟩
    · rw [List.append_assoc, List.singleton_append] at hs
      have hnewline : byteLength before + byteLength (line ++ ['\n']) ≤ s :=
        le_of_mem_lineStartsFrom h.unbroken hs
      omega
    · have hcut : line ++ ['\r', '\n'] ++ after = (line ++ ['\r']) ++ '\n' :: after := by simp
      rw [hcut] at hs
      have hnewline : byteLength before + byteLength (line ++ ['\r'] ++ ['\n']) ≤ s :=
        le_of_mem_lineStartsFrom (by simp [h.unbroken]) hs
      rw [List.append_assoc, List.singleton_append] at hnewline
      omega
    · rw [List.append_nil, List.append_nil, lineStartsFrom_eq_nil h.unbroken] at hs
      simp at hs
  have hlength : (LineIndex.ofSource source).lineAt offset =
      (0 :: lineStartsFrom 0 before).length := by
    refine LineIndex.lineAt_eq_length ?_ ?_ hnext
    · rw [LineIndex.ofSource, hstarts, List.cons_append]
    · intro s hs
      rcases List.mem_cons.mp hs with rfl | hs
      · exact Nat.zero_le _
      · have hle : s ≤ 0 + byteLength before := (bounds_of_mem_lineStartsFrom hs).2
        omega
  rw [hlength, List.length_cons, length_lineStartsFrom, h.number]

end PhysicalLine

end SaltConventions.Text
