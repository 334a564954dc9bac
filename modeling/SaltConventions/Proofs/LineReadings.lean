import Mathlib.Logic.ExistsUnique
import SaltConventions.Proofs.Literals

/-!
# Readings of a line

A line that is read by itself is made of segments, which are single characters and literals, and
ends with its last segment, in a literal that is not closed, or in a comment. There is always one
such reading and never a second one, and the search for a comment finds the start of the comment of
this reading.
-/

namespace SaltConventions

/-! ### Segments and ends -/

/-- What a line is made of in front of its end: a character of the code, or a literal that is closed
by its first quote without a backslash. -/
def Token.IsSegment (t : Token) : Prop :=
  t.Plain ∧ t.isComment = false

/-- The inside of a literal that is not closed. A backslash at its end has nothing to take along. -/
inductive Unclosed (quote : Char) : List Char → Prop where
  | nil : Unclosed quote []
  | backslash : Unclosed quote ['\\']
  | plain {c : Char} {body : List Char} (hc : c ≠ quote) (hb : c ≠ '\\')
      (h : Unclosed quote body) : Unclosed quote (c :: body)
  | escape (c : Char) {body : List Char} (h : Unclosed quote body) :
      Unclosed quote ('\\' :: c :: body)

/-- How a line ends behind its segments. -/
inductive LineEnd where
  | bare
  | unclosed (quote : Char) (body : List Char)
  | comment (rest : List Char)

namespace LineEnd

def text : LineEnd → List Char
  | bare => []
  | unclosed quote body => quote :: body
  | comment rest => '#' :: rest

/-- A literal that is not closed is at least opened by a quote. -/
def Valid : LineEnd → Prop
  | bare => True
  | unclosed quote body => (quote = '\'' ∨ quote = '"') ∧ Unclosed quote body
  | comment _ => True

def comment? : LineEnd → Option (List Char)
  | comment rest => some ('#' :: rest)
  | _ => none

end LineEnd

/-- A line divided into its segments and its end. -/
structure Reading where
  segments : List Token
  ending : LineEnd

/-- The line can be divided so. -/
structure Reading.Of (reading : Reading) (line : List Char) : Prop where
  segments : ∀ t ∈ reading.segments, t.IsSegment
  ending : reading.ending.Valid
  text : Token.textOf reading.segments ++ reading.ending.text = line

/-! ### There is a reading -/

lemma closed_or_unclosed (quote : Char) (cs : List Char) :
    (∃ body rest, Quoted quote body ∧ cs = body ++ quote :: rest) ∨ Unclosed quote cs := by
  induction hn : cs.length using Nat.strongRecOn generalizing cs with
  | ind n ih =>
  subst hn
  cases cs with
  | nil => exact .inr .nil
  | cons c cs =>
    by_cases hquote : c = quote
    · subst hquote
      exact .inl ⟨[], cs, .nil, rfl⟩
    by_cases hslash : c = '\\'
    · subst hslash
      -- What a backslash takes along does not count, so the induction goes down by two characters.
      cases cs with
      | nil => exact .inr .backslash
      | cons d cs =>
        have hshorter : cs.length < ('\\' :: d :: cs).length := by
          simp only [List.length_cons]
          omega
        rcases ih cs.length hshorter cs rfl with ⟨body, rest, hbody, rfl⟩ | hbody
        · exact .inl ⟨'\\' :: d :: body, rest, hbody.escape d, rfl⟩
        · exact .inr (hbody.escape d)
    · rcases ih cs.length (by simp) cs rfl with ⟨body, rest, hbody, rfl⟩ | hbody
      · exact .inl ⟨c :: body, rest, hbody.plain hquote hslash, rfl⟩
      · exact .inr (hbody.plain hquote hslash)

namespace Reading

lemma Of.behind {reading : Reading} {line : List Char} (h : reading.Of line) {t : Token}
    (ht : t.IsSegment) : Of ⟨t :: reading.segments, reading.ending⟩ (t.text ++ line) where
  segments := List.forall_mem_cons.mpr ⟨ht, h.segments⟩
  ending := h.ending
  text := by rw [Token.textOf_cons, List.append_assoc, h.text]

lemma exists_of (line : List Char) : ∃ reading : Reading, reading.Of line := by
  induction hn : line.length using Nat.strongRecOn generalizing line with
  | ind n ih =>
  subst hn
  cases line with
  | nil => exact ⟨⟨[], .bare⟩, by simp, trivial, rfl⟩
  | cons c cs =>
    by_cases hash : c = '#'
    · subst hash
      exact ⟨⟨[], .comment cs⟩, by simp, trivial, rfl⟩
    by_cases hquote : c = '\'' ∨ c = '"'
    · rcases closed_or_unclosed c cs with ⟨body, rest, hbody, rfl⟩ | hbody
      · obtain ⟨reading, hreading⟩ := ih rest.length (by simp; omega) rest rfl
        have hsegment : (Token.literal c body).IsSegment := ⟨⟨hquote, hbody⟩, rfl⟩
        have htext : (Token.literal c body).text ++ rest = c :: (body ++ c :: rest) := by
          simp [Token.text]
        exact ⟨_, htext ▸ hreading.behind hsegment⟩
      · exact ⟨⟨[], .unclosed c cs⟩, by simp, ⟨hquote, hbody⟩, rfl⟩
    · obtain ⟨reading, hreading⟩ := ih cs.length (by simp) cs rfl
      have hsegment : (Token.code c).IsSegment :=
        ⟨⟨hash, fun h => hquote (.inl h), fun h => hquote (.inr h)⟩, rfl⟩
      exact ⟨_, hreading.behind hsegment⟩

end Reading

/-! ### There is no second one -/

section Closing

variable {quote : Char} (hq : quote ≠ '\\') {a b rest rest' : List Char}
include hq

lemma Quoted.append_inj (ha : Quoted quote a) (hb : Quoted quote b)
    (h : a ++ quote :: rest = b ++ quote :: rest') : a = b ∧ rest = rest' := by
  induction ha generalizing b with
  | nil =>
    cases hb with
    | nil => exact ⟨rfl, (List.cons.inj h).2⟩
    | plain hc => exact absurd (List.cons.inj h).1.symm hc
    | escape => exact absurd (List.cons.inj h).1 hq
  | plain hc hslash _ ih =>
    cases hb with
    | nil => exact absurd (List.cons.inj h).1 hc
    | plain _ _ hb =>
      obtain ⟨rfl, htail⟩ := List.cons.inj h
      obtain ⟨rfl, hrest⟩ := ih hb htail
      exact ⟨rfl, hrest⟩
    | escape => exact absurd (List.cons.inj h).1 hslash
  | escape c _ ih =>
    cases hb with
    | nil => exact absurd (List.cons.inj h).1.symm hq
    | plain _ hslash => exact absurd (List.cons.inj h).1.symm hslash
    | escape d hb =>
      obtain ⟨rfl, htail⟩ := List.cons.inj (List.cons.inj h).2
      obtain ⟨rfl, hrest⟩ := ih hb htail
      exact ⟨rfl, hrest⟩

lemma Unclosed.ne_closed {cs : List Char} (h : Unclosed quote cs) (ha : Quoted quote a) :
    cs ≠ a ++ quote :: rest := by
  intro hcs
  induction h generalizing a with
  | nil => simp at hcs
  | backslash =>
    cases ha with
    | nil => exact hq (List.cons.inj hcs).1.symm
    | plain _ hslash => exact hslash (List.cons.inj hcs).1.symm
    | escape => simp at hcs
  | plain hc hslash _ ih =>
    cases ha with
    | nil => exact hc (List.cons.inj hcs).1
    | plain _ _ ha => exact ih ha (List.cons.inj hcs).2
    | escape => exact hslash (List.cons.inj hcs).1
  | escape c _ ih =>
    cases ha with
    | nil => exact hq (List.cons.inj hcs).1.symm
    | plain _ hslash => exact hslash (List.cons.inj hcs).1.symm
    | escape _ ha => exact ih ha (List.cons.inj (List.cons.inj hcs).2).2

end Closing

namespace Token

lemma ne_backslash_of_quote {quote : Char} (h : quote = '\'' ∨ quote = '"') : quote ≠ '\\' := by
  rcases h with rfl | rfl <;> decide

/-- A text starts with one segment at most. -/
lemma IsSegment.append_inj {t u : Token} (ht : t.IsSegment) (hu : u.IsSegment) {xs ys : List Char}
    (h : t.text ++ xs = u.text ++ ys) : t = u ∧ xs = ys := by
  obtain ⟨ht, htc⟩ := ht
  obtain ⟨hu, huc⟩ := hu
  cases t with
  | code c =>
    cases u with
    | code d =>
      obtain ⟨rfl, hrest⟩ := List.cons.inj h
      exact ⟨rfl, hrest⟩
    | literal quote body =>
      have hc : c = quote := (List.cons.inj h).1
      exact (hu.1.elim (fun hq => ht.2.1 (hc.trans hq)) fun hq => ht.2.2 (hc.trans hq)).elim
    | long => exact hu.elim
    | comment => cases huc
  | literal quote body =>
    cases u with
    | code d =>
      have hd : quote = d := (List.cons.inj h).1
      exact (ht.1.elim (fun hq => hu.2.1 (hd.symm.trans hq))
        fun hq => hu.2.2 (hd.symm.trans hq)).elim
    | literal quote' body' =>
      simp only [text, List.cons_append, List.append_assoc, List.nil_append] at h
      obtain ⟨rfl, htail⟩ := List.cons.inj h
      obtain ⟨rfl, hrest⟩ := ht.2.append_inj (ne_backslash_of_quote ht.1) hu.2 htail
      exact ⟨rfl, hrest⟩
    | long => exact hu.elim
    | comment => cases huc
  | long => exact ht.elim
  | comment => cases htc

lemma IsSegment.ne_ending {t : Token} (ht : t.IsSegment) {ending : LineEnd} (he : ending.Valid)
    (xs : List Char) : t.text ++ xs ≠ ending.text := by
  obtain ⟨ht, htc⟩ := ht
  intro h
  cases t with
  | code c =>
    cases ending with
    | bare => cases h
    | unclosed quote body =>
      have hc : c = quote := (List.cons.inj h).1
      exact he.1.elim (fun hq => ht.2.1 (hc.trans hq)) fun hq => ht.2.2 (hc.trans hq)
    | comment rest => exact ht.1 (List.cons.inj h).1
  | literal quote body =>
    simp only [text, List.cons_append, List.append_assoc, List.nil_append] at h
    cases ending with
    | bare => cases h
    | unclosed quote' body' =>
      obtain ⟨rfl, htail⟩ := List.cons.inj h
      exact he.2.ne_closed (ne_backslash_of_quote ht.1) ht.2 htail.symm
    | comment rest =>
      obtain rfl : quote = '#' := (List.cons.inj h).1
      exact absurd ht.1 (by decide)
  | long => exact ht
  | comment => cases htc

end Token

lemma LineEnd.text_inj {e e' : LineEnd} (he : e.Valid) (he' : e'.Valid) (h : e.text = e'.text) :
    e = e' := by
  have hash : ∀ quote : Char, quote = '\'' ∨ quote = '"' → quote ≠ '#' := by
    rintro quote (rfl | rfl) <;> decide
  cases e <;> cases e' <;> grind [text, Valid]

namespace Reading

lemma Of.unique {reading other : Reading} {line : List Char} (h : reading.Of line)
    (h' : other.Of line) : reading = other := by
  obtain ⟨segments, ending⟩ := reading
  obtain ⟨segments', ending'⟩ := other
  have htext := h.text.trans h'.text.symm
  obtain ⟨hs, he, -⟩ := h
  obtain ⟨hs', he', -⟩ := h'
  dsimp only at hs he hs' he' htext
  induction segments generalizing segments' with
  | nil =>
    cases segments' with
    | nil => rw [LineEnd.text_inj he he' htext]
    | cons u later =>
      rw [Token.textOf_cons, List.append_assoc] at htext
      exact absurd htext.symm ((hs' u (by simp)).ne_ending he _)
  | cons t later ih =>
    cases segments' with
    | nil =>
      rw [Token.textOf_cons, List.append_assoc] at htext
      exact absurd htext ((hs t (by simp)).ne_ending he' _)
    | cons u later' =>
      rw [Token.textOf_cons, Token.textOf_cons, List.append_assoc, List.append_assoc] at htext
      obtain ⟨rfl, hlater⟩ := (hs t (by simp)).append_inj (hs' u (by simp)) htext
      have hsame := ih later' hlater (fun v hv => hs v (by simp [hv]))
        fun v hv => hs' v (by simp [hv])
      obtain ⟨rfl, rfl⟩ := Reading.mk.inj hsame
      rfl

end Reading

/-! ### Finding the comment of the reading -/

namespace Suppression

open Token

lemma splitComment_segments {segments : List Token} (h : ∀ t ∈ segments, t.IsSegment)
    (rest : List Char) :
    splitComment .code (textOf segments ++ rest) =
      (splitComment .code rest).map (behind (textOf segments)) := by
  induction segments with
  | nil => exact Option.map_id'.symm
  | cons t later ih =>
    obtain ⟨⟨ht, htc⟩, hlater⟩ := List.forall_mem_cons.mp h
    rw [textOf_cons, List.append_assoc, splitComment_token ht htc, ih hlater, Option.map_map]
    congr 1
    funext cut
    simp [behind]

lemma splitComment_unclosed {quote : Char} {body : List Char} (h : Unclosed quote body) :
    splitComment (.literal quote) body = none := by
  induction h with
  | nil => rfl
  | backslash => rfl
  | plain hc hslash _ ih => simp only [splitComment, hc, hslash, if_false, ih, Option.map_none]
  | escape c _ ih => simp only [splitComment, if_true, ih, Option.map_none]

lemma splitComment_ending {ending : LineEnd} (h : ending.Valid) :
    splitComment .code ending.text = ending.comment?.map fun comment => ([], comment) := by
  cases ending with
  | bare => rfl
  | comment rest => rfl
  | unclosed quote body =>
    have hash : quote ≠ '#' := by
      rcases h.1 with rfl | rfl <;> decide
    simp only [LineEnd.text, splitComment, hash, h.1, if_false, if_true,
      splitComment_unclosed h.2, Option.map_none]
    rfl

/-- The search cuts a line in front of the comment of its reading. -/
lemma splitComment_of_reading {reading : Reading} {line : List Char} (h : reading.Of line) :
    splitComment .code line =
      reading.ending.comment?.map fun comment => (textOf reading.segments, comment) := by
  rw [← h.text, splitComment_segments h.segments, splitComment_ending h.ending, Option.map_map]
  congr 1
  funext comment
  simp [behind]

lemma commentStart_of_reading {reading : Reading} {line : List Char} (h : reading.Of line) :
    commentStart line =
      reading.ending.comment?.map fun _ => Text.byteLength (textOf reading.segments) := by
  rw [commentStart, splitComment_of_reading h, Option.map_map]
  rfl

end Suppression

/-! ### Byte offsets in a line -/

namespace Text

lemma utf8ByteSize_ofList (cs : List Char) : (String.ofList cs).utf8ByteSize = byteLength cs := by
  induction cs with
  | nil => rfl
  | cons c cs ih =>
    rw [String.ofList_cons, String.utf8ByteSize_append, String.utf8ByteSize_singleton, ih]
    rfl

lemma dropBytes?_append (xs ys : List Char) : dropBytes? (byteLength xs) (xs ++ ys) = some ys := by
  induction xs with
  | nil => simp [byteLength, dropBytes?]
  | cons c cs ih =>
    obtain ⟨n, hn⟩ : ∃ n, byteLength (c :: cs) = n + 1 :=
      Nat.exists_eq_add_one.mpr (Nat.add_pos_left c.utf8Size_pos _)
    have hsize : c.utf8Size + byteLength cs = n + 1 := hn
    have hrest : n + 1 - c.utf8Size = byteLength cs := by omega
    rw [hn, List.cons_append, dropBytes?, if_pos (by omega), hrest, ih]

lemma isValid_byteLength (xs ys : List Char) :
    String.Pos.Raw.IsValid (String.ofList (xs ++ ys)) ⟨byteLength xs⟩ := by
  rw [String.Pos.Raw.isValid_iff_exists_append]
  refine ⟨String.ofList xs, String.ofList ys, String.ofList_append, ?_⟩
  rw [← utf8ByteSize_ofList]
  rfl

end Text

namespace Suppression

open Token

lemma exists_segments_of_commentStart {line : List Char} {offset : Nat}
    (h : commentStart line = some offset) :
    ∃ segments rest, textOf segments ++ '#' :: rest = line ∧
      offset = Text.byteLength (textOf segments) := by
  obtain ⟨reading, hreading⟩ := Reading.exists_of line
  rw [commentStart_of_reading hreading] at h
  obtain ⟨comment, hcomment, rfl⟩ := Option.map_eq_some_iff.mp h
  have htext := hreading.text
  cases hending : reading.ending with
  | bare => simp [hending, LineEnd.comment?] at hcomment
  | unclosed quote body => simp [hending, LineEnd.comment?] at hcomment
  | comment rest =>
    rw [hending] at htext
    exact ⟨reading.segments, rest, htext, rfl⟩

lemma commentStart_eq_none_iff {line : List Char} :
    commentStart line = none ↔ ∃ segments, (∀ t ∈ segments, t.IsSegment) ∧
      (textOf segments = line ∨ ∃ quote body, (quote = '\'' ∨ quote = '"') ∧
        Unclosed quote body ∧ textOf segments ++ quote :: body = line) := by
  constructor
  · intro hnone
    obtain ⟨reading, hreading⟩ := Reading.exists_of line
    refine ⟨reading.segments, hreading.segments, ?_⟩
    have htext := hreading.text
    have hvalid := hreading.ending
    rw [commentStart_of_reading hreading] at hnone
    cases hending : reading.ending with
    | bare =>
      rw [hending] at htext
      exact .inl (by simpa [LineEnd.text] using htext)
    | unclosed quote body =>
      rw [hending] at htext hvalid
      exact .inr ⟨quote, body, hvalid.1, hvalid.2, htext⟩
    | comment rest => simp [hending, LineEnd.comment?] at hnone
  · rintro ⟨segments, hsegments, htext | ⟨quote, body, hquote, hbody, htext⟩⟩
    · have hof : Reading.Of ⟨segments, .bare⟩ line :=
        ⟨hsegments, trivial, by simpa [LineEnd.text] using htext⟩
      exact commentStart_of_reading hof
    · have hof : Reading.Of ⟨segments, .unclosed quote body⟩ line :=
        ⟨hsegments, ⟨hquote, hbody⟩, htext⟩
      exact commentStart_of_reading hof

/-- Every line has one reading, and the search gives the byte offset of the `#` of the comment in
which this reading ends, if it ends in one. -/
theorem commentStart_exact (line : List Char) :
    (∃! reading : Reading, reading.Of line) ∧
    (∀ segments rest, (∀ t ∈ segments, t.IsSegment) → textOf segments ++ '#' :: rest = line →
      commentStart line = some (Text.byteLength (textOf segments))) ∧
    (commentStart line = none ↔ ∃ segments, (∀ t ∈ segments, t.IsSegment) ∧
      (textOf segments = line ∨ ∃ quote body, (quote = '\'' ∨ quote = '"') ∧
        Unclosed quote body ∧ textOf segments ++ quote :: body = line)) ∧
    ∀ offset, commentStart line = some offset →
      offset < (String.ofList line).utf8ByteSize ∧
      String.Pos.Raw.IsValid (String.ofList line) ⟨offset⟩ ∧
      ∃ rest, Text.dropBytes? offset line = some ('#' :: rest) := by
  obtain ⟨reading, hreading⟩ := Reading.exists_of line
  refine ⟨⟨reading, hreading, fun _ h => h.unique hreading⟩, ?_, commentStart_eq_none_iff, ?_⟩
  · intro segments rest hsegments htext
    have hof : Reading.Of ⟨segments, .comment rest⟩ line := ⟨hsegments, trivial, htext⟩
    exact commentStart_of_reading hof
  · intro offset hoffset
    obtain ⟨segments, rest, rfl, rfl⟩ := exists_segments_of_commentStart hoffset
    refine ⟨?_, Text.isValid_byteLength _ _, rest, Text.dropBytes?_append _ _⟩
    have hpos : 0 < Text.byteLength ('#' :: rest) := Nat.add_pos_left ('#').utf8Size_pos _
    rw [Text.utf8ByteSize_ofList, Text.byteLength_append]
    omega

/-- The first quote behind a backslash does not close the literal, and the letter has two bytes. -/
example : commentStart "x = 'é\\'#' # y".toList = some 12 := by decide +kernel

end Suppression

end SaltConventions
