import Mathlib.Data.List.Basic
import SaltConventions.Proofs.Wording

/-!
# Filling placeholders

A template is read in one way as placeholders and other characters: every percent sign with a letter
of a placeholder behind it belongs to a placeholder. The placeholder with so many others in front of
it takes the argument with so many others in front of it. What is put in is not read again.
-/

namespace SaltConventions.Message

/-! ### Reading a template -/

/-- A piece of a template: a placeholder that takes its argument as it is or as a quoted literal, or
another character. -/
inductive Piece where
  | plain
  | quoted
  | other (c : Char)

namespace Piece

def write : Piece → List Char
  | plain => ['%', 's']
  | quoted => ['%', 'r']
  | other c => [c]

def isSlot : Piece → Bool
  | other _ => false
  | _ => true

/-- A piece in a message, with the argument that it takes if it is a placeholder. A placeholder
without an argument stays as it stands in the template. -/
def shown : Piece → Option String → List Char
  | plain, some arg => arg.toList
  | quoted, some arg => Text.Literal.encode arg.toList
  | piece, _ => piece.write

end Piece

def writeAll (pieces : List Piece) : List Char :=
  pieces.flatMap Piece.write

def slots (pieces : List Piece) : Nat :=
  pieces.countP Piece.isSlot

/-- A template has these pieces, and all its placeholders are among them. -/
structure Cut (template : List Char) (pieces : List Piece) : Prop where
  write : writeAll pieces = template
  complete : ∀ before c after, pieces = before ++ .other c :: after →
    ¬StartsSlot (c :: writeAll after)

/-- The pieces of a template in a message: a placeholder takes the argument with as many arguments
in front of it as there are placeholders in front of the placeholder. -/
def shownAll (pieces : List Piece) (args : List String) : List Char :=
  (pieces.mapIdx fun i piece => piece.shown args[slots (pieces.take i)]?).flatten

/-- The number of places of a text where a pattern starts. -/
def occurrences (pattern cs : List Char) : Nat :=
  cs.tails.countP (pattern.isPrefixOf ·)

/-! ### One way to read it -/

def cut : List Char → List Piece
  | [] => []
  | '%' :: 's' :: rest => .plain :: cut rest
  | '%' :: 'r' :: rest => .quoted :: cut rest
  | c :: rest => .other c :: cut rest

lemma cut_other {c : Char} {rest : List Char} (h : ¬StartsSlot (c :: rest)) :
    cut (c :: rest) = .other c :: cut rest := by
  rw [cut]
  · rintro later rfl rfl
    exact h ⟨later, .inl rfl⟩
  · rintro later rfl rfl
    exact h ⟨later, .inr rfl⟩

lemma Cut.nil : Cut [] [] :=
  ⟨rfl, by simp⟩

lemma Cut.cons {template : List Char} {pieces : List Piece} (piece : Piece)
    (hpiece : ∀ c, piece = .other c → ¬StartsSlot (c :: template)) (h : Cut template pieces) :
    Cut (piece.write ++ template) (piece :: pieces) := by
  refine ⟨congrArg _ h.write, ?_⟩
  intro before c after hsplit
  cases before with
  | nil =>
    obtain ⟨hc, rfl⟩ := List.cons.inj hsplit
    rw [h.write]
    exact hpiece c hc
  | cons first before => exact h.complete before c after (List.cons.inj hsplit).2

lemma cut_cut (template : List Char) : Cut template (cut template) := by
  induction template using slotInduction with
  | nil => exact .nil
  | plain rest ih => exact .cons .plain (by simp) ih
  | quoted rest ih => exact .cons .quoted (by simp) ih
  | other c rest hc ih =>
    rw [cut_other hc]
    refine .cons (.other c) ?_ ih
    rintro d ⟨⟩
    exact hc

lemma Cut.tail {template : List Char} {piece : Piece} {pieces : List Piece}
    (h : Cut template (piece :: pieces)) : Cut (writeAll pieces) pieces :=
  ⟨rfl, fun before c after hsplit => h.complete (piece :: before) c after (by simp [hsplit])⟩

theorem Cut.eq_cut {template : List Char} {pieces : List Piece} (h : Cut template pieces) :
    pieces = cut template := by
  induction pieces generalizing template with
  | nil =>
    obtain rfl := h.write
    rfl
  | cons piece pieces ih =>
    -- The first piece is told by how the template starts, since a percent sign by itself starts no
    -- placeholder.
    have hlater := ih h.tail
    obtain rfl := h.write
    cases piece with
    | plain => exact congrArg _ hlater
    | quoted => exact congrArg _ hlater
    | other c =>
      have hc : ¬StartsSlot (c :: writeAll pieces) := h.complete [] c pieces rfl
      exact (congrArg _ hlater).trans (cut_other hc).symm

/-! ### Filling it -/

lemma shownAll_other (c : Char) (pieces : List Piece) (args : List String) :
    shownAll (.other c :: pieces) args = c :: shownAll pieces args := by
  simp [shownAll, slots, List.mapIdx_cons, Piece.shown, Piece.write, Piece.isSlot]

lemma shownAll_slot {piece : Piece} (h : piece.isSlot = true) (pieces : List Piece)
    (args : List String) :
    shownAll (piece :: pieces) args = piece.shown args.head? ++ shownAll pieces args.tail := by
  simp [shownAll, slots, List.mapIdx_cons, h, List.getElem?_tail, List.head?_eq_getElem?]

theorem fill_eq (template : List Char) (args : List String) :
    fill template args = shownAll (cut template) args := by
  induction template using slotInduction generalizing args with
  | nil => rw [fill]; rfl
  | plain rest ih =>
    rw [cut, shownAll_slot rfl, ← ih]
    cases args <;> rfl
  | quoted rest ih =>
    rw [cut, shownAll_slot rfl, ← ih]
    cases args <;> rfl
  | other c rest hc ih => rw [cut_other hc, shownAll_other, ← ih, fill_other hc]

lemma fill_nil (template : List Char) : fill template [] = template := by
  induction template using slotInduction with
  | nil => rfl
  | plain rest ih => rw [fill, ih]
  | quoted rest ih => rw [fill, ih]
  | other c rest hc ih => rw [fill_other hc, ih]

lemma fill_take (template : List Char) (args : List String) :
    fill template (args.take (countSlots template)) = fill template args := by
  induction template using slotInduction generalizing args with
  | nil => rw [fill, fill]
  | plain rest ih =>
    cases args with
    | nil => rfl
    | cons arg args => rw [countSlots, List.take_succ_cons, fill, fill, ih]
  | quoted rest ih =>
    cases args with
    | nil => rfl
    | cons arg args => rw [countSlots, List.take_succ_cons, fill, fill, ih]
  | other c rest hc ih => rw [countSlots_other hc, fill_other hc, fill_other hc, ih]

/-! ### Counting placeholders -/

lemma countSlots_eq_slots (template : List Char) : countSlots template = slots (cut template) := by
  induction template using slotInduction with
  | nil => rfl
  | plain rest ih => rw [countSlots, cut, ih, slots, slots, List.countP_cons_of_pos rfl]
  | quoted rest ih => rw [countSlots, cut, ih, slots, slots, List.countP_cons_of_pos rfl]
  | other c rest hc ih =>
    rw [countSlots_other hc, cut_other hc, ih, slots, slots,
      List.countP_cons_of_neg Bool.false_ne_true]

lemma occurrences_cons (pattern : List Char) (c : Char) (rest : List Char) :
    occurrences pattern (c :: rest) =
      (if pattern <+: c :: rest then 1 else 0) + occurrences pattern rest := by
  simp [occurrences, List.countP_cons, Nat.add_comm]

lemma countSlots_eq_occurrences (template : List Char) :
    countSlots template = occurrences ['%', 's'] template + occurrences ['%', 'r'] template := by
  induction template using slotInduction with
  | nil => rfl
  | plain rest ih =>
    simp only [countSlots, occurrences_cons, ih]
    simp
    omega
  | quoted rest ih =>
    simp only [countSlots, occurrences_cons, ih]
    simp
    omega
  | other c rest hc ih =>
    have hplain : ¬['%', 's'] <+: c :: rest := by
      rintro ⟨later, h⟩
      exact hc ⟨later, .inl h.symm⟩
    have hquoted : ¬['%', 'r'] <+: c :: rest := by
      rintro ⟨later, h⟩
      exact hc ⟨later, .inr h.symm⟩
    rw [countSlots_other hc, occurrences_cons, occurrences_cons, if_neg hplain, if_neg hquoted, ih]
    omega

/-- A template is cut into pieces in one way, and a message shows each placeholder with the argument
of its number, as long as there is one. -/
theorem render_fills_in_order (m : Message) :
    ∃ pieces, Cut m.template.toList pieces ∧
      (∀ others, Cut m.template.toList others → others = pieces) ∧
      (∀ args, (m.render args).toList =
        (pieces.mapIdx fun i piece => piece.shown args[slots (pieces.take i)]?).flatten) ∧
      m.arity = slots pieces ∧
      m.arity = occurrences ['%', 's'] m.template.toList +
        occurrences ['%', 'r'] m.template.toList ∧
      (∀ args, m.render args = m.render (args.take m.arity)) ∧
      m.render [] = m.template := by
  refine ⟨cut m.template.toList, cut_cut _, fun others h => h.eq_cut, ?_, countSlots_eq_slots _,
    countSlots_eq_occurrences _, ?_, ?_⟩
  · intro args
    rw [render, String.toList_ofList, fill_eq]
    rfl
  · intro args
    rw [render, render, arity, fill_take]
  · rw [render, fill_nil, String.ofList_toList]

/-- Doubled percent signs, an argument that looks like a placeholder, and a missing argument. -/
example : fill "%%s, %%%r, %s %".toList ["%r", "%s"] = "%%r, %%'%s', %s %".toList := by decide

end SaltConventions.Message
