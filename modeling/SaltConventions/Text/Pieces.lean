/-!
# Cutting and searching text

Texts are handled as lists of characters. `pieces` cuts at chosen characters, `lines` cuts into
lines, `stripPrefix?`, `after?` and `replace` look for a fixed pattern. Every function here is total
and recurses on the text itself.
-/

namespace SaltConventions.Text

/-- The pieces between the characters that `cut` picks out: one more piece than there are cuts. -/
def pieces (cut : Char → Bool) (cs : List Char) : List (List Char) :=
  cs.foldr
    (fun c done =>
      if cut c then [] :: done
      else
        match done with
        | [] => [[c]]
        | piece :: later => (c :: piece) :: later)
    [[]]

theorem pieces_cons (cut : Char → Bool) (c : Char) (cs : List Char) :
    pieces cut (c :: cs) =
      if cut c then [] :: pieces cut cs
      else match pieces cut cs with
        | [] => [[c]]
        | piece :: later => (c :: piece) :: later := rfl

theorem pieces_ne_nil (cut : Char → Bool) (cs : List Char) : pieces cut cs ≠ [] := by
  cases cs with
  | nil => simp [pieces]
  | cons c cs =>
    rw [pieces_cons]
    split
    · simp
    · split <;> simp

theorem pieces_of_no_cut {cut : Char → Bool} {cs : List Char} (h : ∀ c ∈ cs, cut c = false) :
    pieces cut cs = [cs] := by
  induction cs with
  | nil => rfl
  | cons c cs ih =>
    rw [pieces_cons, if_neg (by simp [h c]), ih fun d hd => h d (by simp [hd])]

theorem pieces_of_not_mem {mark : Char} {cs : List Char} (h : mark ∉ cs) :
    pieces (· == mark) cs = [cs] :=
  pieces_of_no_cut fun _ hc => beq_eq_false_iff_ne.mpr fun hmark => h (hmark ▸ hc)

theorem pieces_append_cut {cut : Char → Bool} (xs : List Char) {c : Char} (hc : cut c = true)
    (ys : List Char) : pieces cut (xs ++ c :: ys) = pieces cut xs ++ pieces cut ys := by
  induction xs with
  | nil => rw [List.nil_append, pieces_cons, if_pos hc]; rfl
  | cons x xs ih =>
    rw [List.cons_append, pieces_cons, pieces_cons, ih]
    obtain ⟨piece, later, hp⟩ := List.exists_cons_of_ne_nil (pieces_ne_nil cut xs)
    rw [hp]
    split <;> rfl

theorem head?_pieces (cut : Char → Bool) (cs : List Char) :
    (pieces cut cs).head? = some (cs.takeWhile fun c => !cut c) := by
  induction cs with
  | nil => rfl
  | cons c cs ih =>
    obtain ⟨piece, later, hp⟩ := List.exists_cons_of_ne_nil (pieces_ne_nil cut cs)
    rw [hp] at ih
    rw [pieces_cons, hp, List.takeWhile_cons]
    by_cases hc : cut c = true
    · simp [hc]
    · simpa [hc] using ih

theorem takeWhile_append_mark {mark : Char} {xs : List Char} (h : mark ∉ xs) (ys : List Char) :
    (xs ++ mark :: ys).takeWhile (· != mark) = xs := by
  have hbefore : ∀ x ∈ xs, (x != mark) = true := fun x hx =>
    bne_iff_ne.mpr fun hmark => h (hmark ▸ hx)
  rw [List.takeWhile_append_of_pos hbefore]
  simp

theorem dropWhile_append_mark {mark : Char} {xs : List Char} (h : mark ∉ xs) (ys : List Char) :
    (xs ++ mark :: ys).dropWhile (· != mark) = mark :: ys := by
  have hbefore : ∀ x ∈ xs, (x != mark) = true := fun x hx =>
    bne_iff_ne.mpr fun hmark => h (hmark ▸ hx)
  rw [List.dropWhile_append_of_pos hbefore]
  simp

/-- The pieces of a string between occurrences of one character. -/
def splitAt (mark : Char) (s : String) : List String :=
  (pieces (· == mark) s.toList).map String.ofList

theorem splitAt_of_not_mem {mark : Char} {s : String} (h : mark ∉ s.toList) :
    splitAt mark s = [s] := by
  rw [splitAt, pieces_of_not_mem h, List.map_singleton, String.ofList_toList]

/-- The mark divides the pieces before it from those behind it. -/
theorem splitAt_append {mark : Char} {joint : String} (hjoint : joint.toList = [mark])
    (front back : String) :
    splitAt mark (front ++ joint ++ back) = splitAt mark front ++ splitAt mark back := by
  have htext : (front ++ joint ++ back).toList = front.toList ++ mark :: back.toList := by
    simp [hjoint]
  rw [splitAt, htext, pieces_append_cut _ (by simp), List.map_append]
  rfl

theorem splitAt_joined {mark : Char} {joint front back : String} (hjoint : joint.toList = [mark])
    (hfront : mark ∉ front.toList) (hback : mark ∉ back.toList) :
    splitAt mark (front ++ joint ++ back) = [front, back] := by
  rw [splitAt_append hjoint, splitAt_of_not_mem hfront, splitAt_of_not_mem hback]
  rfl

def trimEnd (drop : Char → Bool) (cs : List Char) : List Char :=
  (cs.reverse.dropWhile drop).reverse

def trim (drop : Char → Bool) (cs : List Char) : List Char :=
  trimEnd drop (cs.dropWhile drop)

theorem dropWhile_of_head {drop : Char → Bool} {cs : List Char}
    (h : ∀ c ∈ cs.head?, drop c = false) : cs.dropWhile drop = cs := by
  cases cs with
  | nil => rfl
  | cons c cs => exact List.dropWhile_cons_of_neg (by simp [h c rfl])

/-- Trimming leaves what stands between the characters to drop, if it neither starts nor ends with
one of them. -/
theorem trim_append {drop : Char → Bool} {front core back : List Char}
    (hfront : ∀ c ∈ front, drop c = true) (hhead : ∀ c ∈ core.head?, drop c = false)
    (hlast : ∀ c ∈ core.getLast?, drop c = false) (hback : ∀ c ∈ back, drop c = true) :
    trim drop (front ++ core ++ back) = core := by
  have hback' : ∀ c ∈ back.reverse, drop c = true := by simpa using hback
  have hstart : (core ++ back).dropWhile drop = if core = [] then [] else core ++ back := by
    cases core with
    | nil =>
      rw [← List.append_nil back, List.nil_append, List.dropWhile_append_of_pos hback]
      rfl
    | cons c cs => exact dropWhile_of_head (by simpa using hhead c rfl)
  rw [trim, List.append_assoc, List.dropWhile_append_of_pos hfront, hstart]
  split
  · subst core
    rfl
  · rw [trimEnd, List.reverse_append, List.dropWhile_append_of_pos hback',
      dropWhile_of_head (by simpa using hlast), List.reverse_reverse]

theorem exists_trim (drop : Char → Bool) (cs : List Char) :
    ∃ front back, cs = front ++ trim drop cs ++ back ∧
      (∀ c ∈ front, drop c = true) ∧ ∀ c ∈ back, drop c = true := by
  let rest := cs.dropWhile drop
  refine ⟨cs.takeWhile drop, (rest.reverse.takeWhile drop).reverse, ?_, ?_, ?_⟩
  · have hrest : rest = trimEnd drop rest ++ (rest.reverse.takeWhile drop).reverse := by
      rw [trimEnd, ← List.reverse_append, List.takeWhile_append_dropWhile, List.reverse_reverse]
    rw [List.append_assoc, trim, ← hrest, List.takeWhile_append_dropWhile]
  · exact List.all_eq_true.mp List.all_takeWhile
  · exact fun c hc => List.all_eq_true.mp List.all_takeWhile c (List.mem_reverse.mp hc)

theorem head?_dropWhile (drop : Char → Bool) (cs : List Char) :
    ∀ c ∈ (cs.dropWhile drop).head?, drop c = false := by
  intro c hc
  have hhead := List.head?_dropWhile_not drop cs
  rw [Option.mem_def.mp hc] at hhead
  exact hhead

theorem ends_trim (drop : Char → Bool) (cs : List Char) :
    (∀ c ∈ (trim drop cs).head?, drop c = false) ∧
      ∀ c ∈ (trim drop cs).getLast?, drop c = false := by
  constructor
  · obtain ⟨kept, hkept⟩ : trim drop cs <+: cs.dropWhile drop := by
      rw [trim, trimEnd, ← List.reverse_suffix, List.reverse_reverse]
      exact List.dropWhile_suffix drop
    intro c hc
    refine head?_dropWhile drop cs c ?_
    rw [← hkept, List.head?_append, Option.mem_def.mp hc]
    rfl
  · rw [trim, trimEnd, List.getLast?_reverse]
    exact head?_dropWhile drop _

/-- What follows `pattern` at the start of the text, if the text starts with it. -/
def stripPrefix? : List Char → List Char → Option (List Char)
  | [], cs => some cs
  | _ :: _, [] => none
  | p :: pattern, c :: cs => if p = c then stripPrefix? pattern cs else none

theorem stripPrefix?_eq_some_iff {pattern cs rest : List Char} :
    stripPrefix? pattern cs = some rest ↔ cs = pattern ++ rest := by
  induction pattern generalizing cs with
  | nil => simp [stripPrefix?]
  | cons p pattern ih =>
    cases cs with
    | nil => simp [stripPrefix?]
    | cons c cs =>
      rw [stripPrefix?]
      by_cases hp : p = c
      · rw [if_pos hp, ih, hp, List.cons_append, List.cons_inj_right]
      · rw [if_neg hp, List.cons_append, List.cons_eq_cons]
        exact ⟨nofun, fun h => absurd h.1.symm hp⟩

/-- What follows the first occurrence of `pattern`. -/
def after? (pattern : List Char) : List Char → Option (List Char)
  | [] => if pattern.isEmpty then some [] else none
  | c :: cs =>
    match stripPrefix? pattern (c :: cs) with
    | some rest => some rest
    | none => after? pattern cs

def occursIn (pattern cs : List Char) : Bool :=
  (after? pattern cs).isSome

def endsWith (ending cs : List Char) : Bool :=
  (stripPrefix? ending.reverse cs.reverse).isSome

/-- Replaces the occurrences of `pattern` found from left to right, after skipping `skip` characters
that belong to an occurrence already replaced. -/
def replaceFrom (pattern fresh : List Char) : Nat → List Char → List Char
  | _, [] => []
  | skip + 1, _ :: cs => replaceFrom pattern fresh skip cs
  | 0, c :: cs =>
    if (stripPrefix? pattern (c :: cs)).isSome then
      fresh ++ replaceFrom pattern fresh (pattern.length - 1) cs
    else c :: replaceFrom pattern fresh 0 cs

/-- Replaces every occurrence of the non-empty `pattern`, from left to right and without rescanning
what was put in. -/
def replace (pattern fresh text : String) : String :=
  String.ofList (replaceFrom pattern.toList fresh.toList 0 text.toList)

/-- A line without the carriage return that belonged to its line end. -/
def dropReturn (line : List Char) : List Char :=
  if line.getLast? = some '\r' then line.dropLast else line

/-- The lines among the pieces between newlines: all pieces but the last were ended by a newline,
and an empty last piece is no line. -/
def linesOfPieces : List (List Char) → List (List Char)
  | [] => []
  | [last] => if last.isEmpty then [] else [last]
  | piece :: later => dropReturn piece :: linesOfPieces later

/-- The lines of a text. Only a newline ends a line, and it takes one carriage return before it
along; a carriage return by itself is ordinary text. -/
def lines (cs : List Char) : List (List Char) :=
  linesOfPieces (pieces (· == '\n') cs)

/-- Every way to cut a dotted text in front of a dot or at its end, shortest first part first. -/
def dotCuts : List Char → List (List Char × List Char)
  | [] => [([], [])]
  | c :: cs =>
    let longer := (dotCuts cs).map fun cut => (c :: cut.1, cut.2)
    if c = '.' then ([], c :: cs) :: longer else longer

end SaltConventions.Text
