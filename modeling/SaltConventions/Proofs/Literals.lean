import SaltConventions.Proofs.InlineSuppression
import SaltConventions.Proofs.Itinerary

/-!
# Comments and string literals

The comment of a line is searched without regard to other lines. The search goes wrong only where a
literal is not closed by its first quote: a literal over several lines, or one in triple quotes that
holds a quote of its own kind. On every other line the directive that is obeyed stands outside the
literals of the module.
-/

namespace SaltConventions

/-- The inside of a literal in which a backslash takes the next character along, and the quote
occurs in no other way. -/
inductive Quoted (quote : Char) : List Char → Prop where
  | nil : Quoted quote []
  | plain {c : Char} {body : List Char} (hc : c ≠ quote) (hb : c ≠ '\\') (h : Quoted quote body) :
      Quoted quote (c :: body)
  | escape (c : Char) {body : List Char} (h : Quoted quote body) : Quoted quote ('\\' :: c :: body)

namespace Suppression

/-- A cut with something written in front of it. -/
def behind (front : List Char) (cut : List Char × List Char) : List Char × List Char :=
  (front ++ cut.1, cut.2)

lemma splitComment_code {c : Char} (hash : c ≠ '#') (hq : c ≠ '\'') (hd : c ≠ '"')
    (rest : List Char) :
    splitComment .code (c :: rest) = (splitComment .code rest).map (behind [c]) := by
  simp only [splitComment, hash, hq, hd, or_self, if_false]
  rfl

lemma splitComment_literal {quote : Char} {body : List Char} (h : Quoted quote body)
    (hq : quote ≠ '\\') (rest : List Char) :
    splitComment (.literal quote) (body ++ quote :: rest) =
      (splitComment .code rest).map (behind (body ++ [quote])) := by
  induction h with
  | nil =>
    simp only [List.nil_append, splitComment, hq, if_false, if_true]
    rfl
  | plain hc hb _ ih =>
    simp only [List.cons_append, splitComment, hc, hb, if_false, ih, Option.map_map]
    rfl
  | escape c _ ih =>
    simp only [List.cons_append, splitComment, if_true, ih, Option.map_map]
    rfl

/-- What comes after the end of a line does not move the comment that was found in it. -/
lemma splitComment_append {state : State} {xs : List Char} {cut : List Char × List Char}
    (h : splitComment state xs = some cut) (ys : List Char) :
    splitComment state (xs ++ ys) = some (cut.1, cut.2 ++ ys) := by
  induction xs generalizing state cut with
  | nil => cases state <;> simp [splitComment] at h
  | cons c cs ih =>
    cases state with
    | code =>
      by_cases hc : c = '#'
      · subst hc
        obtain rfl := Option.some.inj h
        rfl
      · simp only [splitComment, hc, if_false] at h
        obtain ⟨inner, hinner, rfl⟩ := Option.map_eq_some_iff.mp h
        simp only [List.cons_append, splitComment, hc, if_false, ih hinner, Option.map_some]
    | literal quote =>
      obtain ⟨inner, hinner, rfl⟩ := Option.map_eq_some_iff.mp h
      simp only [List.cons_append, splitComment, ih hinner, Option.map_some]
    | escaped quote =>
      obtain ⟨inner, hinner, rfl⟩ := Option.map_eq_some_iff.mp h
      simp only [List.cons_append, splitComment, ih hinner, Option.map_some]

end Suppression

/-! ### Reading a source as code, literals and comments -/

/-- A stretch of a source text. A literal in triple quotes on one line that holds no quote of its
kind reads as three literals, of which two are empty. -/
inductive Token where
  | code (c : Char)
  | literal (quote : Char) (body : List Char)
  | long (written : List Char)
  | comment (rest : List Char)

namespace Token

def text : Token → List Char
  | code c => [c]
  | literal quote body => quote :: body ++ [quote]
  | long written => written
  | comment rest => '#' :: rest

def textOf (tokens : List Token) : List Char :=
  tokens.flatMap text

/-- A token that can be read without regard to other lines. -/
def Plain : Token → Prop
  | code c => c ≠ '#' ∧ c ≠ '\'' ∧ c ≠ '"'
  | literal quote body => (quote = '\'' ∨ quote = '"') ∧ Quoted quote body
  | long _ => False
  | comment _ => True

def isComment : Token → Bool
  | comment _ => true
  | _ => false

@[simp] lemma textOf_nil : textOf [] = [] := rfl

@[simp] lemma textOf_cons (t : Token) (later : List Token) :
    textOf (t :: later) = t.text ++ textOf later := List.flatMap_cons

@[simp] lemma textOf_append (xs ys : List Token) : textOf (xs ++ ys) = textOf xs ++ textOf ys :=
  List.flatMap_append

end Token

namespace Suppression

open Token

lemma splitComment_token {t : Token} (ht : t.Plain) (hc : t.isComment = false) (rest : List Char) :
    splitComment .code (t.text ++ rest) = (splitComment .code rest).map (behind t.text) := by
  cases t with
  | code c => exact splitComment_code ht.1 ht.2.1 ht.2.2 rest
  | literal quote body =>
    have hq : quote ≠ '\\' ∧ quote ≠ '#' := by
      rcases ht.1 with rfl | rfl <;> decide
    have hopen : splitComment .code (quote :: (body ++ quote :: rest)) =
        (splitComment (.literal quote) (body ++ quote :: rest)).map (behind [quote]) := by
      simp only [splitComment, hq.2, ht.1, if_false, if_true]
      rfl
    simp only [text, List.cons_append, List.append_assoc, List.nil_append, hopen,
      splitComment_literal ht.2 hq.1, Option.map_map]
    rfl
  | long written => exact ht.elim
  | comment rest => simp [isComment] at hc

/-- The comment that is found in plain tokens is the first of their comments. -/
theorem exists_comment_of_splitComment {own : List Token} (hown : ∀ t ∈ own, t.Plain)
    {cut : List Char × List Char} (h : splitComment .code (textOf own) = some cut) :
    ∃ front rest back, own = front ++ comment rest :: back ∧ cut.1 = textOf front := by
  induction own generalizing cut with
  | nil => simp [splitComment] at h
  | cons t later ih =>
    by_cases hc : t.isComment
    · cases t with
      | comment rest =>
        have hcut : cut.1 = [] := by
          simp only [textOf_cons, text, List.cons_append, splitComment, if_true,
            Option.some.injEq] at h
          rw [← h]
        exact ⟨[], rest, later, rfl, hcut⟩
      | code c => simp [isComment] at hc
      | literal quote body => simp [isComment] at hc
      | long written => simp [isComment] at hc
    · rw [textOf_cons, splitComment_token (hown t (by simp)) (by simpa using hc)] at h
      obtain ⟨inner, hinner, rfl⟩ := Option.map_eq_some_iff.mp h
      obtain ⟨front, rest, back, hlater, hfront⟩ := ih (fun u hu => hown u (by simp [hu])) hinner
      refine ⟨t :: front, rest, back, by rw [hlater, List.cons_append], ?_⟩
      rw [textOf_cons, ← hfront]
      rfl

lemma splitComment_of_keysOfLine {line : List Char} (h : keysOfLine line ≠ []) :
    ∃ cut, splitComment .code line = some cut := by
  cases hcut : splitComment .code line with
  | none => simp [keysOfLine, hcut] at h
  | some cut => exact ⟨cut, rfl⟩

end Suppression

namespace Token

/-- A range that lies in tokens of which none is a comment. -/
def Within (tokens : List Token) (span : Span) : Prop :=
  ∃ before own after, tokens = before ++ own ++ after ∧ (∀ t ∈ own, t.isComment = false) ∧
    Text.byteLength (textOf before) ≤ span.start ∧
    span.stop ≤ Text.byteLength (textOf (before ++ own))

/-- A line that consists of plain tokens, `index` lines being before it. -/
def PlainLine (tokens : List Token) (index : Nat) : Prop :=
  ∃ before own after, tokens = before ++ own ++ after ∧ Text.EndsLine (textOf before) ∧
    (textOf before).count '\n' = index ∧ (∀ t ∈ own, t.Plain) ∧ '\n' ∉ textOf own ∧
    (after = [] ∨ ∃ later, after = code '\n' :: later)

lemma Within.not_mem {tokens front back : List Token} {rest : List Char} {span : Span}
    (hw : Within tokens span) (h : tokens = front ++ comment rest :: back) :
    ¬ (span.start ≤ Text.byteLength (textOf front) ∧
      Text.byteLength (textOf front) < span.stop) := by
  obtain ⟨before, own, after, hsplit, hown, hstart, hstop⟩ := hw
  rintro ⟨hlow, hhigh⟩
  have hhash : 0 < Text.byteLength (comment rest).text :=
    Nat.lt_of_lt_of_le ('#'.utf8Size_pos) (Nat.le_add_right _ _)
  have hcomment : comment rest ∉ own := fun hm => by simpa [isComment] using hown _ hm
  have hboth : before ++ (own ++ after) = front ++ comment rest :: back := by
    rw [← List.append_assoc, ← hsplit, h]
  rw [textOf_append, Text.byteLength_append] at hstop
  rcases List.append_eq_append_iff.mp hboth with ⟨middle, hfront, hrest⟩ | ⟨middle, hbefore, hrest⟩
  · -- the comment comes after the start of the range, so it stands in it or after it
    rw [hfront, textOf_append, Text.byteLength_append] at hhigh
    rcases List.append_eq_append_iff.mp hrest with ⟨gap, hgap, -⟩ | ⟨gap, hgap, hback⟩
    · rw [hgap, textOf_append, Text.byteLength_append] at hhigh
      omega
    · cases gap with
      | nil =>
        rw [hgap, List.append_nil] at hstop
        omega
      | cons t gap =>
        obtain rfl : comment rest = t := (List.cons.inj hback).1
        exact hcomment (by simp [hgap])
  · -- the comment starts the range or stands before it
    cases middle with
    | nil =>
      rw [List.append_nil] at hbefore
      rw [hbefore] at hstop
      cases own with
      | nil =>
        simp only [textOf_nil, Text.byteLength] at hstop
        omega
      | cons t own =>
        obtain rfl : comment rest = t := (List.cons.inj hrest).1
        exact hcomment (by simp)
    | cons t middle =>
      obtain rfl : comment rest = t := (List.cons.inj hrest).1
      rw [hbefore, textOf_append, textOf_cons, Text.byteLength_append, Text.byteLength_append]
        at hstart
      omega

end Token

/-! ### The directive that is obeyed -/

/-- The range of a part that is a string literal or a formatted string. -/
def Part.stringSpan? : Part → Option Span
  | expr (.constant span (.str _) _) => some span
  | expr (.joinedStr span _) => some span
  | _ => none

/-- A string literal or formatted string with this range occurs in a part. -/
def Part.HasString (p : Part) (span : Span) : Prop :=
  ∃ o, p.Holds o ∧ o.part.stringSpan? = some span

lemma Part.hasString_iff {p : Part} {span : Span} :
    p.HasString span ↔ p.stringSpan? = some span ∨ ∃ c ∈ p.children, c.2.HasString span := by
  constructor
  · rintro ⟨o, ho, hspan⟩
    cases ho with
    | self => exact .inl hspan
    | child hc hq => exact .inr ⟨_, List.mem_of_getElem? hc, _, hq, hspan⟩
  · rintro (hspan | ⟨⟨role, c⟩, hc, o, ho, hspan⟩)
    · exact ⟨_, .self p, hspan⟩
    · obtain ⟨i, hi⟩ := List.mem_iff_getElem?.mp hc
      exact ⟨_, .child hi ho, hspan⟩

lemma Token.PlainLine.exists_physicalLine {tokens : List Token} {index : Nat}
    (h : PlainLine tokens index) {line : List Char}
    (hline : (Text.lines (textOf tokens))[index]? = some line) :
    ∃ before own after ending later, tokens = before ++ own ++ after ∧ (∀ t ∈ own, t.Plain) ∧
      Text.PhysicalLine (textOf tokens) index (textOf before) line ending later ∧
      ∃ dropped, textOf own = line ++ dropped := by
  obtain ⟨before, own, after, htokens, hbefore, rfl, hplain, hunbroken, hafter⟩ := h
  have htext : textOf tokens = textOf before ++ (textOf own ++ textOf after) := by
    rw [htokens, textOf_append, textOf_append, List.append_assoc]
  suffices hlines : ∃ ending later,
      Text.PhysicalLine (textOf own ++ textOf after) 0 [] line ending later ∧
        ∃ dropped, textOf own = line ++ dropped by
    obtain ⟨ending, later, hphysical, hdropped⟩ := hlines
    have hwhole := hphysical.behind hbefore
    rw [List.append_nil, Nat.add_zero, ← htext] at hwhole
    exact ⟨before, own, after, ending, later, htokens, hplain, hwhole, hdropped⟩
  rw [htext, Text.lines_append hbefore, ← Text.length_lines hbefore,
    List.getElem?_append_right (Nat.le_refl _), Nat.sub_self] at hline
  rcases hafter with rfl | ⟨later, rfl⟩
  · rw [textOf_nil, List.append_nil] at hline ⊢
    rw [Text.lines_of_no_newline hunbroken] at hline
    by_cases hempty : textOf own = []
    · simp [hempty] at hline
    · obtain rfl : textOf own = line := by simpa [hempty] using hline
      exact ⟨[], [], ⟨by simp, rfl, .inl rfl, hunbroken, .inr (.inr ⟨rfl, rfl, hempty⟩)⟩, [],
        (List.append_nil _).symm⟩
  · have hnewline : textOf (code '\n' :: later) = '\n' :: textOf later := rfl
    rw [hnewline] at hline ⊢
    rw [Text.lines_append_newline hunbroken, List.getElem?_cons_zero, Option.some.injEq] at hline
    obtain ⟨ending, hphysical, -⟩ := Text.PhysicalLine.first hunbroken (textOf later)
    rw [hline] at hphysical
    refine ⟨ending, textOf later, hphysical, ?_⟩
    rw [← hline]
    exact Text.dropReturn_prefix (textOf own)

lemma covers_of_dropped {linter : Linter} {parse : Parser} {path : Path} {source : String}
    {body : List Stmt} {found : List Diagnostic} {d : Diagnostic}
    (hparse : parse (Linter.stripBom source).1 = some body)
    (hlint : linter.lintSource parse path source = .ok found)
    (hreported : d ∈ (walkModule linter.config
      (.ofSource path (Linter.stripBom source).1 (Linter.stripBom source).2 linter.env) body
      (linter.rules.map Rule.activate)).2) (hdropped : d ∉ found) :
    Suppression.covers (Suppression.keysAt (Linter.stripBom source).1 d.line) d = true := by
  rw [linter.lintSource_of_parse path hparse] at hlint
  obtain rfl := Except.ok.inj hlint
  rw [List.mem_mergeSort, List.mem_filter] at hdropped
  simpa [hreported] using hdropped

/-- The `#` of the directive that switches off a diagnostic stands outside all string literals of the
module, if the line of the diagnostic can be read without regard to other lines. -/
theorem directive_outside_literals {linter : Linter} {parse : Parser} {path : Path}
    {source : String} {body : List Stmt} {found : List Diagnostic} {d : Diagnostic}
    {tokens : List Token} {index : Nat}
    (hparse : parse (Linter.stripBom source).1 = some body)
    (hlint : linter.lintSource parse path source = .ok found)
    (hreported : d ∈ (walkModule linter.config
      (.ofSource path (Linter.stripBom source).1 (Linter.stripBom source).2 linter.env) body
      (linter.rules.map Rule.activate)).2) (hdropped : d ∉ found)
    (htokens : Token.textOf tokens = (Linter.stripBom source).1.toList)
    (hstrings : ∀ span, (Part.module body).HasString span → Token.Within tokens span)
    (hindex : d.line = index + 1) (hplain : Token.PlainLine tokens index) :
    ∃ before line ending after hash,
      Text.PhysicalLine (Linter.stripBom source).1.toList index before line ending after ∧
      Suppression.commentStart line = some hash ∧
      ∀ span, (Part.module body).HasString span →
        ¬ (span.start ≤ Text.byteLength before + hash ∧
          Text.byteLength before + hash < span.stop) := by
  have hcovers := covers_of_dropped hparse hlint hreported hdropped
  rw [hindex] at hcovers
  cases hlisted : (Text.lines (Linter.stripBom source).1.toList)[index]? with
  | none => simp [Suppression.keysAt, hlisted, Suppression.covers] at hcovers
  | some line =>
    rw [Suppression.keysAt_succ hlisted] at hcovers
    have hkeys : Suppression.keysOfLine line ≠ [] := by
      intro hnil
      simp [hnil, Suppression.covers] at hcovers
    obtain ⟨cut, hcut⟩ := Suppression.splitComment_of_keysOfLine hkeys
    rw [← htokens] at hlisted ⊢
    obtain ⟨before, own, after, ending, later, hsplit, hown, hphysical, dropped, hdrop⟩ :=
      hplain.exists_physicalLine hlisted
    have hwhole := Suppression.splitComment_append hcut dropped
    rw [← hdrop] at hwhole
    obtain ⟨front, rest, back, hfront, hstart⟩ :=
      Suppression.exists_comment_of_splitComment hown hwhole
    refine ⟨Token.textOf before, line, ending, later, Text.byteLength cut.1, hphysical, ?_, ?_⟩
    · rw [Suppression.commentStart, hcut]
      rfl
    · intro span hspan
      have hhash : tokens = (before ++ front) ++ Token.comment rest :: (back ++ after) := by
        rw [hsplit, hfront]
        simp
      have hoffset : Text.byteLength (Token.textOf before) + Text.byteLength cut.1 =
          Text.byteLength (Token.textOf (before ++ front)) := by
        rw [Token.textOf_append, Text.byteLength_append]
        exact congrArg _ (congrArg _ hstart)
      rw [hoffset]
      exact (hstrings span hspan).not_mem hhash

/-- A linter with the rule about open files, in an empty directory. -/
def Linter.ofOpenFiles : Linter :=
  ⟨.standard, (FileContext.alone ⟨""⟩ "").env, [OpenFiles.rule]⟩

/-- A literal that holds a `#` in front of the comment that is found. -/
theorem directive_outside_hash_literal :
    let source := "open('#')  # pylint: disable=all\n"
    let call := Expr.call ⟨0, 9⟩ (.name ⟨0, 4⟩ "open") [.constant ⟨5, 8⟩ (.str "#") none] []
    let body := [Stmt.expr ⟨0, 9⟩ call]
    let parse : Parser := fun _ => some body
    let path : Path := ⟨"minion.py"⟩
    let reported := (walkModule .standard (FileContext.alone path source) body
      [OpenFiles.rule.activate]).2
    reported.map (fun d => (d.line, d.code)) = [(1, "W8470")] ∧
    Linter.ofOpenFiles.lintSource parse path source = .ok [] ∧
    ∃ before line ending after hash,
      Text.PhysicalLine source.toList 0 before line ending after ∧
      Suppression.commentStart line = some hash ∧
      ∀ span, (Part.module body).HasString span →
        ¬ (span.start ≤ Text.byteLength before + hash ∧
          Text.byteLength before + hash < span.stop) := by
  intro source call body parse path reported
  have hstrip : Linter.stripBom source = (source, false) := by decide
  have hparse : parse (Linter.stripBom source).1 = some body := rfl
  have hcodes : reported.map (fun d => (d.line, d.code)) = [(1, "W8470")] := by decide
  obtain ⟨d, hreported, hd⟩ : ∃ d ∈ reported, (d.line, d.code) = (1, "W8470") :=
    List.mem_map.mp (hcodes ▸ List.mem_singleton_self _)
  have hlint : Linter.ofOpenFiles.lintSource parse path source = .ok [] := by
    have hnone : (reported.filter fun d =>
        !Suppression.covers (Suppression.keysAt source d.line) d) = [] := by decide +kernel
    rw [Linter.lintSource_of_parse _ path hparse, hstrip]
    exact congrArg Except.ok ((congrArg (List.mergeSort · Linter.beforeInFile) hnone).trans
      List.mergeSort_nil)
  let front := "open(".toList.map Token.code
  let back := ")  ".toList.map Token.code ++ [.comment " pylint: disable=all".toList]
  let own := front ++ .literal '\'' ['#'] :: back
  let tokens := own ++ [.code '\n']
  have hplain : Token.PlainLine tokens 0 := by
    refine ⟨[], own, [.code '\n'], by simp [tokens], .inl rfl, rfl, ?_, by decide, .inr ⟨[], rfl⟩⟩
    have hquoted : Quoted '\'' ['#'] := .plain (by decide) (by decide) .nil
    simp [own, front, back, Token.Plain, hquoted]
  have hstrings : ∀ span, (Part.module body).HasString span → Token.Within tokens span := by
    intro span hspan
    have hmodule : (Part.stmt (.expr ⟨0, 9⟩ call)).HasString span := by
      simpa [Part.stringSpan?, Part.children, Part.ahead, Part.inside, blockParts, body] using
        Part.hasString_iff.mp hspan
    have hcall : (Part.expr call).HasString span := by
      simpa [Part.stringSpan?, Part.children, Part.ahead, Part.inside, Stmt.inside, exprParts]
        using Part.hasString_iff.mp hmodule
    have hparts : (Part.expr (.name ⟨0, 4⟩ "open")).HasString span ∨
        (Part.expr (.constant ⟨5, 8⟩ (.str "#") none)).HasString span := by
      simpa [Part.stringSpan?, Part.children, Part.ahead, Part.inside, exprParts, Expr.operands,
        call] using Part.hasString_iff.mp hcall
    obtain rfl : ⟨5, 8⟩ = span := by
      rcases hparts with h | h <;>
        simpa [Part.stringSpan?, Part.children, Part.ahead, Part.inside, exprParts, Expr.operands]
          using Part.hasString_iff.mp h
    refine ⟨front, [.literal '\'' ['#']], back ++ [.code '\n'], by simp [tokens, own], ?_,
      by decide, by decide⟩
    simp [Token.isComment]
  have htokens : Token.textOf tokens = (Linter.stripBom source).1.toList := by decide
  have hwalk : d ∈ (walkModule Linter.ofOpenFiles.config (.ofSource path (Linter.stripBom source).1
      (Linter.stripBom source).2 Linter.ofOpenFiles.env) body
      (Linter.ofOpenFiles.rules.map Rule.activate)).2 := by
    rw [hstrip]
    exact hreported
  have hline := directive_outside_literals hparse hlint hwalk List.not_mem_nil htokens hstrings
    (Prod.mk.inj hd).1 hplain
  rw [hstrip] at hline
  exact ⟨hcodes, hlint, hline⟩

/-- In a literal over two lines a directive is obeyed that is text of the literal. -/
theorem directive_inside_long_literal :
    let source := "x = \"\"\"\n# pylint: disable=all \"\"\" + open(p)\n"
    let literal := Expr.constant ⟨4, 33⟩ (.str "\n# pylint: disable=all ") none
    let value := Expr.binOp ⟨4, 43⟩ literal .add
      (.call ⟨36, 43⟩ (.name ⟨36, 40⟩ "open") [.name ⟨41, 42⟩ "p"] [])
    let body := [Stmt.assign ⟨0, 43⟩ [.name ⟨0, 1⟩ "x"] value]
    let parse : Parser := fun _ => some body
    let path : Path := ⟨"minion.py"⟩
    let reported := (walkModule .standard (FileContext.alone path source) body
      [OpenFiles.rule.activate]).2
    reported.map (fun d => (d.line, d.code)) = [(2, "W8470")] ∧
    Linter.ofOpenFiles.lintSource parse path source = .ok [] ∧
    ∃ before line ending after hash span,
      Text.PhysicalLine source.toList 1 before line ending after ∧
      Suppression.commentStart line = some hash ∧ (Part.module body).HasString span ∧
      span.start ≤ Text.byteLength before + hash ∧
      Text.byteLength before + hash < span.stop := by
  intro source literal value body parse path reported
  have hstrip : Linter.stripBom source = (source, false) := by decide
  have hparse : parse (Linter.stripBom source).1 = some body := rfl
  have hlint : Linter.ofOpenFiles.lintSource parse path source = .ok [] := by
    have hnone : (reported.filter fun d =>
        !Suppression.covers (Suppression.keysAt source d.line) d) = [] := by decide +kernel
    rw [Linter.lintSource_of_parse _ path hparse, hstrip]
    exact congrArg Except.ok ((congrArg (List.mergeSort · Linter.beforeInFile) hnone).trans
      List.mergeSort_nil)
  have hstring : (Part.module body).HasString ⟨4, 33⟩ :=
    ⟨_, .child (i := 0) rfl (.child (i := 1) rfl (.child (i := 0) rfl (.self (.expr literal)))), rfl⟩
  have hphysical : Text.PhysicalLine source.toList 1 "x = \"\"\"\n".toList
      "# pylint: disable=all \"\"\" + open(p)".toList ['\n'] [] :=
    ⟨by decide, by decide, .inr (by decide), by decide, .inl ⟨rfl, by decide⟩⟩
  exact ⟨by decide, hlint, _, _, _, _, 0, ⟨4, 33⟩, hphysical, by decide, hstring, by decide,
    by decide⟩

end SaltConventions
