import SaltConventions.Diagnostic
import SaltConventions.Text.Blank
import SaltConventions.Text.Bytes
import SaltConventions.Text.Pieces

/-!
# Inline suppressions

A comment `# pylint: disable=a,b` switches off the findings of its own line that have one of the
keys as code, symbol or rule; the key `all` switches off every one. The comment of a line is found
without regard to other lines: a quote opens a literal that the same quote closes, and a backslash
inside takes the next character along.
-/

namespace SaltConventions

namespace Suppression

/-- Where a scan of a line stands. -/
inductive State where
  | code
  | literal (quote : Char)
  | escaped (quote : Char)
  deriving DecidableEq, Repr, Inhabited

/-- Cuts a line in front of the `#` that opens its comment. -/
def splitComment : State → List Char → Option (List Char × List Char)
  | _, [] => none
  | .code, c :: cs =>
    if c = '#' then some ([], c :: cs)
    else
      let next := if c = '\'' ∨ c = '"' then State.literal c else State.code
      (splitComment next cs).map fun cut => (c :: cut.1, cut.2)
  | .literal quote, c :: cs =>
    let next :=
      if c = '\\' then State.escaped quote
      else if c = quote then State.code
      else State.literal quote
    (splitComment next cs).map fun cut => (c :: cut.1, cut.2)
  | .escaped quote, c :: cs =>
    (splitComment (State.literal quote) cs).map fun cut => (c :: cut.1, cut.2)

/-- The byte offset of the `#` that opens the comment of a line. -/
def commentStart (line : List Char) : Option Nat :=
  (splitComment .code line).map fun cut => Text.byteLength cut.1

/-- The text after `disable=` of the first directive in a comment. -/
def directive? (comment : List Char) : Option (List Char) :=
  (Text.after? "pylint:".toList comment).bind fun rest =>
    Text.stripPrefix? "disable=".toList (rest.dropWhile Text.isBlank)

/-- The keys in the text of a directive: its pieces between commas and blanks, up to one that starts
with `#`. -/
def keysOf (text : List Char) : List String :=
  let pieces := Text.pieces (fun c => c == ',' || Text.isBlank c) text
  let listed := pieces.takeWhile fun piece => piece.head? != some '#'
  (listed.filter (!·.isEmpty)).map String.ofList

def keysOfLine (line : List Char) : List String :=
  match (splitComment .code line).bind fun cut => directive? cut.2 with
  | some text => keysOf text
  | none => []

/-- Every line that switches something off, with its keys in order and without repetition. -/
def all (source : String) : List (Nat × List String) :=
  (Text.lines source.toList).zipIdx.filterMap fun (line, index) =>
    let keys := keysOfLine line
    if keys.isEmpty then none
    else some (index + 1, keys.eraseDups.mergeSort fun a b => !decide (b < a))

/-- Whether one of the keys names a finding. -/
def covers (keys : List String) (d : Diagnostic) : Bool :=
  keys.contains "all" || keys.contains d.code || keys.contains d.symbol || keys.contains d.rule

def apply (source : String) (found : List Diagnostic) : List Diagnostic :=
  let suppressed := all source
  found.filter fun d =>
    match suppressed.find? (·.1 == d.line) with
    | some (_, keys) => !covers keys d
    | none => true

end Suppression

end SaltConventions
