/-!
# Line numbers of byte offsets

A `LineIndex` holds the byte offset at which each line starts and finds the line of an offset by
halving the table.
-/

namespace SaltConventions.Text

/-- Offsets just after the newlines of a text that itself starts at byte `offset`. -/
def lineStartsFrom (offset : Nat) : List Char → List Nat
  | [] => []
  | c :: cs =>
    let next := offset + c.utf8Size
    if c = '\n' then next :: lineStartsFrom next cs else lineStartsFrom next cs

/-- Where the lines of a source text start, as byte offsets in increasing order. -/
structure LineIndex where
  starts : Array Nat

namespace LineIndex

/-- The line starts of a source: the first line starts at 0, every other one after a newline. -/
def ofSource (source : String) : LineIndex :=
  ⟨(0 :: lineStartsFrom 0 source.toList).toArray⟩

/-- How many of the line starts are at most `offset`, when all before `low` are and none from `high`
on is. Each round halves the gap, so `rounds` need never exceed it. -/
def search (starts : Array Nat) (offset : Nat) : (rounds low high : Nat) → Nat
  | 0, low, _ => low
  | rounds + 1, low, high =>
    if low < high then
      let middle := (low + high) / 2
      if starts.getD middle 0 ≤ offset then search starts offset rounds (middle + 1) high
      else search starts offset rounds low middle
    else low

/-- The line, counted from 1, that holds a byte offset. Offsets past the end belong to the last
line. -/
def lineAt (index : LineIndex) (offset : Nat) : Nat :=
  search index.starts offset index.starts.size 0 index.starts.size

end LineIndex

end SaltConventions.Text
