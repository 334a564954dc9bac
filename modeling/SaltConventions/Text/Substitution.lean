/-!
# Substitution slots

Format strings for the `%` operator are ordinary characters, `%%`, and conversions: a key in
parentheses, flags, a width, a precision, a length and a type, all but the type optional. A scan
carries one state from character to character.
-/

namespace SaltConventions.Text.Substitution

/-- Where a scan stands: in ordinary text, after `%`, inside a key with so many open parentheses
inside it, or after a key, flags, a width, a precision or a length. -/
inductive State where
  | text
  | percent
  | key (depth : Nat)
  | flags
  | width
  | precision
  | length
  deriving DecidableEq, Repr, Inhabited

def isWidth (c : Char) : Bool :=
  c.isDigit || c == '*'

def isFlag (c : Char) : Bool :=
  "#0- +".toList.contains c

def isLength (c : Char) : Bool :=
  "hlL".toList.contains c

def isType (c : Char) : Bool :=
  "diouxXeEfFgGcrsa".toList.contains c

/-- The end of a conversion: a length or a type. -/
def finish (c : Char) : Option State :=
  if isLength c then some .length else if isType c then some .text else none

/-- The state after one more character; there is none if no format string goes on like this. -/
def step : State → Char → Option State
  | .text, c => some (if c = '%' then .percent else .text)
  | .percent, c =>
    if c = '%' then some .text
    else if c = '(' then some (.key 0)
    else if isFlag c then some .flags
    else if isWidth c then some .width
    else if c = '.' then some .precision
    else finish c
  | .key depth, c =>
    if c = '(' then some (.key (depth + 1))
    else if c = ')' then
      match depth with
      | 0 => some .flags
      | depth + 1 => some (.key depth)
    else some (.key depth)
  | .flags, c =>
    if isFlag c then some .flags
    else if isWidth c then some .width
    else if c = '.' then some .precision
    else finish c
  | .width, c =>
    if isWidth c then some .width else if c = '.' then some .precision else finish c
  | .precision, c => if isWidth c then some .precision else finish c
  | .length, c => finish c

/-- Whether a conversion ends with this step: it leads back to ordinary text from inside one, and
not by `%%`. -/
def endsConversion (before : State) (c : Char) (after : State) : Bool :=
  after == .text && before != .text && !(before == .percent && c == '%')

/-- Scans a text; `found` tells whether there was a conversion before. -/
def scan : State → Bool → List Char → Option Bool
  | state, found, [] => if state = .text then some found else none
  | state, found, c :: cs =>
    match step state c with
    | none => none
    | some next => scan next (found || endsConversion state c next) cs

/-- Whether a format string has conversions; there is no answer for a text that is no format string.
-/
def hasSlots (text : String) : Option Bool :=
  scan .text false text.toList

end SaltConventions.Text.Substitution
