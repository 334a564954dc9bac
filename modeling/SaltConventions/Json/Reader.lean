import SaltConventions.Json
import SaltConventions.Text.Hex

/-!
# Reading JSON

A strict reader: one value with blanks around it. Numbers keep their digits, and escaped surrogate
pairs in strings denote one character.
-/

namespace SaltConventions.Json

/-- The characters that may stand between tokens. -/
def isSpace (c : Char) : Bool :=
  c == ' ' || c == '\t' || c == '\n' || c == '\r'

/-- The value of four hexadecimal digits. -/
def hexUnit? (a b c d : Char) : Option Nat := do
  let high := (← Text.hexValue? a) * 16 + (← Text.hexValue? b)
  let low := (← Text.hexValue? c) * 16 + (← Text.hexValue? d)
  return high * 256 + low

/-- The character for a letter after a backslash. -/
def simpleEscape? (c : Char) : Option Char :=
  if c = '"' ∨ c = '\\' ∨ c = '/' then some c
  else if c = 'b' then some (Char.ofNat 8)
  else if c = 'f' then some (Char.ofNat 12)
  else if c = 'n' then some '\n'
  else if c = 'r' then some '\r'
  else if c = 't' then some '\t'
  else none

/-- Reads a string after its opening quote; `done` holds the characters read so far, last first. -/
def readString (done : List Char) : List Char → Option (String × List Char)
  | [] => none
  | '"' :: rest => some (String.ofList done.reverse, rest)
  | '\\' :: 'u' :: a :: b :: c :: d :: rest =>
    match hexUnit? a b c d with
    | none => none
    | some unit =>
      if 0xD800 ≤ unit ∧ unit < 0xDC00 then
        match rest with
        | '\\' :: 'u' :: e :: f :: g :: h :: more =>
          match hexUnit? e f g h with
          | none => none
          | some low =>
            if 0xDC00 ≤ low ∧ low < 0xE000 then
              let meant := Char.ofNat (0x10000 + (unit - 0xD800) * 0x400 + (low - 0xDC00))
              readString (meant :: done) more
            else none
        | _ => none
      else if 0xDC00 ≤ unit ∧ unit < 0xE000 then none
      else readString (Char.ofNat unit :: done) rest
  | '\\' :: c :: rest =>
    match simpleEscape? c with
    | some meant => readString (meant :: done) rest
    | none => none
  | c :: rest => if c.toNat < 32 then none else readString (c :: done) rest

/-- The digits at the start of a text and what follows them. -/
def spanDigits (cs : List Char) : List Char × List Char :=
  cs.span Char.isDigit

def readFraction : List Char → Option (List Char × List Char)
  | '.' :: rest =>
    match spanDigits rest with
    | ([], _) => none
    | (digits, later) => some ('.' :: digits, later)
  | rest => some ([], rest)

def readExponent : List Char → Option (List Char × List Char)
  | [] => some ([], [])
  | e :: rest =>
    if e = 'e' ∨ e = 'E' then
      let (sign, after) :=
        match rest with
        | '+' :: more => (['+'], more)
        | '-' :: more => (['-'], more)
        | more => ([], more)
      match spanDigits after with
      | ([], _) => none
      | (digits, later) => some (e :: sign ++ digits, later)
    else some ([], e :: rest)

def readNumber (cs : List Char) : Option (String × List Char) := do
  let (sign, rest) :=
    match cs with
    | '-' :: more => (['-'], more)
    | more => ([], more)
  let (whole, rest) := spanDigits rest
  if whole.isEmpty || (whole.length > 1 && whole.head? == some '0') then none
  else
    let (fraction, rest) ← readFraction rest
    let (exponent, rest) ← readExponent rest
    return (String.ofList (sign ++ whole ++ fraction ++ exponent), rest)

def skip (cs : List Char) : List Char :=
  cs.dropWhile isSpace

/-- What is still to be read of a container: items or members, after the ones `done` already. -/
inductive Open where
  | array (done : List Json)
  | object (done : List (String × Json)) (name : String)

/-- Puts a value into the innermost open container. -/
def Open.add (value : Json) : Open → Open
  | .array done => .array (value :: done)
  | .object done name => .object ((name, value) :: done) name

def readName (cs : List Char) : Option (String × List Char) :=
  match skip cs with
  | '"' :: rest =>
    match readString [] rest with
    | some (name, later) =>
      match skip later with
      | ':' :: more => some (name, more)
      | _ => none
    | none => none
  | _ => none

/-- Reads a word with a fixed meaning. -/
def readWord (cs : List Char) : Option (Json × List Char) :=
  match cs with
  | 'n' :: 'u' :: 'l' :: 'l' :: rest => some (.null, rest)
  | 't' :: 'r' :: 'u' :: 'e' :: rest => some (.bool true, rest)
  | 'f' :: 'a' :: 'l' :: 's' :: 'e' :: rest => some (.bool false, rest)
  | _ => none

/-- Where the reader stands: in front of a value, or after one. -/
inductive Place where
  | before
  | after (value : Json)

/-- Reads values inside the open containers, innermost first, one step at a time. -/
def readSteps : (steps : Nat) → List Open → Place → List Char → Option (Json × List Char)
  | 0, _, _, _ => none
  | steps + 1, outer, .before, cs =>
    match skip cs with
    | [] => none
    | '"' :: rest =>
      match readString [] rest with
      | some (text, later) => readSteps steps outer (.after (.string text)) later
      | none => none
    | '[' :: rest =>
      match skip rest with
      | ']' :: later => readSteps steps outer (.after (.array [])) later
      | later => readSteps steps (.array [] :: outer) .before later
    | '{' :: rest =>
      match skip rest with
      | '}' :: later => readSteps steps outer (.after (.object [])) later
      | later =>
        match readName later with
        | some (name, more) => readSteps steps (.object [] name :: outer) .before more
        | none => none
    | c :: rest =>
      if c = '-' ∨ c.isDigit then
        match readNumber (c :: rest) with
        | some (digits, later) => readSteps steps outer (.after (.number digits)) later
        | none => none
      else
        match readWord (c :: rest) with
        | some (value, later) => readSteps steps outer (.after value) later
        | none => none
  | _ + 1, [], .after value, cs => some (value, cs)
  | steps + 1, container :: outer, .after value, cs =>
    match container.add value, skip cs with
    | .array done, ',' :: rest => readSteps steps (.array done :: outer) .before rest
    | .array done, ']' :: rest => readSteps steps outer (.after (.array done.reverse)) rest
    | .object done _, ',' :: rest =>
      match readName rest with
      | some (name, more) => readSteps steps (.object done name :: outer) .before more
      | none => none
    | .object done _, '}' :: rest => readSteps steps outer (.after (.object done.reverse)) rest
    | _, _ => none

/-- Reads one JSON value from a text that holds nothing else. Every step but the last takes at least
one character, so there are at most one more steps than characters. -/
def parse? (text : String) : Option Json :=
  let cs := text.toList
  match readSteps (cs.length + 1) [] .before cs with
  | some (value, rest) => if (skip rest).isEmpty then some value else none
  | none => none

end SaltConventions.Json
