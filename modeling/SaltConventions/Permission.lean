import SaltConventions.Error
import SaltConventions.Text.Blank
import SaltConventions.Text.Pieces

/-!
# File permissions

Accepted permission bits are one mode such as `0644` or a range such as `0644-0755`, written in
octal. Around each mode blanks are allowed, inside them quotes, and then `0o`, zeros, and a plus
sign. Modes have 32 bits.
-/

namespace SaltConventions

/-- The permission bits that a file may have. -/
inductive Permission where
  | exact (mode : Nat)
  | range (low high : Nat)
  deriving DecidableEq, Repr, Inhabited

namespace Permission

/-- The least number that is no mode. -/
def modeLimit : Nat := Nat.pow 2 32

def octalDigit? (c : Char) : Option Nat :=
  if '0' ≤ c ∧ c ≤ '7' then some (c.toNat - '0'.toNat) else none

/-- The number that octal digits denote, `value` being denoted by those before. -/
def octalFrom (value : Nat) : List Char → Option Nat
  | [] => some value
  | c :: cs =>
    match octalDigit? c with
    | some digit => octalFrom (8 * value + digit) cs
    | none => none

/-- The number that a non-empty run of octal digits denotes. -/
def octalValue? (digits : List Char) : Option Nat :=
  if digits.isEmpty then none else octalFrom 0 digits

/-- The number that octal digits denote, with or without a plus sign before them, below 2^32. -/
def octalWord? (cs : List Char) : Option Nat :=
  let digits := (Text.stripPrefix? ['+'] cs).getD cs
  (octalValue? digits).filter (· < modeLimit)

/-- A mode without the blanks, quotes, `0o` and zeros before its digits. -/
def modeDigits (cs : List Char) : List Char :=
  let bare := Text.trim (fun c => c == '"' || c == '\'') (Text.trim Text.isBlank cs)
  ((Text.stripPrefix? ['0', 'o'] bare).getD bare).dropWhile (· == '0')

/-- Reads one mode; no digits at all mean 0. -/
def parseMode (text : String) : Except ConfigError Nat :=
  let digits := modeDigits text.toList
  if digits.isEmpty then .ok 0
  else
    match octalWord? digits with
    | some mode => .ok mode
    | none => .error (.permissionMode text)

def parse (text : String) : Except ConfigError Permission :=
  match Text.splitAt '-' text with
  | [mode] => (parseMode mode).map exact
  | [low, high] => do
    let low ← parseMode low
    let high ← parseMode high
    return range low high
  | _ => .error (.permissionRange text)

/-- Whether a file may have this mode. Both ends of a range are included. -/
def accepts : Permission → Nat → Bool
  | exact expected, mode => mode == expected
  | range low high, mode => low ≤ mode && mode ≤ high

def showMode (mode : Nat) : String :=
  "0o" ++ String.ofList (Nat.toDigits 8 mode)

def display : Permission → String
  | exact mode => showMode mode
  | range low high => ">= " ++ showMode low ++ " OR <= " ++ showMode high

end Permission

end SaltConventions
