/-!
# JSON values

JSON values with numbers kept as they are written and object members kept in order.
-/

namespace SaltConventions

/-- A JSON value. -/
inductive Json where
  | null
  | bool (value : Bool)
  | number (digits : String)
  | string (text : String)
  | array (items : List Json)
  | object (members : List (String × Json))
  deriving Repr, Inhabited

namespace Json

def ofNat (n : Nat) : Json :=
  .number (String.ofList (Nat.toDigits 10 n))

def strings (texts : List String) : Json :=
  .array (texts.map .string)

/-- A text, or null if there is none. -/
def ofOption : Option String → Json
  | some text => .string text
  | none => .null

/-- The last member of an object with the given name. -/
def get? (name : String) : Json → Option Json
  | object members => (members.reverse.find? (·.1 == name)).map (·.2)
  | _ => none

def text? : Json → Option String
  | string text => some text
  | _ => none

def items? : Json → Option (List Json)
  | array items => some items
  | _ => none

/-- The number that decimal digits denote. -/
def digitsValue? (digits : List Char) : Option Nat :=
  if digits.isEmpty || !digits.all Char.isDigit then none
  else some (digits.foldl (fun n d => 10 * n + (d.toNat - '0'.toNat)) 0)

/-- The value of a number written with digits only, that is, without sign, fraction and exponent. -/
def nat? : Json → Option Nat
  | number digits => digitsValue? digits.toList
  | _ => none

end Json

end SaltConventions
