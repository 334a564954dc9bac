import SaltConventions.Json

/-!
# Writing JSON

Two layouts: `compress` on one line without blanks, `pretty` with members and items on lines of
their own, two blanks deeper at each level. In strings only the quote, the backslash and control
characters below U+0020 are escaped.
-/

namespace SaltConventions.Json

/-- Two hexadecimal digits of a number below 256. -/
def hexPair (n : Nat) : List Char :=
  [Nat.digitChar (n / 16), Nat.digitChar (n % 16)]

/-- One character inside a JSON string. -/
def escapeChar (c : Char) : List Char :=
  if c = '"' then ['\\', '"']
  else if c = '\\' then ['\\', '\\']
  else if c.toNat = 8 then ['\\', 'b']
  else if c = '\t' then ['\\', 't']
  else if c = '\n' then ['\\', 'n']
  else if c.toNat = 12 then ['\\', 'f']
  else if c = '\r' then ['\\', 'r']
  else if c.toNat < 32 then ['\\', 'u', '0', '0'] ++ hexPair c.toNat
  else [c]

def quote (s : String) : String :=
  String.ofList (['"'] ++ s.toList.flatMap escapeChar ++ ['"'])

mutual

def compress : Json → String
  | null => "null"
  | bool true => "true"
  | bool false => "false"
  | number digits => digits
  | string text => quote text
  | array items => "[" ++ ",".intercalate (compressItems items) ++ "]"
  | object members => "\x7b" ++ ",".intercalate (compressMembers members) ++ "\x7d"

def compressItems : List Json → List String
  | [] => []
  | item :: later => compress item :: compressItems later

def compressMembers : List (String × Json) → List String
  | [] => []
  | (name, value) :: later => (quote name ++ ":" ++ compress value) :: compressMembers later

end

def newline (level : Nat) : String :=
  String.ofList ('\n' :: List.replicate (2 * level) ' ')

/-- Parts on lines of their own between two brackets, or just the brackets if there are none. -/
def block (left right : String) (level : Nat) (parts : List String) : String :=
  if parts.isEmpty then left ++ right
  else
    left ++ newline (level + 1) ++ ("," ++ newline (level + 1)).intercalate parts
      ++ newline level ++ right

mutual

/-- A value over several lines, its first line at the given level. -/
def prettyAt (level : Nat) : Json → String
  | null => "null"
  | bool true => "true"
  | bool false => "false"
  | number digits => digits
  | string text => quote text
  | array items => block "[" "]" level (prettyItems (level + 1) items)
  | object members => block "\x7b" "\x7d" level (prettyMembers (level + 1) members)

def prettyItems (level : Nat) : List Json → List String
  | [] => []
  | item :: later => prettyAt level item :: prettyItems level later

def prettyMembers (level : Nat) : List (String × Json) → List String
  | [] => []
  | (name, value) :: later =>
    (quote name ++ ": " ++ prettyAt level value) :: prettyMembers level later

end

def pretty (value : Json) : String :=
  prettyAt 0 value

end SaltConventions.Json
