import SaltConventions.Text.Hex
import SaltConventions.Toml

/-!
# Reading TOML strings, numbers and dates

Every reader takes a text and gives a value with the rest of the text, or nothing.
-/

namespace SaltConventions.Toml

/-- Blanks within a line. -/
def isSpace (c : Char) : Bool :=
  c == ' ' || c == '\t'

/-- Characters that may stand as they are in comments and strings: no control characters but the
tab. -/
def isPlain (c : Char) : Bool :=
  c == '\t' || (0x20 ≤ c.toNat && c.toNat != 0x7F)

/-- The number that digits denote in a base. -/
def numberOf (base : Nat) (digits : List Char) : Nat :=
  digits.foldl (fun n d => base * n + (Text.hexValue? d).getD 0) 0

/-- The character whose code point is given by hexadecimal digits. -/
def charOfHex? (digits : List Char) : Option Char :=
  if digits.all fun d => (Text.hexValue? d).isSome then
    let code := numberOf 16 digits
    if code.isValidChar then some (Char.ofNat code) else none
  else none

/-- The character for a letter after a backslash. -/
def escape? (c : Char) : Option Char :=
  if c = '"' ∨ c = '\\' then some c
  else if c = 'b' then some (Char.ofNat 8)
  else if c = 't' then some '\t'
  else if c = 'n' then some '\n'
  else if c = 'f' then some (Char.ofNat 12)
  else if c = 'r' then some '\r'
  else none

/-- Reads a basic string after its opening quote; `done` holds what was read, last first. -/
def readBasic (done : List Char) : List Char → Option (String × List Char)
  | [] => none
  | '"' :: rest => some (String.ofList done.reverse, rest)
  | '\\' :: 'u' :: a :: b :: c :: d :: rest =>
    match charOfHex? [a, b, c, d] with
    | some meant => readBasic (meant :: done) rest
    | none => none
  | '\\' :: 'U' :: a :: b :: c :: d :: e :: f :: g :: h :: rest =>
    match charOfHex? [a, b, c, d, e, f, g, h] with
    | some meant => readBasic (meant :: done) rest
    | none => none
  | '\\' :: c :: rest =>
    match escape? c with
    | some meant => readBasic (meant :: done) rest
    | none => none
  | c :: rest => if isPlain c then readBasic (c :: done) rest else none

/-- Whether a line ends at the start of a text. -/
def atLineEnd : List Char → Bool
  | '\n' :: _ => true
  | '\r' :: '\n' :: _ => true
  | _ => false

/-- Reads a multi-line basic string after its opening quotes. `joining` holds after a backslash at
the end of a line, until something other than blanks and line ends comes. -/
def readMultiBasic (joining : Bool) (done : List Char) : List Char → Option (String × List Char)
  | [] => none
  | '"' :: '"' :: '"' :: '"' :: '"' :: rest =>
    some (String.ofList ('"' :: '"' :: done).reverse, rest)
  | '"' :: '"' :: '"' :: '"' :: rest => some (String.ofList ('"' :: done).reverse, rest)
  | '"' :: '"' :: '"' :: rest => some (String.ofList done.reverse, rest)
  | '\\' :: 'u' :: a :: b :: c :: d :: rest =>
    match charOfHex? [a, b, c, d] with
    | some meant => readMultiBasic false (meant :: done) rest
    | none => none
  | '\\' :: 'U' :: a :: b :: c :: d :: e :: f :: g :: h :: rest =>
    match charOfHex? [a, b, c, d, e, f, g, h] with
    | some meant => readMultiBasic false (meant :: done) rest
    | none => none
  | '\\' :: c :: rest =>
    match escape? c with
    | some meant => readMultiBasic false (meant :: done) rest
    | none =>
      if atLineEnd ((c :: rest).dropWhile isSpace) then readMultiBasic true done (c :: rest)
      else none
  | '\r' :: '\n' :: rest =>
    if joining then readMultiBasic true done rest else readMultiBasic false ('\n' :: done) rest
  | '\n' :: rest =>
    if joining then readMultiBasic true done rest else readMultiBasic false ('\n' :: done) rest
  | c :: rest =>
    if joining && isSpace c then readMultiBasic true done rest
    else if isPlain c then readMultiBasic false (c :: done) rest
    else none

def readLiteral (done : List Char) : List Char → Option (String × List Char)
  | [] => none
  | '\'' :: rest => some (String.ofList done.reverse, rest)
  | c :: rest => if isPlain c then readLiteral (c :: done) rest else none

def readMultiLiteral (done : List Char) : List Char → Option (String × List Char)
  | [] => none
  | '\'' :: '\'' :: '\'' :: '\'' :: '\'' :: rest =>
    some (String.ofList ('\'' :: '\'' :: done).reverse, rest)
  | '\'' :: '\'' :: '\'' :: '\'' :: rest => some (String.ofList ('\'' :: done).reverse, rest)
  | '\'' :: '\'' :: '\'' :: rest => some (String.ofList done.reverse, rest)
  | '\r' :: '\n' :: rest => readMultiLiteral ('\n' :: done) rest
  | '\n' :: rest => readMultiLiteral ('\n' :: done) rest
  | c :: rest => if isPlain c then readMultiLiteral (c :: done) rest else none

/-- A text without the line end at its start. -/
def dropLineEnd : List Char → List Char
  | '\n' :: rest => rest
  | '\r' :: '\n' :: rest => rest
  | rest => rest

def readQuoted : List Char → Option (String × List Char)
  | '"' :: rest => readBasic [] rest
  | '\'' :: rest => readLiteral [] rest
  | _ => none

def readString : List Char → Option (String × List Char)
  | '"' :: '"' :: '"' :: rest => readMultiBasic false [] (dropLineEnd rest)
  | '\'' :: '\'' :: '\'' :: rest => readMultiLiteral [] (dropLineEnd rest)
  | cs => readQuoted cs

/-- The digits at the start of a text; single underscores between digits do not count. -/
def spanDigits (isDigit : Char → Bool) : List Char → List Char × List Char
  | [] => ([], [])
  | '_' :: d :: rest =>
    if isDigit d then
      let (digits, later) := spanDigits isDigit rest
      (d :: digits, later)
    else ([], '_' :: d :: rest)
  | d :: rest =>
    if isDigit d then
      let (digits, later) := spanDigits isDigit rest
      (d :: digits, later)
    else ([], d :: rest)

/-- Reads digits of which there is at least one, the first without an underscore before it. -/
def readDigits (isDigit : Char → Bool) (cs : List Char) : Option (List Char × List Char) :=
  match cs with
  | [] => none
  | c :: _ => if isDigit c then some (spanDigits isDigit cs) else none

/-- Reads decimal digits without a zero in front of others. -/
def readWhole : List Char → Option (List Char × List Char)
  | '0' :: rest => some (['0'], rest)
  | cs => readDigits Char.isDigit cs

/-- Reads a sign; without one the number is not negative. -/
def readSign : List Char → Bool × List Char
  | '+' :: rest => (false, rest)
  | '-' :: rest => (true, rest)
  | rest => (false, rest)

/-- Whether a number fits into 64 bits with a sign. -/
def fits (n : Int) : Bool :=
  -(Nat.pow 2 63 : Int) ≤ n && n < (Nat.pow 2 63 : Int)

def readBase (base : Nat) (isDigit : Char → Bool) (cs : List Char) : Option (Value × List Char) :=
  match readDigits isDigit cs with
  | none => none
  | some (digits, rest) =>
    let n : Int := numberOf base digits
    if fits n then some (.integer n, rest) else none

def readInteger : List Char → Option (Value × List Char)
  | '0' :: 'x' :: rest => readBase 16 (fun c => (Text.hexValue? c).isSome) rest
  | '0' :: 'o' :: rest => readBase 8 (fun c => '0' ≤ c && c ≤ '7') rest
  | '0' :: 'b' :: rest => readBase 2 (fun c => c == '0' || c == '1') rest
  | cs =>
    let (negative, unsigned) := readSign cs
    match readWhole unsigned with
    | none => none
    | some (digits, rest) =>
      let size : Int := numberOf 10 digits
      let n := if negative then -size else size
      if fits n then some (.integer n, rest) else none

/-- The least number that has no 64-bit floating-point neighbour but infinity. -/
def floatLimit : Nat := (Nat.pow 2 54 - 1) * Nat.pow 2 970

/-- Whether `digits` times a power of ten is at least `floatLimit`. The count of places settles it
but for numbers of 309 places. -/
def overflows (digits : List Char) (exponent : Int) : Bool :=
  let significant := digits.dropWhile (· == '0')
  let places : Int := significant.length + exponent
  let n := numberOf 10 significant
  if significant.isEmpty || places < 309 then false
  else if 309 < places then true
  else if 0 ≤ exponent then floatLimit ≤ n * Nat.pow 10 exponent.toNat
  else floatLimit * Nat.pow 10 (-exponent).toNat ≤ n

def readFraction : List Char → Option (List Char × List Char)
  | '.' :: rest => readDigits Char.isDigit rest
  | rest => some ([], rest)

def readExponent : List Char → Option (Option Int × List Char)
  | [] => some (none, [])
  | c :: rest =>
    if c = 'e' ∨ c = 'E' then
      let (negative, unsigned) := readSign rest
      match readDigits Char.isDigit unsigned with
      | none => none
      | some (digits, later) =>
        let size : Int := numberOf 10 digits
        some (some (if negative then -size else size), later)
    else some (none, c :: rest)

/-- Reads a float in digits. It needs a fraction or an exponent, and must not be too large. -/
def readFloat (cs : List Char) : Option (Value × List Char) := do
  let (negative, unsigned) := readSign cs
  let (whole, afterWhole) ← readWhole unsigned
  let (fraction, afterFraction) ← readFraction afterWhole
  let (exponent, rest) ← readExponent afterFraction
  if fraction.isEmpty && exponent.isNone then none
  else if !negative && overflows (whole ++ fraction) (exponent.getD 0 - fraction.length) then none
  else
    let written := cs.take (cs.length - rest.length)
    return (.float (String.ofList written), rest)

def readSpecial (cs : List Char) : Option (Value × List Char) :=
  match (readSign cs).2 with
  | 'i' :: 'n' :: 'f' :: rest => some (.float "inf", rest)
  | 'n' :: 'a' :: 'n' :: rest => some (.float "nan", rest)
  | _ => none

/-- Reads exactly `count` digits of a number between two bounds. -/
def readField (count low high : Nat) (cs : List Char) : Option (List Char × List Char) :=
  let digits := cs.take count
  let n := numberOf 10 digits
  if digits.length == count && digits.all Char.isDigit && low ≤ n && n ≤ high then
    some (digits, cs.drop count)
  else none

def readMark (mark : Char) : List Char → Option (List Char)
  | c :: rest => if c = mark then some rest else none
  | [] => none

def daysIn (year month : Nat) : Nat :=
  if month = 2 then
    if year % 4 = 0 ∧ (year % 100 ≠ 0 ∨ year % 400 = 0) then 29 else 28
  else if month = 4 ∨ month = 6 ∨ month = 9 ∨ month = 11 then 30
  else 31

def readDate (cs : List Char) : Option (List Char × List Char) := do
  let (year, rest) ← readField 4 0 9999 cs
  let rest ← readMark '-' rest
  let (month, rest) ← readField 2 1 12 rest
  let rest ← readMark '-' rest
  let (day, rest) ← readField 2 1 (daysIn (numberOf 10 year) (numberOf 10 month)) rest
  return (year ++ ['-'] ++ month ++ ['-'] ++ day, rest)

/-- Reads the fraction of a second. Nine places count, and zeros at their end are not written. -/
def readSecondFraction : List Char → List Char × List Char
  | '.' :: rest =>
    match rest.span Char.isDigit with
    | ([], _) => ([], '.' :: rest)
    | (digits, later) =>
      let kept := ((digits.take 9).reverse.dropWhile (· == '0')).reverse
      (if kept.isEmpty then [] else '.' :: kept, later)
  | rest => ([], rest)

def readTime (cs : List Char) : Option (List Char × List Char) := do
  let (hour, rest) ← readField 2 0 23 cs
  let rest ← readMark ':' rest
  let (minute, rest) ← readField 2 0 59 rest
  let rest ← readMark ':' rest
  let (second, rest) ← readField 2 0 60 rest
  let (fraction, rest) := readSecondFraction rest
  return (hour ++ [':'] ++ minute ++ [':'] ++ second ++ fraction, rest)

def readSignedOffset (sign : Char) (cs : List Char) : Option (List Char × List Char) := do
  let (hour, rest) ← readField 2 0 23 cs
  let rest ← readMark ':' rest
  let (minute, rest) ← readField 2 0 59 rest
  let shown := if numberOf 10 (hour ++ minute) = 0 then '+' else sign
  return ([shown] ++ hour ++ [':'] ++ minute, rest)

def readOffset (cs : List Char) : List Char × List Char :=
  match cs with
  | [] => ([], [])
  | c :: rest =>
    if c = 'Z' ∨ c = 'z' then (['Z'], rest)
    else if c = '+' ∨ c = '-' then (readSignedOffset c rest).getD ([], c :: rest)
    else ([], c :: rest)

/-- Reads what follows a date on the same line: a time, perhaps with an offset. -/
def readTimeAfter (cs : List Char) : Option (List Char × List Char) :=
  match cs with
  | [] => none
  | c :: rest =>
    if c = 'T' ∨ c = 't' ∨ c = ' ' then
      (readTime rest).map fun (time, later) =>
        let (offset, last) := readOffset later
        ('T' :: time ++ offset, last)
    else none

def readDatetime (cs : List Char) : Option (Value × List Char) :=
  match readDate cs with
  | some (date, rest) =>
    let (time, last) := (readTimeAfter rest).getD ([], rest)
    some (.datetime (String.ofList (date ++ time)), last)
  | none => (readTime cs).map fun (time, rest) => (.datetime (String.ofList time), rest)

def readBoolean : List Char → Option (Value × List Char)
  | 't' :: 'r' :: 'u' :: 'e' :: rest => some (.boolean true, rest)
  | 'f' :: 'a' :: 'l' :: 's' :: 'e' :: rest => some (.boolean false, rest)
  | _ => none

def readScalar (cs : List Char) : Option (Value × List Char) :=
  match readString cs with
  | some (text, rest) => some (.string text, rest)
  | none =>
    (readBoolean cs).or ((readSpecial cs).or ((readDatetime cs).or
      ((readFloat cs).or (readInteger cs))))

end SaltConventions.Toml
