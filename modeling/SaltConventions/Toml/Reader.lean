import SaltConventions.Toml.Scalar
import SaltConventions.Toml.Table

/-!
# Reading TOML documents

A document is a sequence of lines with key-value pairs, table headers and comments. Containers and
dotted keys may be nested to a fixed depth.
-/

namespace SaltConventions.Toml

/-- Containers and dotted keys are nested less deep than this. -/
def depthLimit : Nat := 80

def skipSpace (cs : List Char) : List Char :=
  cs.dropWhile isSpace

/-- The characters of bare keys. -/
def isBare (c : Char) : Bool :=
  c.isAlphanum || c == '_' || c == '-'

def readSimpleKey (cs : List Char) : Option (String × List Char) :=
  match cs with
  | '"' :: _ => readQuoted cs
  | '\'' :: _ => readQuoted cs
  | _ =>
    match cs.span isBare with
    | ([], _) => none
    | (bare, rest) => some (String.ofList bare, rest)

/-- Reads the parts of a key between dots, with blanks around them. -/
def readKeyParts : (fuel : Nat) → List Char → Option (List String × List Char)
  | 0, _ => none
  | fuel + 1, cs =>
    match readSimpleKey (skipSpace cs) with
    | none => none
    | some (part, rest) =>
      match skipSpace rest with
      | '.' :: later =>
        match readKeyParts fuel later with
        | some (parts, last) => some (part :: parts, last)
        | none => none
      | later => some ([part], later)

/-- Reads a key: the tables on the way to it, and its own name. -/
def readKey (cs : List Char) : Option ((List String × String) × List Char) :=
  match readKeyParts (depthLimit - 1) cs with
  | none => none
  | some (parts, rest) => parts.getLast?.map fun name => ((parts.dropLast, name), rest)

/-- Drops blanks, line ends and comments between the items of an array. -/
def skipTrivia (inComment : Bool) : List Char → Option (List Char)
  | [] => if inComment then none else some []
  | '\n' :: rest => skipTrivia false rest
  | '\r' :: '\n' :: rest => skipTrivia false rest
  | c :: rest =>
    if inComment then if isPlain c then skipTrivia true rest else none
    else if isSpace c then skipTrivia false rest
    else if c = '#' then skipTrivia true rest
    else some (c :: rest)

def readItems (readValue : List Char → Option (Value × List Char)) :
    (fuel : Nat) → List Value → List Char → Option (List Value × List Char)
  | 0, _, _ => none
  | fuel + 1, done, cs =>
    match skipTrivia false cs with
    | none => none
    | some (']' :: rest) => some (done.reverse, rest)
    | some start =>
      match readValue start with
      | none => none
      | some (item, afterItem) =>
        match skipTrivia false afterItem with
        | some (',' :: rest) => readItems readValue fuel (item :: done) rest
        | some (']' :: rest) => some ((item :: done).reverse, rest)
        | _ => none

def readPair (readValue : List Char → Option (Value × List Char)) (cs : List Char) :
    Option ((List String × String) × Value × List Char) :=
  match readKey cs with
  | some (key, '=' :: rest) =>
    (readValue (skipSpace rest)).map fun (value, later) => (key, value, later)
  | _ => none

/-- Reads the pairs of an inline table after its opening brace, which has at least one. -/
def readPairs (readValue : List Char → Option (Value × List Char)) :
    (fuel : Nat) → Table → List Char → Option (Table × List Char)
  | 0, _, _ => none
  | fuel + 1, done, cs =>
    match readPair readValue cs with
    | none => none
    | some ((path, name), value, rest) =>
      match done.addValue path name value, skipSpace rest with
      | some more, ',' :: later => readPairs readValue fuel more later
      | some more, '}' :: later => some (more, later)
      | _, _ => none

def readValue : (depth : Nat) → List Char → Option (Value × List Char)
  | 0, '[' :: _ => none
  | 0, '{' :: _ => none
  | depth + 1, '[' :: rest =>
    (readItems (readValue depth) (rest.length + 1) [] rest).map fun (items, later) =>
      (.array items, later)
  | depth + 1, '{' :: rest =>
    match skipSpace rest with
    | '}' :: later => some (.table [], later)
    | start =>
      (readPairs (readValue depth) (start.length + 1) (.empty .header) start).map
        fun (table, later) => (table.toValue, later)
  | _, cs => readScalar cs

/-- Drops the rest of a line, which holds nothing but blanks and a comment. -/
def endLine (cs : List Char) : Option (List Char) :=
  let rest :=
    match skipSpace cs with
    | '#' :: comment => comment.dropWhile isPlain
    | other => other
  match rest with
  | [] => some []
  | '\n' :: later => some later
  | '\r' :: '\n' :: later => some later
  | _ => none

/-- The table that pairs go into is found along the path of the last header. -/
def addPair (header path : List String) (name : String) (value : Value) (root : Table) :
    Option Table :=
  root.update false (·.addValue path name value) header

/-- Reads the lines of a document. `header` is the path of the last header. -/
def readLines : (fuel : Nat) → (header : List String) → Table → List Char → Option Table
  | 0, _, _, _ => none
  | fuel + 1, header, root, cs =>
    match skipSpace cs with
    | [] => some root
    | '[' :: '[' :: rest =>
      match readKey rest with
      | some ((path, name), ']' :: ']' :: later) =>
        match root.addElement path name, endLine later with
        | some root, some later => readLines fuel (path ++ [name]) root later
        | _, _ => none
      | _ => none
    | '[' :: rest =>
      match readKey rest with
      | some ((path, name), ']' :: later) =>
        match root.addHeader path name, endLine later with
        | some root, some later => readLines fuel (path ++ [name]) root later
        | _, _ => none
      | _ => none
    | c :: rest =>
      if c = '#' ∨ c = '\n' ∨ c = '\r' then
        match endLine (c :: rest) with
        | some later => readLines fuel header root later
        | none => none
      else
        match readPair (readValue (depthLimit - 1)) (c :: rest) with
        | none => none
        | some ((path, name), value, later) =>
          match addPair header path name value root, endLine later with
          | some root, some later => readLines fuel header root later
          | _, _ => none

/-- Reads a document, with or without a byte order mark; every line takes at least one character. -/
def parse? (text : String) : Option Value :=
  let cs :=
    match text.toList with
    | c :: rest => if c.toNat = 0xFEFF then rest else c :: rest
    | [] => []
  (readLines (cs.length + 1) [] (.empty .header) cs).map Table.toValue

end SaltConventions.Toml
