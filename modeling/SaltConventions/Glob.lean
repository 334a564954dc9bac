/-!
# Glob patterns

Patterns over whole path texts: `?` is one character, `*` any run of characters, slashes included,
`[...]` and `[!...]` are character classes, and `**` as a whole path component stands for any number
of leading directories, or for everything below if the pattern ends there.
-/

namespace SaltConventions

namespace Glob

/-- A part of a character class. -/
inductive ClassPart where
  | single (c : Char)
  | range (first last : Char)
  deriving DecidableEq, Repr, Inhabited

/-- A part of a pattern. -/
inductive Token where
  | literal (c : Char)
  | anyChar
  | anySequence
  | anyDirectories
  | within (parts : List ClassPart)
  | outside (parts : List ClassPart)
  deriving DecidableEq, Repr, Inhabited

/-- The parts of a character class: a dash between two characters makes a range. -/
def classParts : List Char → List ClassPart
  | [] => []
  | first :: '-' :: last :: rest => .range first last :: classParts rest
  | c :: rest => .single c :: classParts rest

/-- Cuts a class at its closing bracket, which is looked for after the first character. -/
def splitClass? : List Char → Option (List Char × List Char)
  | [] => none
  | first :: rest =>
    match rest.dropWhile (· != ']') with
    | [] => none
    | _ :: later => some (first :: rest.takeWhile (· != ']'), later)

def readClass? : List Char → Option (Token × List Char)
  | '!' :: rest => (splitClass? rest).map fun cut => (.outside (classParts cut.1), cut.2)
  | rest => (splitClass? rest).map fun cut => (.within (classParts cut.1), cut.2)

/-- Reads a pattern. `bounded` tells whether a path component can start here, at the start of the
pattern or after a slash; `fuel` bounds the number of parts. -/
def readTokens : (fuel : Nat) → (bounded : Bool) → List Char → Option (List Token)
  | _, _, [] => some []
  | 0, _, _ :: _ => none
  | fuel + 1, bounded, '*' :: '*' :: rest =>
    if !bounded then none
    else
      match rest with
      | [] => some [.anyDirectories]
      | '/' :: later => (readTokens fuel true later).map (.anyDirectories :: ·)
      | _ => none
  | fuel + 1, _, '*' :: rest => (readTokens fuel false rest).map (.anySequence :: ·)
  | fuel + 1, _, '?' :: rest => (readTokens fuel false rest).map (.anyChar :: ·)
  | fuel + 1, _, '[' :: rest =>
    match readClass? rest with
    | some (token, later) => (readTokens fuel false later).map (token :: ·)
    | none => none
  | fuel + 1, _, c :: rest => (readTokens fuel (c == '/') rest).map (.literal c :: ·)

/-- Whether a class part holds a character. -/
def ClassPart.holds (c : Char) : ClassPart → Bool
  | single d => c == d
  | range first last => first ≤ c && c ≤ last

/-- Whether a part that stands for one character stands for this one. -/
def Token.admits (c : Char) : Token → Bool
  | literal d => c == d
  | anyChar => true
  | within parts => parts.any (·.holds c)
  | outside parts => !parts.any (·.holds c)
  | anySequence => false
  | anyDirectories => false

/-! Matching works with one answer for the text and for what is left of it after each of its
characters, the longest first and the empty rest last. Every part of a pattern turns the answers of
the parts after it into its own, so the work is the product of the two lengths. -/

def afterChar (token : Token) : List Char → List Bool → List Bool
  | c :: cs, _ :: after => (token.admits c && after.headD false) :: afterChar token cs after
  | _, _ => [false]

def afterAny : List Bool → List Bool
  | [] => []
  | here :: after =>
    let rest := afterAny after
    (here || rest.headD false) :: rest

/-- The answers with a run of characters before them that ends in a slash or is all there is. -/
def afterSlash : List Char → List Bool → List Bool
  | c :: cs, _ :: after =>
    let rest := afterSlash cs after
    ((c == '/' && after.headD false) || rest.headD false) :: rest
  | _, answers => answers

/-- The answers with one more part before them. -/
def afterToken (token : Token) (cs : List Char) (answers : List Bool) : List Bool :=
  match token with
  | .anySequence => afterAny answers
  | .anyDirectories => List.zipWith or answers (afterSlash cs answers)
  | single => afterChar single cs answers

/-- For a text and each rest of it, whether it matches the parts of a pattern. -/
def matchRests : List Token → List Char → List Bool
  | [], cs => cs.map (fun _ => false) ++ [true]
  | token :: later, cs => afterToken token cs (matchRests later cs)

end Glob

/-- A glob pattern that was read. -/
structure Glob where
  tokens : List Glob.Token
  deriving DecidableEq, Repr, Inhabited

namespace Glob

/-- Reads a pattern; there is none if a class is not closed or a `**` is not a path component. -/
def parse? (pattern : String) : Option Glob :=
  (readTokens pattern.length true pattern.toList).map Glob.mk

def accepts (g : Glob) (text : String) : Bool :=
  (matchRests g.tokens text.toList).headD false

end Glob

end SaltConventions
