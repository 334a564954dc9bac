import SaltConventions.Rule
import SaltConventions.Text.Blank
import SaltConventions.Text.Lower
import SaltConventions.Text.Word

/-!
# Source encodings

A source file declares its encoding in one of its first two lines, and the encoding is UTF-8.
-/

namespace SaltConventions.SourceEncoding

def multipleEncodings : Message where
  code := "W9901"
  symbol := "multiple-encoding-in-file"
  template := "PEP263: Multiple file encodings"
  description := "There are multiple encodings in file."

/-- A byte order mark with a declaration of another encoding. -/
def encodingMismatch : Message where
  code := "W9902"
  symbol := "encoding-mismatch-in-file"
  template := "PEP263: Parser and PEP263 encoding mismatch"
  description := "The parser and the PEP263 file encoding in file does not match."

def noEncoding : Message where
  code := "W9903"
  symbol := "no-encoding-in-file"
  template := "PEP263: Use UTF-8 file encoding"
  description := "There is no PEP263 compliant file encoding in file."

/-- A declaration of another encoding. -/
def wrongEncoding : Message where
  code := "W9904"
  symbol := "wrongly-encoded-file"
  template := "PEP263: Use UTF-8 file encoding"
  description := "Change file encoding and PEP263 header in file."

/-- No declaration in a file without text. -/
def noEncodingEmpty : Message where
  code := "W9905"
  symbol := "no-encoding-in-empty-file"
  template := "PEP263: Use UTF-8 file encoding"
  description := "There is no PEP263 compliant file encoding in file."

def messages : List Message :=
  [multipleEncodings, encodingMismatch, noEncoding, wrongEncoding, noEncodingEmpty]

/-- The encoding that files have. -/
def requiredEncoding : String := "utf-8"

/-- The characters of the name of an encoding. -/
def isNameChar (c : Char) : Bool :=
  c == '-' || c == '.' || Text.isWord c

/-- The encoding that the start of a text declares: `coding`, a colon or an equals sign, blanks, and
then the name. -/
def declaredHere? (cs : List Char) : Option (List Char) :=
  match Text.stripPrefix? "coding".toList cs with
  | some (mark :: rest) =>
    if mark = ':' ∨ mark = '=' then
      let name := (rest.dropWhile Text.isBlank).takeWhile isNameChar
      if name = [] then none else some name
    else none
  | _ => none

def declared? : List Char → Option (List Char)
  | [] => none
  | c :: cs =>
    match declaredHere? (c :: cs) with
    | some name => some name
    | none => declared? cs

/-- The encodings declared in the first two lines, in lower case. -/
def declaredEncodings (source : String) : List String :=
  (((Text.lines source.toList).take 2).filterMap declared?).map fun name =>
    Text.toLower (String.ofList name)

/-- The messages that a source deserves. A byte order mark means UTF-8 whatever is declared. -/
def checkSource (source : String) (hasBom : Bool) : List Message :=
  let encodings := declaredEncodings source
  let isRequired := encodings.contains requiredEncoding
  (if 1 < encodings.length then [multipleEncodings] else [])
    ++ (if hasBom && !encodings.isEmpty && !isRequired then [encodingMismatch] else [])
    ++ (if encodings.isEmpty then [if source = "" then noEncodingEmpty else noEncoding]
      else if isRequired then []
      else [wrongEncoding])

def check (ctx : FileContext) (_ : Scope) (node : Node) : List Finding :=
  match node with
  | .module _ => (checkSource ctx.source ctx.hasBom).map fun message => ⟨message, 1, []⟩
  | _ => []

def rule : Rule where
  name := "pep263"
  messages := messages
  State := Unit
  initial := ()
  watcher := .onEnter [.module] check

end SaltConventions.SourceEncoding
