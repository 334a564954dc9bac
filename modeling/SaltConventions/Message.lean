import SaltConventions.Severity
import SaltConventions.Text.Literal

/-!
# Messages

A message is declared once with a code, a symbol, a template and a description. The template has
placeholders: `%s` takes an argument as it is, `%r` takes it as a quoted literal. They are filled
from left to right; placeholders without an argument stay as they are, and what was filled in is not
looked at again.
-/

namespace SaltConventions

/-- A message that a rule can report. -/
structure Message where
  code : String
  symbol : String
  template : String
  description : String
  deriving DecidableEq, Repr, Inhabited

namespace Message

def severity (m : Message) : Severity :=
  Severity.ofCode m.code

/-- The number of placeholders in a template. -/
def countSlots : List Char → Nat
  | [] => 0
  | '%' :: 's' :: rest => countSlots rest + 1
  | '%' :: 'r' :: rest => countSlots rest + 1
  | _ :: rest => countSlots rest

def arity (m : Message) : Nat :=
  countSlots m.template.toList

/-- Fills the placeholders of a template. -/
def fill : List Char → List String → List Char
  | [], _ => []
  | '%' :: 's' :: rest, [] => '%' :: 's' :: fill rest []
  | '%' :: 's' :: rest, arg :: args => arg.toList ++ fill rest args
  | '%' :: 'r' :: rest, [] => '%' :: 'r' :: fill rest []
  | '%' :: 'r' :: rest, arg :: args => Text.Literal.encode arg.toList ++ fill rest args
  | c :: rest, args => c :: fill rest args

def render (m : Message) (args : List String) : String :=
  String.ofList (fill m.template.toList args)

end Message

end SaltConventions
