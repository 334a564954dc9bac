import SaltConventions.Json
import SaltConventions.Message
import SaltConventions.Path

/-!
# Diagnostics

A reported finding, its one-line form, and its JSON form in both directions.
-/

namespace SaltConventions

/-- A reported finding. -/
structure Diagnostic where
  code : String
  symbol : String
  rule : String
  severity : Severity
  file : Path
  line : Nat
  message : String
  args : List String
  deriving DecidableEq, Repr, Inhabited

namespace Diagnostic

def display (d : Diagnostic) : String :=
  d.file.text ++ ":" ++ toString d.line ++ ": " ++ d.code ++ " (" ++ d.symbol ++ ") " ++ d.message

def toJson (d : Diagnostic) : Json :=
  .object
    [("code", .string d.code), ("symbol", .string d.symbol), ("rule", .string d.rule),
      ("severity", .string d.severity.name), ("file", .string d.file.text),
      ("line", .ofNat d.line), ("message", .string d.message), ("args", .strings d.args)]

/-- The names of the members of the JSON form, in order. -/
def memberNames : List String :=
  ["code", "symbol", "rule", "severity", "file", "line", "message", "args"]

/-- The greatest line number that can be read. -/
def maxLine : Nat := Nat.pow 2 64 - 1

/-- Reads a severity: its name, or an object with the name as its only member and null in it. -/
def severityOfJson? : Json → Option Severity
  | .string name => Severity.ofName? name
  | .object [(name, .null)] => Severity.ofName? name
  | _ => none

/-- Reads a line number: digits only, at most `maxLine`. -/
def lineOfJson? (value : Json) : Option Nat :=
  value.nat?.filter (· ≤ maxLine)

/-- The member values of a finding: of an object by name, of an array by place. -/
def memberValues? : Json → Option (List Json)
  | .array items => if items.length = memberNames.length then some items else none
  | .object members => memberNames.mapM fun name => (Json.object members).get? name
  | _ => none

/-- Reads a finding. Every member has to be there with a value of its kind; other members of an
object do not count. -/
def ofJson? (value : Json) : Option Diagnostic := do
  match ← memberValues? value with
  | [code, symbol, rule, severity, file, line, message, args] =>
    return {
      code := ← code.text?
      symbol := ← symbol.text?
      rule := ← rule.text?
      severity := ← severityOfJson? severity
      file := ⟨← file.text?⟩
      line := ← lineOfJson? line
      message := ← message.text?
      args := ← (← args.items?).mapM Json.text? }
  | _ => none

end Diagnostic

end SaltConventions
