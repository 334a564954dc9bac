import SaltConventions.Text.Lower

/-!
# Severities

How serious a finding is, from least to most.
-/

namespace SaltConventions

/-- How serious a finding is. -/
inductive Severity where
  | info
  | convention
  | refactor
  | warning
  | error
  deriving DecidableEq, Repr, Inhabited

namespace Severity

def all : List Severity :=
  [.info, .convention, .refactor, .warning, .error]

def rank : Severity → Nat
  | info => 0
  | convention => 1
  | refactor => 2
  | warning => 3
  | error => 4

def name : Severity → String
  | info => "info"
  | convention => "convention"
  | refactor => "refactor"
  | warning => "warning"
  | error => "error"

/-- The severity that the first letter of a message code stands for. -/
def ofCode (code : String) : Severity :=
  match code.toList.head? with
  | some 'E' => error
  | some 'F' => error
  | some 'W' => warning
  | some 'R' => refactor
  | some 'C' => convention
  | _ => info

/-- The severity with exactly this name. -/
def ofName? (text : String) : Option Severity :=
  all.find? (·.name == text)

/-- The severity that a user names, by name or initial, in capitals or not. -/
def parse? (text : String) : Option Severity :=
  let asked := Text.toLowerAscii text
  all.find? fun s => s.name == asked || String.ofList (s.name.toList.take 1) == asked

end Severity

end SaltConventions
