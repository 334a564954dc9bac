import SaltConventions.RuleSet
import SaltConventions.Suppression

/-!
# Linting

A linter checks source texts and files with the rules of a configuration. What a source text means
as a syntax tree is given to it from outside.
-/

namespace SaltConventions

/-- Gives the statements of a source text, if it is a module. -/
abbrev Parser := String → Option (List Stmt)

/-- A configuration whose rules could be built, with the environment of a run. -/
structure Linter where
  config : Config
  env : Environment
  rules : List Rule

namespace Linter

/-- The linter of a configuration. Errors of the environment come before errors of the rules. -/
def ofConfig (config : Config) (tree : FileTree) (cwd : Path) : Except LintError Linter :=
  match Environment.ofConfig config tree cwd with
  | .error cause => .error cause
  | .ok env =>
    match buildRules config with
    | .error cause => .error (.config cause)
    | .ok rules => .ok { config, env, rules }

/-- A source text without its byte order mark, and whether it had one. -/
def stripBom (source : String) : String × Bool :=
  match source.toList with
  | c :: rest => if c.toNat = 0xFEFF then (String.ofList rest, true) else (source, false)
  | [] => (source, false)

/-- Whether one finding of a file comes before another: by line, then by code. -/
def beforeInFile (a b : Diagnostic) : Bool :=
  a.line < b.line || (a.line == b.line && !decide (b.code < a.code))

/-- Checks a source text. Findings are in order of line and code, those of one line and code in the
order they were reported. -/
def lintSource (linter : Linter) (parse : Parser) (path : Path) (source : String) :
    Except LintError (List Diagnostic) :=
  let (text, hasBom) := stripBom source
  match parse text with
  | none => .error (.unparsable path)
  | some body =>
    let ctx := FileContext.ofSource path text hasBom linter.env
    let (_, reported) := walkModule linter.config ctx body (linter.rules.map Rule.activate)
    .ok ((Suppression.apply text reported).mergeSort beforeInFile)

def lintFile (linter : Linter) (parse : Parser) (path : Path) :
    Except LintError (List Diagnostic) :=
  match linter.env.tree.read path with
  | .error cause => .error (.unreadable path cause)
  | .ok source => linter.lintSource parse path source

end Linter

end SaltConventions
