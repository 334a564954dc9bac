import SaltConventions.SyntaxTree
import SaltConventions.Text.Pieces

/-!
# Loggers

The names of a file that stand for the `logging` module or for a logger, judged by how they are
bound.
-/

namespace SaltConventions

/-- Names that stand for the `logging` module or a logger. -/
structure LoggerNames where
  names : List String
  deriving DecidableEq, Repr, Inhabited

namespace LoggerNames

def conventional : LoggerNames := ⟨["log", "logger"]⟩

/-- The names together with what `import logging` binds. -/
def observeImport (loggers : LoggerNames) (names : List Alias) : LoggerNames :=
  ⟨loggers.names ++ (names.filter (·.name == "logging")).map Alias.bound⟩

/-- Whether an expression calls `getLogger`, by itself or as an attribute. -/
def isGetLogger : Expr → Bool
  | .call _ func _ _ =>
    match func.dotted? with
    | some dotted => dotted == "getLogger" || Text.endsWith ".getLogger".toList dotted.toList
    | none => false
  | _ => false

/-- The name that an assignment target binds, if it is a plain name. -/
def boundName? : Expr → Option String
  | .name _ id => some id
  | _ => none

/-- The names together with what `name = logging.getLogger(...)` binds. -/
def observeAssign (loggers : LoggerNames) (targets : List Expr) (value : Expr) : LoggerNames :=
  if isGetLogger value then ⟨loggers.names ++ targets.filterMap boundName?⟩ else loggers

def isLogger (loggers : LoggerNames) : Expr → Bool
  | .name _ id => loggers.names.contains id
  | _ => false

/-- Whether a call of `func` is a logger call such as `log.debug(...)`. -/
def isLoggerCall (loggers : LoggerNames) : Expr → Bool
  | .attribute _ value _ => loggers.isLogger value
  | _ => false

end LoggerNames

end SaltConventions
