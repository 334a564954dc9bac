/-!
# Syntax trees of Python modules

The statements and expressions of a module with their byte ranges. The tree holds the expressions
that a module evaluates: annotations, type parameters and match patterns are left out, because no
check looks into them, and so are operators that no check tells apart.
-/

namespace SaltConventions

/-- A byte range of the source. -/
structure Span where
  start : Nat
  stop : Nat
  deriving DecidableEq, Repr, Inhabited

/-- The value of a literal. Numbers keep the digits they are written with. -/
inductive Constant where
  | none
  | ellipsis
  | bool (value : Bool)
  | str (value : String)
  | bytes (value : List UInt8)
  | int (digits : String)
  | float (digits : String)
  | complex (digits : String)
  | tuple (items : List Constant)
  deriving Repr, Inhabited

/-- A binary operator. -/
inductive BinaryOperator where
  | add | sub | mult | matMult | div | mod | pow
  | lShift | rShift | bitOr | bitXor | bitAnd | floorDiv
  deriving DecidableEq, Repr, Inhabited

mutual

/-- An expression. -/
inductive Expr where
  | boolOp (span : Span) (values : List Expr)
  | namedExpr (span : Span) (target value : Expr)
  | binOp (span : Span) (left : Expr) (op : BinaryOperator) (right : Expr)
  | unaryOp (span : Span) (operand : Expr)
  | lambda (span : Span) (params : List Parameter) (body : Expr)
  | ifExp (span : Span) (test body orelse : Expr)
  | dict (span : Span) (items : List DictItem)
  | set (span : Span) (items : List Expr)
  | listComp (span : Span) (element : Expr) (clauses : List Clause)
  | setComp (span : Span) (element : Expr) (clauses : List Clause)
  | dictComp (span : Span) (key value : Expr) (clauses : List Clause)
  | generator (span : Span) (element : Expr) (clauses : List Clause)
  | await (span : Span) (value : Expr)
  | yield (span : Span) (value : Option Expr)
  | yieldFrom (span : Span) (value : Expr)
  | compare (span : Span) (left : Expr) (comparators : List Expr)
  | call (span : Span) (func : Expr) (args : List Expr) (keywords : List Keyword)
  | formattedValue (span : Span) (value : Expr) (format : Option Expr)
  | joinedStr (span : Span) (values : List Expr)
  | constant (span : Span) (value : Constant) (kind : Option String)
  | attribute (span : Span) (value : Expr) (attr : String)
  | subscript (span : Span) (value index : Expr)
  | starred (span : Span) (value : Expr)
  | name (span : Span) (id : String)
  | list (span : Span) (items : List Expr)
  | tuple (span : Span) (items : List Expr)
  | slice (span : Span) (lower upper step : Option Expr)

/-- A keyword argument, or a double-starred one if it has no name. -/
inductive Keyword where
  | mk (name : Option String) (value : Expr)

/-- A parameter with its default. -/
inductive Parameter where
  | mk (name : String) (default : Option Expr)

/-- An entry of a dictionary display, or a double-starred one if it has no key. -/
inductive DictItem where
  | mk (key : Option Expr) (value : Expr)

/-- A `for` clause of a comprehension with its conditions. -/
inductive Clause where
  | mk (target iter : Expr) (conditions : List Expr)

end

/-- An imported name and what it is bound as. -/
structure Alias where
  name : String
  asName : Option String
  deriving DecidableEq, Repr, Inhabited

def Alias.bound (a : Alias) : String :=
  a.asName.getD a.name

/-- A context manager of a `with` statement. -/
structure WithItem where
  context : Expr
  vars : Option Expr

mutual

/-- A statement. -/
inductive Stmt where
  | functionDef (span : Span) (isAsync : Bool) (name : String) (params : List Parameter)
      (body : List Stmt) (decorators : List Expr)
  | classDef (span : Span) (name : String) (bases : List Expr) (keywords : List Keyword)
      (body : List Stmt) (decorators : List Expr)
  | ret (span : Span) (value : Option Expr)
  | delete (span : Span) (targets : List Expr)
  | assign (span : Span) (targets : List Expr) (value : Expr)
  | typeAlias (span : Span)
  | augAssign (span : Span) (target value : Expr)
  | annAssign (span : Span) (target : Expr) (value : Option Expr)
  | forLoop (span : Span) (isAsync : Bool) (target iter : Expr) (body orelse : List Stmt)
  | whileLoop (span : Span) (test : Expr) (body orelse : List Stmt)
  | ifElse (span : Span) (test : Expr) (body orelse : List Stmt)
  | withBlock (span : Span) (isAsync : Bool) (items : List WithItem) (body : List Stmt)
  | matchCases (span : Span) (subject : Expr) (cases : List MatchCase)
  | raise (span : Span) (exc cause : Option Expr)
  | tryExcept (span : Span) (isStar : Bool) (body : List Stmt) (handlers : List Handler)
      (orelse finalbody : List Stmt)
  | assert (span : Span) (test : Expr) (msg : Option Expr)
  | importNames (span : Span) (names : List Alias)
  | importFrom (span : Span) (module : Option String) (names : List Alias) (level : Nat)
  | scopeNames (span : Span) (names : List String)
  | expr (span : Span) (value : Expr)
  | pass (span : Span)
  | jump (span : Span)

/-- An exception handler. -/
inductive Handler where
  | mk (type : Option Expr) (name : Option String) (body : List Stmt)

/-- A case of a `match` statement with its guard. -/
inductive MatchCase where
  | mk (guard : Option Expr) (body : List Stmt)

end

/-- The dotted text of a chain of names and attributes such as `a.b.c`. -/
def Expr.dotted? : Expr → Option String
  | .name _ id => some id
  | .attribute _ value attr => value.dotted?.map fun base => base ++ "." ++ attr
  | _ => none

def Expr.stringValue? : Expr → Option String
  | .constant _ (.str value) _ => some value
  | _ => none

end SaltConventions
