import SaltConventions.Json
import SaltConventions.SyntaxTree
import SaltConventions.Text.Hex

/-!
# Syntax trees as JSON

The form in which a parser hands over syntax trees. A node is an object with its name under `_`, its
byte range under `r` and its parts under their usual names.
-/

namespace SaltConventions

mutual

/-- How many values are nested inside each other. -/
def Json.depth : Json → Nat
  | .array items => depthOfItems items + 1
  | .object members => depthOfMembers members + 1
  | _ => 1

/-- The greatest depth of some values. -/
def depthOfItems : List Json → Nat
  | [] => 0
  | item :: later => max item.depth (depthOfItems later)

/-- The greatest depth of the values of some members. -/
def depthOfMembers : List (String × Json) → Nat
  | [] => 0
  | (_, value) :: later => max value.depth (depthOfMembers later)

end

namespace Exchange

/-- Reads a member that may be null or missing. -/
def optional {α : Type} (read : Json → Option α) (name : String) (j : Json) : Option (Option α) :=
  match j.get? name with
  | none => some none
  | some .null => some none
  | some value => (read value).map some

def required {α : Type} (read : Json → Option α) (name : String) (j : Json) : Option α :=
  (j.get? name).bind read

def list {α : Type} (read : Json → Option α) (name : String) (j : Json) : Option (List α) :=
  ((j.get? name).bind Json.items?).bind (·.mapM read)

/-- Reads the name of a node. -/
def tag? (j : Json) : Option String :=
  required Json.text? "_" j

def span? (j : Json) : Option Span :=
  match j.get? "r" with
  | some (.array [start, stop]) =>
    match start.nat?, stop.nat? with
    | some start, some stop => some ⟨start, stop⟩
    | _, _ => none
  | _ => none

def bool? : Json → Option Bool
  | .bool value => some value
  | _ => none

def constant? : (depth : Nat) → Json → Option Constant
  | 0, _ => none
  | depth + 1, j => do
    match ← required Json.text? "t" j with
    | "None" => return .none
    | "Ellipsis" => return .ellipsis
    | "Bool" => return .bool (← required bool? "v" j)
    | "Str" => return .str (← required Json.text? "v" j)
    | "Bytes" => return .bytes (← Text.bytesOfHex? (← required Json.text? "v" j).toList)
    | "Int" => return .int (← required Json.text? "v" j)
    | "Float" => return .float (← required Json.text? "v" j)
    | "Complex" => return .complex (← required Json.text? "v" j)
    | "Tuple" => return .tuple (← list (constant? depth) "v" j)
    | _ => none

def operator? (j : Json) : Option BinaryOperator := do
  match ← j.text? with
  | "Add" => return .add
  | "Sub" => return .sub
  | "Mult" => return .mult
  | "MatMult" => return .matMult
  | "Div" => return .div
  | "Mod" => return .mod
  | "Pow" => return .pow
  | "LShift" => return .lShift
  | "RShift" => return .rShift
  | "BitOr" => return .bitOr
  | "BitXor" => return .bitXor
  | "BitAnd" => return .bitAnd
  | "FloorDiv" => return .floorDiv
  | _ => none

def alias? (j : Json) : Option Alias := do
  return ⟨← required Json.text? "name" j, ← optional Json.text? "asname" j⟩

def keyword? (expr : Json → Option Expr) (j : Json) : Option Keyword := do
  return .mk (← optional Json.text? "arg" j) (← required expr "value" j)

def parameter? (expr : Json → Option Expr) (j : Json) : Option Parameter := do
  let name ← required (required Json.text? "arg") "def" j
  return .mk name (← optional expr "default" j)

/-- Reads the parameters of a function or lambda: positional-only, positional, keyword-only. -/
def parameters? (expr : Json → Option Expr) (j : Json) : Option (List Parameter) := do
  let positionalOnly ← list (parameter? expr) "posonlyargs" j
  let positional ← list (parameter? expr) "args" j
  let keywordOnly ← list (parameter? expr) "kwonlyargs" j
  return positionalOnly ++ positional ++ keywordOnly

def clause? (expr : Json → Option Expr) (j : Json) : Option Clause := do
  return .mk (← required expr "target" j) (← required expr "iter" j) (← list expr "ifs" j)

/-- Reads a key, which is null for a double-starred entry. -/
def key? (expr : Json → Option Expr) : Json → Option (Option Expr)
  | .null => some none
  | j => (expr j).map some

def dictItems? (expr : Json → Option Expr) (j : Json) : Option (List DictItem) := do
  let keys ← list (key? expr) "keys" j
  let values ← list expr "values" j
  return List.zipWith DictItem.mk keys values

def expr? : (depth : Nat) → Json → Option Expr
  | 0, _ => none
  | depth + 1, j => do
    let span ← span? j
    let expr := expr? depth
    match ← tag? j with
    | "BoolOp" => return .boolOp span (← list expr "values" j)
    | "NamedExpr" => return .namedExpr span (← required expr "target" j) (← required expr "value" j)
    | "BinOp" =>
      return .binOp span (← required expr "left" j) (← required operator? "op" j)
        (← required expr "right" j)
    | "UnaryOp" => return .unaryOp span (← required expr "operand" j)
    | "Lambda" =>
      return .lambda span (← required (parameters? expr) "args" j) (← required expr "body" j)
    | "IfExp" =>
      return .ifExp span (← required expr "test" j) (← required expr "body" j)
        (← required expr "orelse" j)
    | "Dict" => return .dict span (← dictItems? expr j)
    | "Set" => return .set span (← list expr "elts" j)
    | "ListComp" =>
      return .listComp span (← required expr "elt" j) (← list (clause? expr) "generators" j)
    | "SetComp" =>
      return .setComp span (← required expr "elt" j) (← list (clause? expr) "generators" j)
    | "DictComp" =>
      return .dictComp span (← required expr "key" j) (← required expr "value" j)
        (← list (clause? expr) "generators" j)
    | "GeneratorExp" =>
      return .generator span (← required expr "elt" j) (← list (clause? expr) "generators" j)
    | "Await" => return .await span (← required expr "value" j)
    | "Yield" => return .yield span (← optional expr "value" j)
    | "YieldFrom" => return .yieldFrom span (← required expr "value" j)
    | "Compare" => return .compare span (← required expr "left" j) (← list expr "comparators" j)
    | "Call" =>
      return .call span (← required expr "func" j) (← list expr "args" j)
        (← list (keyword? expr) "keywords" j)
    | "FormattedValue" =>
      return .formattedValue span (← required expr "value" j) (← optional expr "format_spec" j)
    | "JoinedStr" => return .joinedStr span (← list expr "values" j)
    | "Constant" =>
      return .constant span (← required (constant? depth) "value" j)
        (← optional Json.text? "kind" j)
    | "Attribute" =>
      return .attribute span (← required expr "value" j) (← required Json.text? "attr" j)
    | "Subscript" =>
      return .subscript span (← required expr "value" j) (← required expr "slice" j)
    | "Starred" => return .starred span (← required expr "value" j)
    | "Name" => return .name span (← required Json.text? "id" j)
    | "List" => return .list span (← list expr "elts" j)
    | "Tuple" => return .tuple span (← list expr "elts" j)
    | "Slice" =>
      return .slice span (← optional expr "lower" j) (← optional expr "upper" j)
        (← optional expr "step" j)
    | _ => none

def withItem? (expr : Json → Option Expr) (j : Json) : Option WithItem := do
  return ⟨← required expr "context_expr" j, ← optional expr "optional_vars" j⟩

def handler? (expr : Json → Option Expr) (stmt : Json → Option Stmt) (j : Json) :
    Option Handler := do
  return .mk (← optional expr "type_" j) (← optional Json.text? "name" j) (← list stmt "body" j)

def matchCase? (expr : Json → Option Expr) (stmt : Json → Option Stmt) (j : Json) :
    Option MatchCase := do
  return .mk (← optional expr "guard" j) (← list stmt "body" j)

def stmt? : (depth : Nat) → Json → Option Stmt
  | 0, _ => none
  | depth + 1, j => do
    let span ← span? j
    let expr := expr? depth
    let stmt := stmt? depth
    let function (isAsync : Bool) : Option Stmt := do
      return .functionDef span isAsync (← required Json.text? "name" j)
        (← required (parameters? expr) "args" j) (← list stmt "body" j)
        (← list expr "decorator_list" j)
    let forLoop (isAsync : Bool) : Option Stmt := do
      return .forLoop span isAsync (← required expr "target" j) (← required expr "iter" j)
        (← list stmt "body" j) (← list stmt "orelse" j)
    let withBlock (isAsync : Bool) : Option Stmt := do
      return .withBlock span isAsync (← list (withItem? expr) "items" j) (← list stmt "body" j)
    let tryExcept (isStar : Bool) : Option Stmt := do
      return .tryExcept span isStar (← list stmt "body" j)
        (← list (handler? expr stmt) "handlers" j) (← list stmt "orelse" j)
        (← list stmt "finalbody" j)
    match ← tag? j with
    | "FunctionDef" => function false
    | "AsyncFunctionDef" => function true
    | "ClassDef" =>
      return .classDef span (← required Json.text? "name" j) (← list expr "bases" j)
        (← list (keyword? expr) "keywords" j) (← list stmt "body" j)
        (← list expr "decorator_list" j)
    | "Return" => return .ret span (← optional expr "value" j)
    | "Delete" => return .delete span (← list expr "targets" j)
    | "Assign" => return .assign span (← list expr "targets" j) (← required expr "value" j)
    | "TypeAlias" => return .typeAlias span
    | "AugAssign" => return .augAssign span (← required expr "target" j) (← required expr "value" j)
    | "AnnAssign" => return .annAssign span (← required expr "target" j) (← optional expr "value" j)
    | "For" => forLoop false
    | "AsyncFor" => forLoop true
    | "While" =>
      return .whileLoop span (← required expr "test" j) (← list stmt "body" j)
        (← list stmt "orelse" j)
    | "If" =>
      return .ifElse span (← required expr "test" j) (← list stmt "body" j) (← list stmt "orelse" j)
    | "With" => withBlock false
    | "AsyncWith" => withBlock true
    | "Match" =>
      return .matchCases span (← required expr "subject" j)
        (← list (matchCase? expr stmt) "cases" j)
    | "Raise" => return .raise span (← optional expr "exc" j) (← optional expr "cause" j)
    | "Try" => tryExcept false
    | "TryStar" => tryExcept true
    | "Assert" => return .assert span (← required expr "test" j) (← optional expr "msg" j)
    | "Import" => return .importNames span (← list alias? "names" j)
    | "ImportFrom" =>
      return .importFrom span (← optional Json.text? "module" j) (← list alias? "names" j)
        ((← optional Json.nat? "level" j).getD 0)
    | "Global" => return .scopeNames span (← list Json.text? "names" j)
    | "Nonlocal" => return .scopeNames span (← list Json.text? "names" j)
    | "Expr" => return .expr span (← required expr "value" j)
    | "Pass" => return .pass span
    | "Break" => return .jump span
    | "Continue" => return .jump span
    | _ => none

end Exchange

def Expr.ofJson? (j : Json) : Option Expr :=
  Exchange.expr? j.depth j

def Stmt.listOfJson? (j : Json) : Option (List Stmt) :=
  j.items?.bind (·.mapM (Exchange.stmt? j.depth))

end SaltConventions
