import SaltConventions.Loggers
import SaltConventions.Rule
import SaltConventions.Text.Bytes
import SaltConventions.Text.Substitution
import SaltConventions.Text.Word

/-!
# String formatting

Format calls have indexed slots and no `!r` flags, `%` substitution is not used, log messages are
not formatted beforehand, and unicode literals hold no null bytes.
-/

namespace SaltConventions.StringFormatting

def unindexedWarning : Message where
  code := "W1320"
  symbol := "un-indexed-curly-braces-warning"
  template := "String format call with un-indexed curly braces: %r"
  description :=
    "Under python 2.6 the curly braces on a 'string.format()' call MUST be indexed."

def unindexedError : Message where
  code := "E1320"
  symbol := "un-indexed-curly-braces-error"
  template := "String format call with un-indexed curly braces: %r"
  description :=
    "Under python 2.6 the curly braces on a 'string.format()' call MUST be indexed."

def substitutionWarning : Message where
  code := "W1321"
  symbol := "string-substitution-usage-warning"
  template := "String substitution used instead of string formattting on: %r"
  description := "String substitution used instead of string formattting"

def substitutionError : Message where
  code := "E1321"
  symbol := "string-substitution-usage-error"
  template := "String substitution used instead of string formattting on: %r"
  description := "String substitution used instead of string formattting"

/-- The flag `!r` used. -/
def reprFlag : Message where
  code := "E1322"
  symbol := "repr-flag-used-in-string"
  template := "Repr flag (!r) used in string: %r"
  description := "Repr flag (!r) used in string"

/-- A log message formatted beforehand. -/
def formatInLogging : Message where
  code := "E1323"
  symbol := "str-format-in-logging"
  template := "String formatting used in logging: %r"
  description := "String formatting used in logging"

/-- A null byte in a unicode literal. -/
def nullByte : Message where
  code := "E1400"
  symbol := "null-byte-unicode-literal"
  template := "Null byte used in unicode string literal (should be wrapped in str())"
  description := "Null byte used in unicode string literal"

def messages : List Message :=
  [unindexedWarning, unindexedError, substitutionWarning, substitutionError, reprFlag,
    formatInLogging, nullByte]

/-- Whether a text holds a slot without an index: braces with nothing between them, or with `!` and
one word character. -/
def hasUnindexedSlot : List Char → Bool
  | [] => false
  | '{' :: '}' :: _ => true
  | '{' :: '!' :: c :: '}' :: rest => Text.isWord c || hasUnindexedSlot ('!' :: c :: '}' :: rest)
  | _ :: rest => hasUnindexedSlot rest

/-- Whether a text holds the flag `!r` at the end of a slot. -/
def hasReprFlag (text : String) : Bool :=
  Text.occursIn ['!', 'r', '}'] text.toList

/-- The loggers known so far, and how many logger calls enclose the current node. -/
structure State where
  loggers : LoggerNames
  loggerCalls : Nat
  deriving DecidableEq, Repr, Inhabited

def State.initial : State := ⟨.conventional, 0⟩

def checkBinOp (settings : StringSettings) (ctx : FileContext) (start : Nat) (left : Expr)
    (op : BinaryOperator) : List Finding :=
  if op != .mod || !settings.checkSubstitution then []
  else
    match left.stringValue? with
    | none => []
    | some text =>
      match Text.Substitution.hasSlots text with
      | none => []
      | some slots =>
        let message :=
          if settings.substitutionIsError then substitutionError else substitutionWarning
        (if slots then [ctx.findingAt message start [text]] else [])
          ++ (if hasReprFlag text then [ctx.findingAt reprFlag start [text]] else [])

/-- What is found about the string that a format call formats. -/
def checkFormat (settings : StringSettings) (ctx : FileContext) (start : Nat) (text : String) :
    List Finding :=
  let message := if settings.bracesAreErrors then unindexedError else unindexedWarning
  (if hasReprFlag text then [ctx.findingAt reprFlag start [text]] else [])
    ++ (if hasUnindexedSlot text.toList then [ctx.findingAt message start [text]] else [])

def checkCall (settings : StringSettings) (ctx : FileContext) (loggerCalls : Nat) (span : Span) :
    Expr → List Finding
  | .attribute _ value attr =>
    if attr != "format" then []
    else
      let written := (Text.slice? ctx.source span.start span.stop).getD ""
      (if 0 < loggerCalls then [ctx.findingAt formatInLogging span.start [written]] else [])
        ++ (match value.stringValue? with
          | some text => checkFormat settings ctx span.start text
          | none => [])
  | _ => []

/-- What is found about a literal. Its value has escapes resolved, so the literal is looked at as it
is written. -/
def checkConstant (ctx : FileContext) (span : Span) (value : Constant) (kind : Option String) :
    List Finding :=
  match value with
  | .str _ =>
    if kind.any fun k => k == "u" || k == "U" then
      match Text.slice? ctx.source span.start span.stop with
      | some written =>
        if Text.occursIn ['\\', '0'] written.toList then
          [ctx.findingAt nullByte span.start []]
        else []
      | none => []
    else []
  | _ => []

/-- What entering a node does to the state, and what is found about it. -/
def enter (settings : StringSettings) (ctx : FileContext) (node : Node) (state : State) :
    State × List Finding :=
  match node with
  | .module _ => (.initial, [])
  | .importNames _ names => ({ state with loggers := state.loggers.observeImport names }, [])
  | .assign _ targets value =>
    ({ state with loggers := state.loggers.observeAssign targets value }, [])
  | .call span func =>
    let found := checkCall settings ctx state.loggerCalls span func
    if state.loggers.isLoggerCall func then
      ({ state with loggerCalls := state.loggerCalls + 1 }, found)
    else (state, found)
  | .binOp span left op => (state, checkBinOp settings ctx span.start left op)
  | .constant span value kind => (state, checkConstant ctx span value kind)
  | _ => (state, [])

def leave (node : Node) (state : State) : State :=
  match node with
  | .call _ func =>
    if state.loggers.isLoggerCall func then { state with loggerCalls := state.loggerCalls - 1 }
    else state
  | _ => state

def rule (settings : StringSettings) : Rule where
  name := "string"
  messages := messages
  State := State
  initial := .initial
  watcher :=
    { interests := [.module, .importNames, .assign, .call, .binOp, .constant]
      step := fun ctx event state =>
        match event.phase with
        | .enter => enter settings ctx event.node state
        | .leave => (leave event.node state, []) }

end SaltConventions.StringFormatting
