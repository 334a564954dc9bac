import SaltConventions.Diagnostic
import SaltConventions.Event
import SaltConventions.Glob
import SaltConventions.Modules.Environment
import SaltConventions.Text.LineIndex

/-!
# Rules

A rule watches the events of a walk and reports findings. It says which kinds of nodes it is
interested in, keeps a state of its own, and sees nothing of the other rules. Findings become
diagnostics unless their code, symbol or rule is switched off.
-/

namespace SaltConventions

/-- The file that is being checked. A byte order mark is not part of the source. -/
structure FileContext where
  path : Path
  source : String
  hasBom : Bool
  lines : Text.LineIndex
  env : Environment

namespace FileContext

def ofSource (path : Path) (source : String) (hasBom : Bool) (env : Environment) : FileContext :=
  { path, source, hasBom, lines := .ofSource source, env }

end FileContext

def Path.nameMatches (pattern : String) (p : Path) : Bool :=
  match Glob.parse? pattern with
  | some glob => glob.accepts (p.fileName?.getD "")
  | none => false

/-- Whether a file is a test module by its name. -/
def Path.isTestModule (p : Path) : Bool :=
  p.nameMatches "test_*.py*"

/-- Whether a file is a package initializer by its name. -/
def Path.isPackageInit (p : Path) : Bool :=
  p.nameMatches "__init__.py*"

/-- What a rule found: a message for a line, with arguments for its template. -/
structure Finding where
  message : Message
  line : Nat
  args : List String
  deriving DecidableEq, Repr, Inhabited

def FileContext.findingAt (ctx : FileContext) (message : Message) (offset : Nat)
    (args : List String) : Finding :=
  ⟨message, ctx.lines.lineAt offset, args⟩

/-- How the state of a watcher changes with an event of a kind it asks for, and what it finds. -/
structure Watcher (σ : Type) where
  interests : List NodeKind
  step : FileContext → Event → σ → σ × List Finding

namespace Watcher

/-- A watcher that finds what `check` says about each node when it is entered, and keeps no state.
-/
def onEnter (interests : List NodeKind) (check : FileContext → Scope → Node → List Finding) :
    Watcher Unit where
  interests := interests
  step ctx event _ :=
    match event.phase with
    | .enter => ((), check ctx event.scope event.node)
    | .leave => ((), [])

/-- One event: nothing happens unless its node is of a kind asked for. -/
def observe {σ : Type} (w : Watcher σ) (ctx : FileContext) (event : Event) (state : σ) :
    σ × List Finding :=
  if w.interests.contains event.node.kind then w.step ctx event state else (state, [])

/-- All events of a walk: the state after them and the findings in order. -/
def run {σ : Type} (w : Watcher σ) (ctx : FileContext) (events : List Event) (state : σ) :
    σ × List Finding :=
  events.foldl
    (fun done event =>
      let (next, found) := w.observe ctx event done.1
      (next, done.2 ++ found))
    (state, [])

/-- A watcher that finds nothing and keeps every event it sees, the last one first. -/
def recorder (interests : List NodeKind) : Watcher (List Event) where
  interests := interests
  step _ event seen := (event :: seen, [])

end Watcher

/-- A rule: a watcher with a name, the messages it can report, and the state it starts in. -/
structure Rule where
  name : String
  messages : List Message
  State : Type
  initial : State
  watcher : Watcher State

/-- A rule with the state it has come to. -/
structure ActiveRule where
  rule : Rule
  state : rule.State

def Rule.activate (rule : Rule) : ActiveRule :=
  ⟨rule, rule.initial⟩

/-- The diagnostic of a finding, unless it is switched off. -/
def Finding.report (config : Config) (file : Path) (rule : String) (f : Finding) :
    Option Diagnostic :=
  if config.isDisabled f.message.code || config.isDisabled f.message.symbol
      || config.isDisabled rule then
    none
  else
    some {
      code := f.message.code
      symbol := f.message.symbol
      rule := rule
      severity := f.message.severity
      file := file
      line := f.line
      message := f.message.render f.args
      args := f.args }

namespace ActiveRule

/-- One event for one rule. -/
def observe (config : Config) (ctx : FileContext) (event : Event) (active : ActiveRule) :
    ActiveRule × List Diagnostic :=
  let (next, found) := active.rule.watcher.observe ctx event active.state
  (⟨active.rule, next⟩, found.filterMap (Finding.report config ctx.path active.rule.name))

end ActiveRule

/-- One event for all rules, in their order. -/
def dispatch (config : Config) (ctx : FileContext) (event : Event) (rules : List ActiveRule) :
    List ActiveRule × List Diagnostic :=
  let results := rules.map (ActiveRule.observe config ctx event)
  (results.map (·.1), results.flatMap (·.2))

/-- All events of a walk for all rules: the rules after it and the diagnostics in the order they
were reported. -/
def dispatchAll (config : Config) (ctx : FileContext) (events : List Event)
    (rules : List ActiveRule) : List ActiveRule × List Diagnostic :=
  events.foldl
    (fun done event =>
      let (next, reported) := dispatch config ctx event done.1
      (next, done.2 ++ reported))
    (rules, [])

def walkModule (config : Config) (ctx : FileContext) (body : List Stmt) (rules : List ActiveRule) :
    List ActiveRule × List Diagnostic :=
  dispatchAll config ctx (eventsOfModule body) rules

end SaltConventions
