import SaltConventions.Config.Reader
import SaltConventions.Json.Printer
import SaltConventions.Report

/-!
# The command line

Reading the arguments, and what a run prints and exits with. Arguments are taken from left to right:
the first one that is wrong ends the reading, and so does a request for help or for the version.
-/

namespace SaltConventions.Cli

/-- The options. -/
inductive Flag where
  | config
  | json
  | failOn
  | disable
  | allowed
  | listRules
  | verbose
  | help
  | version
  deriving DecidableEq, Repr, Inhabited

namespace Flag

def all : List Flag :=
  [.config, .json, .failOn, .disable, .allowed, .listRules, .verbose, .help, .version]

def name : Flag → String
  | config => "config"
  | json => "json"
  | failOn => "fail-on"
  | disable => "disable"
  | allowed => "allowed-3rd-party-modules"
  | listRules => "list-rules"
  | verbose => "verbose"
  | help => "help"
  | version => "version"

def letter? : Flag → Option Char
  | config => some 'c'
  | verbose => some 'v'
  | help => some 'h'
  | version => some 'V'
  | _ => none

def takesValue : Flag → Bool
  | config | failOn | disable | allowed => true
  | _ => false

def repeats : Flag → Bool
  | disable | allowed => true
  | _ => false

end Flag

/-- What was asked for. -/
structure Options where
  paths : List Path
  config : Option Path
  json : Bool
  failOn : Option Severity
  disable : List String
  allowed : List String
  listRules : Bool
  verbose : Bool
  deriving DecidableEq, Repr, Inhabited

def Options.none : Options where
  paths := []
  config := Option.none
  json := false
  failOn := Option.none
  disable := []
  allowed := []
  listRules := false
  verbose := false

/-- What the command line asks for. -/
inductive Request where
  | run (options : Options)
  | help
  | version
  deriving DecidableEq, Repr

/-- What has been read so far. -/
structure State where
  options : Options
  seen : List Flag

/-- How reading goes on after an argument: with a new state, or not at all. -/
inductive Step where
  | next (state : State)
  | done (request : Request)

/-- Takes an option without a value. -/
def State.flag? (s : State) (flag : Flag) : Option Step :=
  if s.seen.contains flag then none
  else
    let seen := flag :: s.seen
    match flag with
    | .json => some (.next ⟨{ s.options with json := true }, seen⟩)
    | .listRules => some (.next ⟨{ s.options with listRules := true }, seen⟩)
    | .verbose => some (.next ⟨{ s.options with verbose := true }, seen⟩)
    | .help => some (.done .help)
    | .version => some (.done .version)
    | _ => none

/-- Takes an option with its value. -/
def State.value? (s : State) (flag : Flag) (value : String) : Option State :=
  if s.seen.contains flag && !flag.repeats then none
  else
    let seen := flag :: s.seen
    match flag with
    | .config =>
      if value = "" then none else some ⟨{ s.options with config := some ⟨value⟩ }, seen⟩
    | .failOn =>
      (Severity.parse? value).map fun severity =>
        ⟨{ s.options with failOn := some severity }, seen⟩
    | .disable =>
      some ⟨{ s.options with disable := s.options.disable ++ Text.splitAt ',' value }, seen⟩
    | .allowed =>
      some ⟨{ s.options with allowed := s.options.allowed ++ Text.splitAt ',' value }, seen⟩
    | _ => none

/-- Takes a path, which is not empty. -/
def State.path? (s : State) (text : String) : Option State :=
  if text = "" then none
  else some { s with options := { s.options with paths := s.options.paths ++ [⟨text⟩] } }

def State.paths? (s : State) : List String → Option State
  | [] => some s
  | text :: later =>
    match s.path? text with
    | some next => next.paths? later
    | none => none

/-- An argument by its form. -/
inductive Argument where
  | path (text : String)
  | rest
  | long (name : String) (value : Option String)
  | short (letters : List Char)
  deriving DecidableEq, Repr

/-- The form of an argument: two dashes start a long option, one dash starts letters, and a dash by
itself is a path. -/
def Argument.ofString (text : String) : Argument :=
  match text.toList with
  | ['-', '-'] => .rest
  | '-' :: '-' :: name =>
    let value :=
      match name.dropWhile (· != '=') with
      | [] => none
      | _ :: value => some (String.ofList value)
    .long (String.ofList (name.takeWhile (· != '='))) value
  | '-' :: c :: letters => .short (c :: letters)
  | _ => .path text

/-- Reads letters of options without values, up to one that takes a value: it takes the letters
after it, without an equals sign before them. -/
def readLetters (s : State) : List Char → Option (Step × Option (Flag × Option String))
  | [] => some (.next s, none)
  | c :: later =>
    match Flag.all.find? (·.letter? == some c) with
    | none => none
    | some flag =>
      if flag.takesValue then
        let attached :=
          match later with
          | [] => none
          | '=' :: value => some (String.ofList value)
          | value => some (String.ofList value)
        some (.next s, some (flag, attached))
      else
        match s.flag? flag with
        | none => none
        | some (.next next) => readLetters next later
        | some (.done request) => some (.done request, none)

/-- Whether an argument can be the value of the option before it. -/
def isValue (text : String) : Bool :=
  match Argument.ofString text with
  | .path _ => true
  | _ => false

/-- The request of a state with nothing left to read. -/
def State.request (s : State) : Request :=
  let paths := if s.options.paths.isEmpty then [⟨"."⟩] else s.options.paths
  .run { s.options with paths := paths }

/-- Reads arguments. `waiting` is an option whose value is the next argument. -/
def readArguments (s : State) (waiting : Option Flag) : List String → Option Request
  | [] => if waiting.isSome then none else some s.request
  | text :: later =>
    match waiting with
    | some flag =>
      if isValue text then
        match s.value? flag text with
        | some next => readArguments next none later
        | none => none
      else none
    | none =>
      match Argument.ofString text with
      | .path _ =>
        match s.path? text with
        | some next => readArguments next none later
        | none => none
      | .rest => (s.paths? later).map State.request
      | .long name value =>
        match Flag.all.find? (·.name == name) with
        | none => none
        | some flag =>
          if flag.takesValue then
            match value with
            | none => readArguments s (some flag) later
            | some value =>
              match s.value? flag value with
              | some next => readArguments next none later
              | none => none
          else if value.isSome then none
          else
            match s.flag? flag with
            | none => none
            | some (.next next) => readArguments next none later
            | some (.done request) => some request
      | .short letters =>
        match readLetters s letters with
        | none => none
        | some (.done request, _) => some request
        | some (.next next, none) => readArguments next none later
        | some (.next next, some (flag, none)) => readArguments next (some flag) later
        | some (.next next, some (flag, some value)) =>
          match next.value? flag value with
          | some next => readArguments next none later
          | none => none

def parse? (args : List String) : Option Request :=
  readArguments ⟨.none, []⟩ none args

/-- What a run prints and exits with. -/
structure Outcome where
  exit : Nat
  stdout : String
  stderr : String
  deriving DecidableEq, Repr, Inhabited

def versionText : String := "saltlint-rs 0.1.0\n"

def helpText : String :=
  "Salt coding-convention checks for Python sources\n" ++
  "\n" ++
  "Usage: saltlint [OPTIONS] [PATHS]...\n" ++
  "\n" ++
  "Arguments:\n" ++
  "  [PATHS]...  Files or directories to lint [default: .]\n" ++
  "\n" ++
  "Options:\n" ++
  "  -c, --config <CONFIG>\n" ++
  "          Configuration file. Defaults to `saltlint.toml` in the working directory, " ++
  "if present\n" ++
  "      --json\n" ++
  "          Output raw JSON\n" ++
  "      --fail-on <FAIL_ON>\n" ++
  "          Lowest severity that makes the run exit with status 1\n" ++
  "      --disable <DISABLE>\n" ++
  "          Message codes, symbols or rule names to disable\n" ++
  "      --allowed-3rd-party-modules <ALLOWED_3RD_PARTY_MODULES>\n" ++
  "          Third-party packages allowed without a try/except gate\n" ++
  "      --list-rules\n" ++
  "          Print every rule and message, then exit\n" ++
  "  -v, --verbose\n" ++
  "          Enable debug logging\n" ++
  "  -h, --help\n" ++
  "          Print help\n" ++
  "  -V, --version\n" ++
  "          Print version\n"

def rulesText : String :=
  String.join (catalog.flatMap fun (rule, messages) =>
    (rule ++ "\n") :: messages.map fun m =>
      "  " ++ m.code ++ " (" ++ m.symbol ++ ") " ++ m.description ++ "\n")

/-- The configuration of a run: the named file, else the one in the working directory if there is
one, with the options of the command line on top. -/
def loadConfig (options : Options) (tree : FileTree) (cwd : Path) : Except ConfigError Config := do
  let usual := cwd.join ⟨Config.fileName⟩
  let config ←
    match options.config with
    | some path => Config.fromFile tree path
    | none => if tree.isFile usual then Config.fromFile tree usual else .ok .standard
  return { config with
    failOn := options.failOn.getD config.failOn
    disable := config.disable ++ options.disable
    allowedModules := config.allowedModules ++ options.allowed }

/-- The paths that a command line makes a run look at, besides its working directory, as far as the
configuration can be read from `tree`. -/
def roots (args : List String) (tree : FileTree) (cwd : Path) : List Path :=
  match parse? args with
  | some (.run options) =>
    if options.listRules then []
    else
      let configured :=
        match loadConfig options tree cwd with
        | .ok config => config.modules.stdlibDir.toList ++ config.modules.searchPaths
        | .error _ => []
      options.paths ++ options.config.toList ++ configured
  | _ => []

def loadLinter (options : Options) (tree : FileTree) (cwd : Path) : Except LintError Linter :=
  match loadConfig options tree cwd with
  | .error cause => .error (.config cause)
  | .ok config => Linter.ofConfig config tree cwd

/-- Checks the paths of a command line. The exit status is 1 if a finding is serious enough. -/
def lint (options : Options) (tree : FileTree) (cwd : Path) (parse : Parser) : Outcome :=
  match loadLinter options tree cwd with
  | .error cause => ⟨1, "", "Error: " ++ cause.message ++ "\n"⟩
  | .ok linter =>
    let report := Report.lintPaths linter parse options.paths
    let text := if options.json then report.toJson.pretty ++ "\n" else report.toText
    ⟨if report.hasFailures linter.config.failOn then 1 else 0, text, ""⟩

/-- Runs a command line in a working directory. -/
def run (args : List String) (tree : FileTree) (cwd : Path) (parse : Parser) : Outcome :=
  match parse? args with
  | none => ⟨2, "", "error: invalid command line\n"⟩
  | some .help => ⟨0, helpText, ""⟩
  | some .version => ⟨0, versionText, ""⟩
  | some (.run options) =>
    if options.listRules then ⟨0, rulesText, ""⟩ else lint options tree cwd parse

end SaltConventions.Cli
