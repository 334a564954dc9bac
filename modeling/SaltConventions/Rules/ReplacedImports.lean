import SaltConventions.Bindings
import SaltConventions.Rule

/-!
# Imports that were replaced

Imports of test frameworks and compatibility modules that the project replaced by modules of its
own, with what to import instead. The advice is looked up in two tables, one for `from X import Y`
and one for `import X`; the first row that fits decides, so special rows come before general ones.
-/

namespace SaltConventions.ReplacedImports

def replacedModule : Message where
  code := "E9402"
  symbol := "blacklisted-module"
  template := "Uses of a blacklisted module %r: %s"
  description := "Used when a module marked as blacklisted is imported."

def replacedExternalModule : Message where
  code := "E9403"
  symbol := "blacklisted-external-module"
  template := "Uses of a blacklisted external module %r: %s"
  description := "Used when a third-party module marked as blacklisted is imported."

def replacedImport : Message where
  code := "E9404"
  symbol := "blacklisted-import"
  template := "Uses of a blacklisted import %r: %s"
  description := "Used when a blacklisted module is imported as a whole."

def replacedExternalImport : Message where
  code := "E9405"
  symbol := "blacklisted-external-import"
  template := "Uses of an external blacklisted import %r: %s"
  description := "Used when a blacklisted third-party module is imported as a whole."

def testExecution : Message where
  code := "E9406"
  symbol := "blacklisted-test-module-execution"
  template := "Uses of blacklisted test module execution code: %s"
  description := "Used when a test module imports the standalone test runner."

/-- The helper that changes the module search path imported. -/
def searchPathUpdate : Message where
  code := "E9407"
  symbol := "blacklisted-syspath-update"
  template :=
    "Uses of blacklisted sys.path updating through 'ensure_in_syspath'. " ++
    "Please remove the import and any calls to 'ensure_in_syspath()'."
  description := "Used when a test module manipulates sys.path to find its helpers."

def messages : List Message :=
  [replacedModule, replacedExternalModule, replacedImport, replacedExternalImport, testExecution,
    searchPathUpdate]

/-- The modules whose imports are reported, submodules included. -/
def replacedRoots : List String :=
  ["salttesting", "integration", "unit", "mock", "six", "distutils.version", "unittest",
    "unittest2"]

def unitSymbols : List String :=
  ["TestLoader", "TextTestRunner", "TestCase", "expectedFailure", "TestSuite", "skipIf",
    "TestResult"]

def mixinSymbols : List String :=
  ["SaltReturnAssertsMixin", "SaltMinionEventAssertsMixin"]

def caseSymbols : List String :=
  ["ModuleCase", "SyndicCase", "ShellCase", "SSHCase"]

def pathSymbols : List String :=
  ["SYS_TMP_DIR", "TMP", "FILES", "PYEXEC", "MOCKBIN", "SCRIPT_DIR", "TMP_STATE_TREE",
    "TMP_PRODENV_STATE_TREE", "TMP_CONF_DIR", "TMP_SUB_MINION_CONF_DIR",
    "TMP_SYNDIC_MINION_CONF_DIR", "TMP_SYNDIC_MASTER_CONF_DIR", "CODE_DIR", "TESTS_DIR", "CONF_DIR",
    "PILLAR_DIR", "TMP_SCRIPT_DIR", "ENGINES_DIR", "LOG_HANDLERS_DIR", "INTEGRATION_TEST_DIR"]

/-- Which modules a row is about. -/
inductive ModulePattern where
  | any
  | exactly (module : String)
  | oneOf (modules : List String)
  | within (module : String)
  | underRoot (roots : List String)
  deriving DecidableEq, Repr

/-- Whether a row is about a module that falls under the given root. -/
def ModulePattern.fits (module root : String) : ModulePattern → Bool
  | any => true
  | exactly m => module == m
  | oneOf ms => ms.contains module
  | within m => isWithin module m
  | underRoot roots => roots.contains root

/-- Which imported names a row is about. -/
inductive NamePattern where
  | any
  | exactly (name : String)
  | oneOf (names : List String)
  deriving DecidableEq, Repr

/-- Whether a row is about a name. -/
def NamePattern.fits (name : String) : NamePattern → Bool
  | any => true
  | exactly n => name == n
  | oneOf ns => ns.contains name

/-- A row of the table for `from X import Y`. In the advice `{name}` stands for the imported name
and `{module}` for the module. -/
structure FromRow where
  module : ModulePattern
  name : NamePattern
  message : Message
  advice : String
  deriving DecidableEq, Repr

/-- Modules with mock objects. -/
def mockModules : List String :=
  ["salttesting.mock", "unittest.mock", "unittest2.mock"]

/-- The roots of the project's own tests. -/
def testRoots : List String :=
  ["integration", "unit"]

/-- The table for `from X import Y`. -/
def fromRows : List FromRow :=
  [⟨.exactly "salttesting.helpers", .exactly "ensure_in_syspath", searchPathUpdate, ""⟩,
    ⟨.exactly "salttesting.helpers", .any, replacedModule,
      "Please use 'from tests.support.helpers import {name}'"⟩,
    ⟨.oneOf mockModules, .any, replacedModule,
      "Please use 'from tests.support.mock import {name}'"⟩,
    ⟨.exactly "mock", .any, replacedExternalModule,
      "Please use 'from tests.support.mock import {name}'"⟩,
    ⟨.exactly "salttesting.parser", .any, replacedModule,
      "Please use 'from tests.support.parser import {name}'"⟩,
    ⟨.exactly "salttesting.case", .any, replacedModule,
      "Please use 'from tests.support.case import {name}'"⟩,
    ⟨.exactly "salttesting.unit", .any, replacedModule,
      "Please use 'from tests.support.unit import {name}'"⟩,
    ⟨.within "unittest", .any, replacedModule,
      "Please use 'from tests.support.unit import {name}'"⟩,
    ⟨.within "unittest2", .any, replacedModule,
      "Please use 'from tests.support.unit import {name}'"⟩,
    ⟨.exactly "salttesting.mixins", .any, replacedModule,
      "Please use 'from tests.support.mixins import {name}'"⟩,
    ⟨.exactly "six", .any, replacedModule, "Please use 'from salt.ext.six import {name}'"⟩,
    ⟨.exactly "distutils.version", .any, replacedModule,
      "Please use 'from salt.utils.versions import {name}'"⟩,
    ⟨.any, .oneOf unitSymbols, replacedModule,
      "Please use 'from tests.support.unit import {name}'"⟩,
    ⟨.any, .oneOf mixinSymbols, replacedModule,
      "Please use 'from tests.support.mixins import {name}'"⟩,
    ⟨.any, .oneOf caseSymbols, replacedModule,
      "Please use 'from tests.support.case import {name}'"⟩,
    ⟨.any, .exactly "run_tests", testExecution,
      "Please remove the 'if __name__ == \"__main__\":' section from the end of the module"⟩,
    ⟨.underRoot testRoots, .oneOf pathSymbols, replacedImport,
      "Please use 'from tests.support.paths import {name}'"⟩,
    ⟨.underRoot testRoots, .any, replacedImport,
      "Please use 'from tests.{module} import {name}'"⟩,
    ⟨.any, .any, replacedModule,
      "Please report this error to SaltStack so we can fix it: " ++
      "Trying to import {name} from {module}"⟩]

/-- A row of the table for `import X`: the root it is about, or every root. In the advice `{root}`
stands for the root and `{module}` for the module. -/
structure ImportRow where
  root : Option String
  message : Message
  advice : String
  deriving DecidableEq, Repr

/-- The table for `import X`. -/
def importRows : List ImportRow :=
  [⟨some "integration", replacedImport, "Please use 'import tests.{root} as {root}'"⟩,
    ⟨some "unit", replacedImport, "Please use 'import tests.{root} as {root}'"⟩,
    ⟨some "mock", replacedExternalImport, "Please use 'import tests.support.{root} as {root}'"⟩,
    ⟨some "six", replacedExternalImport, "Please use 'import salt.ext.{module} as {module}'"⟩,
    ⟨some "distutils.version", replacedImport, "Please use 'import salt.utils.versions' instead"⟩,
    ⟨some "unittest", replacedImport,
      "Please use 'import tests.support.unit as {root}' instead"⟩,
    ⟨some "unittest2", replacedImport,
      "Please use 'import tests.support.unit as {root}' instead"⟩,
    ⟨none, replacedImport,
      "Please report this error to SaltStack so we can fix it: Trying to import {module}"⟩]

/-- What to report about one imported name. -/
structure Advice where
  message : Message
  args : List String
  deriving DecidableEq, Repr

/-- The advice that a message gives: as many of the module and the text as it has placeholders for.
-/
def Advice.of (message : Message) (module text : String) : Advice :=
  ⟨message, match message.arity with
    | 0 => []
    | 1 => [text]
    | _ => [module, text]⟩

/-- The longest of some texts; of several, the last. -/
def longest? (texts : List String) : Option String :=
  texts.foldl
    (fun best text =>
      match best with
      | none => some text
      | some other => if other.utf8ByteSize ≤ text.utf8ByteSize then some text else some other)
    none

def rootOf? (module : String) : Option String :=
  longest? (replacedRoots.filter (isWithin module))

/-- An imported name with its alias, as it is written. -/
def shown (a : Alias) : String :=
  match a.asName with
  | some asName => a.name ++ " as " ++ asName
  | none => a.name

/-- The advice for one name of `from module import ...`, if the module falls under `root`. -/
def adviceForName? (module root : String) (a : Alias) : Option Advice :=
  (fromRows.find? fun row => row.module.fits module root && row.name.fits a.name).map fun row =>
    .of row.message module
      (Text.replace "{module}" module (Text.replace "{name}" (shown a) row.advice))

/-- The advice for each name of `from module import ...`. -/
def adviceForFrom (module : String) (names : List Alias) : List Advice :=
  match rootOf? module with
  | none => []
  | some root => names.filterMap (adviceForName? module root)

def adviceForImport? (module : String) : Option Advice :=
  match rootOf? module with
  | none => none
  | some root =>
    (importRows.find? fun row => row.root.all (· == root)).map fun row =>
      .of row.message module
        (Text.replace "{module}" module (Text.replace "{root}" root row.advice))

/-- What is found about one node. Package initializers may import anything, unless they are test
modules. -/
def check (ctx : FileContext) (_ : Scope) (node : Node) : List Finding :=
  if ctx.path.isPackageInit && !ctx.path.isTestModule then []
  else
    match node with
    | .importNames start names =>
      (names.filterMap fun a => adviceForImport? a.name).map fun advice =>
        ctx.findingAt advice.message start advice.args
    | .importFrom start (some module) names 0 =>
      (adviceForFrom module names).map fun advice =>
        ctx.findingAt advice.message start advice.args
    | _ => []

def rule : Rule where
  name := "blacklisted-imports"
  messages := messages
  State := Unit
  initial := ()
  watcher := .onEnter [.importNames, .importFrom] check

end SaltConventions.ReplacedImports
