import SaltConventions.Bindings
import SaltConventions.Rule

/-!
# Test case classes that moved

Base classes and mixins of tests that are imported from, or used under, their former place.
-/

namespace SaltConventions.MovedTestCases

def movedClass : Message where
  code := "E9490"
  symbol := "moved-test-case-class"
  template := "Moved test case base class detected. %s"
  description := "Moved test case base class detected."

def movedMixin : Message where
  code := "E9491"
  symbol := "moved-test-case-mixin"
  template := "Moved test case mixin class detected. %s"
  description := "Moved test case mixin class detected."

def messages : List Message :=
  [movedClass, movedMixin]

def caseClasses : List String :=
  ["ModuleCase", "SyndicCase", "ShellCase", "SSHCase"]

def mixins : List String :=
  ["AdaptedConfigurationTestCaseMixin", "ShellCaseCommonTestsMixin", "SaltMinionEventAssertsMixin"]

/-- The message and the new place of a base class. -/
def movedBase? (name : String) : Option (Message × String) :=
  if name = "TestCase" then some (movedClass, "tests.support.unit")
  else if caseClasses.contains name then some (movedClass, "tests.support.case")
  else if mixins.contains name then some (movedMixin, "tests.support.mixins")
  else none

/-- The advice for a class imported from its former place. -/
def importAdvice (a : Alias) : String :=
  match a.asName with
  | some asName =>
    "Please use 'from tests.support.case import " ++ a.name ++ " as " ++ asName ++ "'"
  | none => "Please use 'from tests.support.case import " ++ a.name ++ "'"

/-- What is found about a base class. Only attributes are looked at, because plain names are found
where they are imported. -/
def checkBase (ctx : FileContext) (start : Nat) : Expr → Option Finding
  | .attribute _ _ name =>
    (movedBase? name).map fun (message, place) =>
      ctx.findingAt message start ["Please use 'from " ++ place ++ " import " ++ name ++ "'"]
  | _ => none

def check (ctx : FileContext) (_ : Scope) (node : Node) : List Finding :=
  match node with
  | .importFrom start (some module) names _ =>
    if ctx.path.isTestModule && isWithin module "tests.integration" then
      (names.filter fun a => caseClasses.contains a.name).map fun a =>
        ctx.findingAt movedClass start [importAdvice a]
    else []
  | .classDef start _ bases => bases.filterMap (checkBase ctx start)
  | _ => []

def rule : Rule where
  name := "moved-test-case-class"
  messages := messages
  State := Unit
  initial := ()
  watcher := .onEnter [.importFrom, .classDef] check

end SaltConventions.MovedTestCases
