import SaltConventions.Rules.FileMode
import SaltConventions.Rules.Finalizers
import SaltConventions.Rules.MovedTestCases
import SaltConventions.Rules.OpenFiles
import SaltConventions.Rules.PatchedModules
import SaltConventions.Rules.ReplacedFunctions
import SaltConventions.Rules.ReplacedImports
import SaltConventions.Rules.SourceEncoding
import SaltConventions.Rules.StringFormatting
import SaltConventions.Rules.UngatedImports
import SaltConventions.Rules.VirtualLogging

/-!
# The set of rules

All rules in the order they see an event.
-/

namespace SaltConventions

/-- All rules, with the settings of the permission check already read. -/
def rulesWith (config : Config) (expected : Permission) (ignored : List Glob) : List Rule :=
  [ReplacedImports.rule,
    PatchedModules.rule,
    UngatedImports.rule config.allowedModules,
    OpenFiles.rule,
    MovedTestCases.rule,
    ReplacedFunctions.rule config.functions.toMap,
    Finalizers.rule,
    VirtualLogging.rule,
    StringFormatting.rule config.strings,
    FileMode.rule expected ignored,
    SourceEncoding.rule]

/-- The rules of a configuration. Only the settings of the permission check can be wrong. -/
def buildRules (config : Config) : Except ConfigError (List Rule) :=
  match FileMode.readSettings config.permissions with
  | .ok (expected, ignored) => .ok (rulesWith config expected ignored)
  | .error cause => .error cause

def catalog : List (String × List Message) :=
  match buildRules .standard with
  | .ok rules => rules.map fun rule => (rule.name, rule.messages)
  | .error _ => []

end SaltConventions
