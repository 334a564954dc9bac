import SaltConventions.FileTree
import SaltConventions.Text.Quoted

/-!
# Errors

What can go wrong, as causes, and the wording of each.
-/

namespace SaltConventions

/-- Why a configuration cannot be used. -/
inductive ConfigError where
  | unreadable (path : Path) (cause : ReadError)
  | malformed
  | permissionRange (text : String)
  | permissionMode (text : String)
  | badGlob (pattern : String)
  | unknownSeverity (text : String)
  deriving DecidableEq, Repr

def ConfigError.message : ConfigError → String
  | unreadable path cause => "failed to read config " ++ path.text ++ ": " ++ cause.message
  | malformed => "failed to parse config"
  | permissionRange text =>
    "Permission ranges should be like XXXX-YYYY, got " ++ Text.quoted text
  | permissionMode text => "invalid permission mode " ++ Text.quoted text
  | badGlob pattern => "invalid glob pattern " ++ Text.quoted pattern
  | unknownSeverity text => "unknown severity " ++ Text.quoted text

/-- Why a module could not be located. -/
inductive ResolveError where
  | notFound (module : String)
  | invalidName (module : String)
  deriving DecidableEq, Repr

def ResolveError.message : ResolveError → String
  | notFound module => "no module named " ++ Text.quoted module
  | invalidName module => "invalid module name " ++ Text.quoted module

/-- Why a file could not be checked. -/
inductive LintError where
  | config (cause : ConfigError)
  | unreadable (path : Path) (cause : ReadError)
  | unparsable (path : Path)
  deriving DecidableEq, Repr

def LintError.message : LintError → String
  | config cause => cause.message
  | unreadable path cause => "IO error on " ++ path.text ++ ": " ++ cause.message
  | unparsable path => "parse error in " ++ path.text

end SaltConventions
