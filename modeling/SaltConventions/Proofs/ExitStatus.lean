import SaltConventions.Proofs.FurtherArguments
import SaltConventions.Proofs.RelaxedRuns

/-!
# The exit status

A run whose configuration is accepted exits with 1 if a finding is at least as serious as the
severity to fail on, and with 0 otherwise. It never exits with 1 for having been relaxed.
-/

namespace SaltConventions

/-! ### The severity to fail on -/

/-- The severity to fail on that the text of a configuration gives. -/
def Config.writtenFailOn? (text : String) : Option Severity :=
  (Toml.parse? text).bind fun document =>
    (members? [] document).bind fun members =>
      (members.find? (·.1 == "fail_on")).bind fun member => severity? member.2

namespace Cli

variable {options relaxed : Options} {tree : FileTree} {cwd : Path}

/-- The text of the configuration file of a run, if there is one. -/
def configText? (options : Options) (tree : FileTree) (cwd : Path) : Option String :=
  match options.config with
  | some path => (tree.read path).toOption
  | none =>
    if tree.isFile (cwd.join ⟨Config.fileName⟩) then
      (tree.read (cwd.join ⟨Config.fileName⟩)).toOption
    else none

/-- The severity from which on findings make a run fail: the one asked for, else the one of the
configuration file, else `warning`. -/
def threshold (options : Options) (tree : FileTree) (cwd : Path) : Severity :=
  options.failOn.getD (((configText? options tree cwd).bind Config.writtenFailOn?).getD .warning)

/-- `relaxed` asks for the same paths and the same configuration file, switches off and allows
whatever `options` do, and fails at nothing less serious. -/
structure Options.Relaxes (tree : FileTree) (cwd : Path) (relaxed options : Options) : Prop where
  paths : relaxed.paths = options.paths
  config : relaxed.config = options.config
  disable : options.disable ⊆ relaxed.disable
  allowed : options.allowed ⊆ relaxed.allowed
  threshold : (Cli.threshold options tree cwd).rank ≤ (Cli.threshold relaxed tree cwd).rank

end Cli

end SaltConventions
