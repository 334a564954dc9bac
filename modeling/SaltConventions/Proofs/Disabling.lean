import SaltConventions.Proofs.Dispatch
import SaltConventions.Proofs.StableOrder

/-!
# Switching off messages

Keys that a configuration switches off are looked at in one place only, where a finding becomes a
diagnostic. The states of the rules never depend on them. So a run with further keys switched off
is the same run with the diagnostics that they name left out.
-/

namespace SaltConventions

open Suppression (covers)

def Config.disabling (config : Config) (keys : List String) : Config :=
  { config with disable := config.disable ++ keys }

lemma Config.isDisabled_disabling (config : Config) (keys : List String) (key : String) :
    (config.disabling keys).isDisabled key =
      (config.isDisabled key || (keys.contains key || keys.contains "all")) := by
  have hkeys : (keys.any fun d => d == key || d == "all") =
      (keys.contains key || keys.contains "all") := by
    rw [Bool.eq_iff_iff]
    simp [and_or_left, exists_or]
  rw [isDisabled, disabling, List.any_append, hkeys]
  rfl

lemma Finding.report_disabling (config : Config) (keys : List String) (file : Path) (rule : String)
    (f : Finding) :
    f.report (config.disabling keys) file rule =
      (f.report config file rule).filter fun d => !covers keys d := by
  simp only [Finding.report, Config.isDisabled_disabling]
  by_cases hconfig : config.isDisabled f.message.code || config.isDisabled f.message.symbol
      || config.isDisabled rule
  · rw [if_pos hconfig, if_pos (by grind)]
    rfl
  · rw [if_neg hconfig]
    cases hkeys : keys.contains "all" || keys.contains f.message.code
        || keys.contains f.message.symbol || keys.contains rule with
    | true =>
      rw [if_pos (by grind), Option.filter_some, covers, hkeys]
      rfl
    | false =>
      rw [if_neg (by grind), Option.filter_some, covers, hkeys]
      rfl

/-! ### Two runs in step -/

lemma ActiveRule.observe_disabling (config : Config) (keys : List String) (ctx : FileContext)
    (event : Event) (active : ActiveRule) :
    active.observe (config.disabling keys) ctx event =
      ((active.observe config ctx event).1,
        (active.observe config ctx event).2.filter fun d => !covers keys d) := by
  have hreport : Finding.report (config.disabling keys) ctx.path active.rule.name = fun f =>
      (f.report config ctx.path active.rule.name).filter fun d => !covers keys d := by
    funext f
    exact f.report_disabling config keys ctx.path active.rule.name
  simp only [ActiveRule.observe, hreport, List.filter_filterMap]

lemma dispatch_disabling (config : Config) (keys : List String) (ctx : FileContext) (event : Event)
    (rules : List ActiveRule) :
    dispatch (config.disabling keys) ctx event rules =
      ((dispatch config ctx event rules).1,
        (dispatch config ctx event rules).2.filter fun d => !covers keys d) := by
  induction rules with
  | nil => rfl
  | cons active later ih =>
    rw [dispatch_cons, dispatch_cons, ih, active.observe_disabling, List.filter_append]

theorem dispatchAll_disabling (config : Config) (keys : List String) (ctx : FileContext)
    (events : List Event) (rules : List ActiveRule) :
    dispatchAll (config.disabling keys) ctx events rules =
      ((dispatchAll config ctx events rules).1,
        (dispatchAll config ctx events rules).2.filter fun d => !covers keys d) := by
  induction events generalizing rules with
  | nil => rfl
  | cons event later ih =>
    rw [dispatchAll_cons, dispatchAll_cons, dispatch_disabling, ih, List.filter_append]

/-! ### The whole way from a source text -/

lemma Suppression.apply_filter (source : String) (keep : Diagnostic → Bool)
    (found : List Diagnostic) :
    apply source (found.filter keep) = (apply source found).filter keep := by
  simp only [apply, List.filter_filter, Bool.and_comm]

def Linter.disabling (linter : Linter) (keys : List String) : Linter :=
  { linter with config := linter.config.disabling keys }

lemma Linter.ofConfig_disabling (config : Config) (keys : List String) (tree : FileTree)
    (cwd : Path) :
    Linter.ofConfig (config.disabling keys) tree cwd =
      (Linter.ofConfig config tree cwd).map (Linter.disabling · keys) := by
  have henv : Environment.ofConfig (config.disabling keys) tree cwd =
      Environment.ofConfig config tree cwd := rfl
  have hrules : buildRules (config.disabling keys) = buildRules config := rfl
  unfold Linter.ofConfig
  rw [henv, hrules]
  cases Environment.ofConfig config tree cwd with
  | error cause => rfl
  | ok env =>
    cases buildRules config with
    | error cause => rfl
    | ok rules => rfl

theorem Linter.lintSource_disabling (linter : Linter) (keys : List String) (parse : Parser)
    (path : Path) (source : String) :
    (linter.disabling keys).lintSource parse path source =
      (linter.lintSource parse path source).map (List.filter fun d => !covers keys d) := by
  unfold lintSource
  cases hparse : parse (stripBom source).1 with
  | none => simp only [hparse, Except.map]
  | some body =>
    have hwalk := dispatchAll_disabling linter.config keys
      (.ofSource path (stripBom source).1 (stripBom source).2 linter.env) (eventsOfModule body)
      (linter.rules.map Rule.activate)
    simp only [hparse, Except.map, Linter.disabling, walkModule, hwalk]
    rw [Suppression.apply_filter, mergeSort_filter beforeInFile_trans beforeInFile_total]

/-- Checks a source text with a configuration in a file tree. -/
def lintUnder (config : Config) (tree : FileTree) (cwd : Path) (parse : Parser) (path : Path)
    (source : String) : Except LintError (List Diagnostic) :=
  (Linter.ofConfig config tree cwd).bind fun linter => linter.lintSource parse path source

/-- Switching off further keys leaves out the diagnostics that they name by code, symbol or rule, or
all of them, and does nothing else. -/
theorem lintUnder_disabling (config : Config) (keys : List String) (tree : FileTree) (cwd : Path)
    (parse : Parser) (path : Path) (source : String) :
    lintUnder (config.disabling keys) tree cwd parse path source =
      (lintUnder config tree cwd parse path source).map (List.filter fun d => !covers keys d) ∧
    ∀ other : Diagnostic → Bool,
      (lintUnder (config.disabling keys) tree cwd parse path source).map
          (List.filter fun d => other d && !covers keys d) =
        (lintUnder config tree cwd parse path source).map
          (List.filter fun d => other d && !covers keys d) := by
  have hruns : lintUnder (config.disabling keys) tree cwd parse path source =
      (lintUnder config tree cwd parse path source).map (List.filter fun d => !covers keys d) := by
    unfold lintUnder
    rw [Linter.ofConfig_disabling]
    cases Linter.ofConfig config tree cwd with
    | error cause => rfl
    | ok linter => exact linter.lintSource_disabling keys parse path source
  refine ⟨hruns, fun other => ?_⟩
  rw [hruns]
  cases lintUnder config tree cwd parse path source with
  | error cause => rfl
  | ok found =>
    simp only [Except.map, List.filter_filter, Bool.and_assoc, Bool.and_self]

end SaltConventions
