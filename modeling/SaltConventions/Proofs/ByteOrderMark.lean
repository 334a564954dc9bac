import Mathlib.Tactic.Lemma
import SaltConventions.Proofs.Disabling
import SaltConventions.Proofs.Enumeration
import SaltConventions.Proofs.MessageCodes

/-!
# Byte order marks

A byte order mark is taken off before a text is read, so lines, offsets and directives are those of
the text without it. Of the rules only the one about encodings asks whether there was a mark, and
only when the module is entered: it may have one more message then. So a text behind a mark has the
diagnostics that it has without, and at most one more.
-/

namespace SaltConventions

/-! ### One more element -/

/-- The second list is the first one, or the first one with `a` somewhere in it. -/
def AtMostInserts {α : Type} (a : α) (xs ys : List α) : Prop :=
  ys = xs ∨ ∃ before after, xs = before ++ after ∧ ys = before ++ a :: after

namespace AtMostInserts

variable {α β : Type} {a : α} {xs ys : List α}

lemma append (h : AtMostInserts a xs ys) (front back : List α) :
    AtMostInserts a (front ++ xs ++ back) (front ++ ys ++ back) := by
  rcases h with rfl | ⟨before, after, rfl, rfl⟩
  · exact .inl rfl
  · exact .inr ⟨front ++ before, after ++ back, by simp, by simp⟩

lemma filterMap (h : AtMostInserts a xs ys) {f : α → Option β} {b : β}
    (hf : ∀ c, f a = some c → c = b) : AtMostInserts b (xs.filterMap f) (ys.filterMap f) := by
  rcases h with rfl | ⟨before, after, rfl, rfl⟩
  · exact .inl rfl
  · rw [List.filterMap_append, List.filterMap_append]
    cases ha : f a with
    | none => exact .inl (by rw [List.filterMap_cons_none ha])
    | some c =>
      obtain rfl := hf c ha
      exact .inr ⟨_, _, rfl, by rw [List.filterMap_cons_some ha]⟩

lemma filter (h : AtMostInserts a xs ys) (keep : α → Bool) :
    AtMostInserts a (xs.filter keep) (ys.filter keep) := by
  simp only [← List.filterMap_eq_filter]
  exact h.filterMap fun c hc => (Option.guard_eq_some_iff.mp hc).1.symm

lemma mergeSort [DecidableEq α] {le : α → α → Bool}
    (htrans : ∀ a b c, le a b = true → le b c = true → le a c = true)
    (htotal : ∀ a b, (le a b || le b a) = true) (h : AtMostInserts a xs ys) (ha : a ∉ xs) :
    AtMostInserts a (xs.mergeSort le) (ys.mergeSort le) := by
  rcases h with rfl | ⟨before, after, rfl, rfl⟩
  · exact .inl rfl
  have hothers : ∀ front back : List α, a ∉ front ++ back →
      (front ++ a :: back).filter (· ≠ a) = front ++ back := by
    intro front back hnot
    rw [List.filter_append, List.filter_cons_of_neg (by simp), ← List.filter_append,
      List.filter_eq_self]
    exact fun b hb => decide_eq_true fun hba => hnot (hba ▸ hb)
  have hmem : a ∈ (before ++ a :: after).mergeSort le := List.mem_mergeSort.mpr (by simp)
  obtain ⟨front, back, hsplit⟩ := List.append_of_mem hmem
  have hperm := List.mergeSort_perm (before ++ a :: after) le
  rw [hsplit] at hperm
  have hrest : (front ++ back).Perm (before ++ after) :=
    (List.perm_middle.symm.trans (hperm.trans List.perm_middle)).cons_inv
  have hsorted := mergeSort_filter htrans htotal (· ≠ a) (before ++ a :: after)
  have hnot : a ∉ front ++ back := fun hfound => ha (hrest.subset hfound)
  rw [hothers before after ha, hsplit, hothers front back hnot] at hsorted
  exact .inr ⟨front, back, hsorted, hsplit⟩

end AtMostInserts

/-! ### Rules and the mark -/

/-- The same file behind a byte order mark. -/
def FileContext.marked (ctx : FileContext) : FileContext :=
  { ctx with hasBom := true }

/-- A rule that does the same at an event whether or not there is a mark. -/
def Rule.IgnoresMarkAt (rule : Rule) (event : Event) : Prop :=
  ∀ ctx : FileContext, rule.watcher.step ctx.marked event = rule.watcher.step ctx event

lemma PatchedModules.ignoresMarkAt (event : Event) : PatchedModules.rule.IgnoresMarkAt event := by
  intro ctx
  have hfinding : ctx.marked.findingAt = ctx.findingAt := rfl
  have htargets : checkTargets ctx.marked = checkTargets ctx := by
    funext imports targets
    exact checkTargets_congr hfinding imports targets
  funext (imports : Bindings)
  simp only [rule, enter, htargets]
  rfl

lemma SourceEncoding.ignoresMarkAt {event : Event}
    (h : event.phase = .enter → event.node.kind ≠ .module) : rule.IgnoresMarkAt event := by
  intro ctx
  refine Watcher.step_onEnter_congr fun henter => ?_
  cases hnode : event.node with
  | module body => exact absurd (by rw [hnode]; rfl) (h henter)
  | _ => rfl

/-- The rule about encodings comes last, and no rule before it looks at the mark at all. -/
lemma exists_rules_before_encodings (config : Config) (expected : Permission) (ignored : List Glob) :
    ∃ front, rulesWith config expected ignored = front ++ [SourceEncoding.rule] ∧
      ∀ rule ∈ front, ∀ event, rule.IgnoresMarkAt event := by
  refine ⟨(rulesWith config expected ignored).dropLast, rfl, ?_⟩
  simp only [rulesWith, List.dropLast, List.forall_mem_cons]
  exact ⟨fun _ _ => rfl, PatchedModules.ignoresMarkAt, fun _ _ => rfl, fun _ _ => rfl,
    fun _ _ => rfl, fun _ _ => rfl, fun _ _ => rfl, fun _ _ => rfl, fun _ _ => rfl,
    fun _ _ => rfl, fun _ hmem => absurd hmem List.not_mem_nil⟩

lemma dispatch_marked {event : Event} {rules : List ActiveRule}
    (h : ∀ active ∈ rules, active.rule.IgnoresMarkAt event) (config : Config) (ctx : FileContext) :
    dispatch config ctx.marked event rules = dispatch config ctx event rules := by
  refine dispatch_of_observe_eq fun active hactive => ?_
  simp only [ActiveRule.observe, Watcher.observe, h active hactive ctx]
  rfl

lemma dispatchAll_marked {events : List Event} {rules : List ActiveRule}
    (h : ∀ active ∈ rules, ∀ event ∈ events, active.rule.IgnoresMarkAt event) (config : Config)
    (ctx : FileContext) :
    dispatchAll config ctx.marked events rules = dispatchAll config ctx events rules := by
  induction events generalizing rules with
  | nil => rfl
  | cons event later ih =>
    have hevent := dispatch_marked (fun active hactive => h active hactive event List.mem_cons_self)
      config ctx
    have hlater := forall_mem_dispatch (P := fun rule => ∀ e ∈ later, rule.IgnoresMarkAt e)
      (fun active hactive e he => h active hactive e (List.mem_cons_of_mem _ he)) config ctx event
    rw [dispatchAll_cons, dispatchAll_cons, hevent, ih hlater]

/-! ### What the rule about encodings adds -/

/-- The warning about a mark in front of a text that declares another encoding. -/
def mismatchWarning (path : Path) : Diagnostic :=
  Finding.diagnostic path "pep263" ⟨SourceEncoding.encodingMismatch, 1, []⟩

namespace SourceEncoding

lemma checkSource_marked (source : String) :
    AtMostInserts encodingMismatch (checkSource source false) (checkSource source true) := by
  have hmiddle : ∀ amiss : Bool,
      AtMostInserts encodingMismatch [] (if amiss then [encodingMismatch] else []) := by
    intro amiss
    cases amiss with
    | false => exact .inl rfl
    | true => exact .inr ⟨[], [], rfl, rfl⟩
  exact (hmiddle _).append _ _

lemma code_of_mem_checkSource {source : String} {message : Message}
    (h : message ∈ checkSource source false) : message.code ≠ "W9902" := by
  simp only [checkSource, Bool.false_and, List.append_assoc, List.mem_append,
    List.mem_ite_nil_right, List.mem_singleton] at h
  rcases h with ⟨-, rfl⟩ | ⟨hfalse, -⟩ | h
  · decide
  · cases hfalse
  · split at h
    · obtain rfl := List.mem_singleton.mp h
      split <;> decide
    · rw [List.mem_ite_nil_left] at h
      obtain rfl := List.mem_singleton.mp h.2
      decide

lemma dispatch_fst (config : Config) (ctx : FileContext) (event : Event) :
    (dispatch config ctx event [rule.activate]).1 = [rule.activate] := rfl

lemma dispatch_enter (config : Config) (ctx : FileContext) (body : List Stmt)
    (scope : Scope) :
    (dispatch config ctx ⟨.enter, .module body, scope⟩ [rule.activate]).2 =
      (checkSource ctx.source ctx.hasBom).filterMap fun message =>
        Finding.report config ctx.path rule.name ⟨message, 1, []⟩ := by
  have hobserve : rule.watcher.observe ctx ⟨.enter, .module body, scope⟩ rule.initial =
      (rule.initial, check ctx scope (.module body)) := rfl
  have hnone : (dispatch config ctx ⟨.enter, .module body, scope⟩ []).2 = [] := rfl
  rw [dispatch_cons, hnone, List.append_nil]
  simp only [ActiveRule.observe, Rule.activate, hobserve, check, List.filterMap_map]
  rfl

lemma dispatch_enter_marked (config : Config) {ctx : FileContext} (hctx : ctx.hasBom = false)
    (body : List Stmt) (scope : Scope) :
    AtMostInserts (mismatchWarning ctx.path)
      (dispatch config ctx ⟨.enter, .module body, scope⟩ [rule.activate]).2
      (dispatch config ctx.marked ⟨.enter, .module body, scope⟩ [rule.activate]).2 := by
  have hbom : ctx.marked.hasBom = true := rfl
  have hsource : ctx.marked.source = ctx.source := rfl
  have hpath : ctx.marked.path = ctx.path := rfl
  rw [dispatch_enter, dispatch_enter, hctx, hbom, hsource, hpath]
  refine (checkSource_marked ctx.source).filterMap fun d hd => ?_
  exact (Finding.report_eq_some_iff.mp hd).2.symm

end SourceEncoding

/-! ### Walking and linting -/

lemma exists_eventsOfModule_eq_cons (body : List Stmt) :
    ∃ later, eventsOfModule body = ⟨.enter, .module body, ScopeTracker.empty.scope⟩ :: later ∧
      ∀ event ∈ later, event.phase = .enter → event.node.kind ≠ .module := by
  refine ⟨_, eventsOfModule_eq body, fun event hevent henter => ?_⟩
  rcases List.mem_append.mp hevent with hevent | hevent
  · exact kind_of_mem_walkAll_body hevent
  · obtain rfl := List.mem_singleton.mp hevent
    cases henter

theorem walkModule_marked {config : Config} {rules : List Rule}
    (hrules : buildRules config = .ok rules) {ctx : FileContext} (hctx : ctx.hasBom = false)
    (body : List Stmt) :
    AtMostInserts (mismatchWarning ctx.path)
      (walkModule config ctx body (rules.map Rule.activate)).2
      (walkModule config ctx.marked body (rules.map Rule.activate)).2 := by
  obtain ⟨expected, ignored, -, rfl⟩ := buildRules_eq_ok_iff.mp hrules
  obtain ⟨front, hfront, hignores⟩ := exists_rules_before_encodings config expected ignored
  obtain ⟨later, hevents, hlater⟩ := exists_eventsOfModule_eq_cons body
  let enter : Event := ⟨.enter, .module body, ScopeTracker.empty.scope⟩
  let early := front.map Rule.activate
  let encodings := [SourceEncoding.rule.activate]
  have hactive : (rulesWith config expected ignored).map Rule.activate = early ++ encodings := by
    rw [hfront, List.map_append]
    rfl
  have hfrontIgnores : ∀ active ∈ early, ∀ event, active.rule.IgnoresMarkAt event := by
    intro active hmem event
    obtain ⟨rule, hrule, rfl⟩ := List.mem_map.mp hmem
    exact hignores rule hrule event
  have hearly := dispatch_marked (fun active hmem => hfrontIgnores active hmem enter) config ctx
  -- After the first event the rules are in the same states, and none looks at the mark again.
  have hstates : (dispatch config ctx.marked enter (early ++ encodings)).1 =
      (dispatch config ctx enter (early ++ encodings)).1 := by
    rw [dispatch_append, dispatch_append, hearly, SourceEncoding.dispatch_fst,
      SourceEncoding.dispatch_fst]
  have hrest : ∀ active ∈ early ++ encodings, ∀ event ∈ later,
      active.rule.IgnoresMarkAt event := by
    intro active hmem event hevent
    rcases List.mem_append.mp hmem with hmem | hmem
    · exact hfrontIgnores active hmem event
    · obtain rfl := List.mem_singleton.mp hmem
      exact SourceEncoding.ignoresMarkAt (hlater event hevent)
  have hnext := forall_mem_dispatch (P := fun rule => ∀ event ∈ later, rule.IgnoresMarkAt event)
    hrest config ctx enter
  rw [walkModule, walkModule, hactive, hevents, dispatchAll_cons, dispatchAll_cons, hstates,
    dispatchAll_marked hnext, dispatch_append, dispatch_append, hearly]
  exact (SourceEncoding.dispatch_enter_marked config hctx body _).append _ _

lemma code_of_mem_walkModule {config : Config} {rules : List Rule}
    (hrules : buildRules config = .ok rules) (path : Path) (source : String) (env : Environment)
    (body : List Stmt) :
    ∀ d ∈ (walkModule config (.ofSource path source false env) body (rules.map Rule.activate)).2,
      d.code ≠ "W9902" := by
  intro d hd hcode
  have hdeclared : DeclaredOnlyBy SourceEncoding.rule.name ["W9902"] := by decide
  have hrule : SourceEncoding.rule ∈ rules := by
    obtain ⟨expected, ignored, -, rfl⟩ := buildRules_eq_ok_iff.mp hrules
    simp [rulesWith]
  have hmem : d ∈ reportedWith ["W9902"] (walkModule config (.ofSource path source false env) body
      (rules.map Rule.activate)).2 := List.mem_filter.mpr ⟨hd, by simp [hcode]⟩
  rw [reportedWith_walkModule hrules hrule hdeclared path source false env body] at hmem
  obtain ⟨f, hf, hreport⟩ := List.mem_filterMap.mp (List.mem_filter.mp hmem).1
  obtain ⟨-, rfl⟩ := Finding.report_eq_some_iff.mp hreport
  rw [SourceEncoding.rule, Watcher.run_onEnter] at hf
  obtain ⟨event, -, hf⟩ := List.mem_flatMap.mp hf
  unfold SourceEncoding.check at hf
  split at hf
  · obtain ⟨message, hmessage, rfl⟩ := List.mem_map.mp hf
    exact SourceEncoding.code_of_mem_checkSource hmessage hcode
  · cases hf

namespace Linter

lemma stripBom_marked (source : String) : stripBom ("\uFEFF" ++ source) = (source, true) := by
  have htext : ("\uFEFF" ++ source).toList = '\uFEFF' :: source.toList := by simp
  rw [stripBom, htext]
  simp

lemma stripBom_of_unmarked {source : String} (h : source.toList.head? ≠ some '\uFEFF') :
    stripBom source = (source, false) := by
  unfold stripBom
  split
  next c rest hsource =>
    refine if_neg fun hmark => h ?_
    rw [hsource, List.head?_cons, Option.some.injEq]
    exact Char.toNat_inj.mp hmark
  · rfl

/-- A mark in front of a text changes no error and no finding, and may add the warning. -/
theorem lintSource_marked (linter : Linter) (hrules : buildRules linter.config = .ok linter.rules)
    (parse : Parser) (path : Path) {source : String} (h : source.toList.head? ≠ some '\uFEFF') :
    (∀ cause, linter.lintSource parse path source = .error cause →
      linter.lintSource parse path ("\uFEFF" ++ source) = .error cause) ∧
    ∀ found, linter.lintSource parse path source = .ok found →
      (∀ d ∈ found, d.code ≠ "W9902") ∧
      ∃ found', linter.lintSource parse path ("\uFEFF" ++ source) = .ok found' ∧
        AtMostInserts (mismatchWarning path) found found' := by
  have hplain := stripBom_of_unmarked h
  have hmarked := stripBom_marked source
  cases hparse : parse source with
  | none =>
    have hnone : linter.lintSource parse path source = .error (.unparsable path) := by
      simp only [lintSource, hplain, hparse]
    have hnone' : linter.lintSource parse path ("\uFEFF" ++ source) = .error (.unparsable path) := by
      simp only [lintSource, hmarked, hparse]
    rw [hnone, hnone']
    exact ⟨fun cause hcause => hcause, fun found hfound => by cases hfound⟩
  | some body =>
    have hbody : parse (stripBom source).1 = some body := by rw [hplain, hparse]
    have hbody' : parse (stripBom ("\uFEFF" ++ source)).1 = some body := by rw [hmarked, hparse]
    rw [linter.lintSource_of_parse path hbody, linter.lintSource_of_parse path hbody', hplain, hmarked]
    let ctx := FileContext.ofSource path source false linter.env
    have hbom : ctx.hasBom = false := rfl
    have hwalk := walkModule_marked hrules hbom body
    have hcodes := code_of_mem_walkModule hrules path source linter.env body
    refine ⟨fun cause hcause => (by cases hcause), fun found hfound => ?_⟩
    obtain rfl := Except.ok.inj hfound
    refine ⟨fun d hd => ?_, _, rfl, ?_⟩
    · exact hcodes d (List.mem_of_mem_filter (List.mem_mergeSort.mp hd))
    · refine (hwalk.filter _).mergeSort beforeInFile_trans beforeInFile_total fun hmem => ?_
      exact hcodes _ (List.mem_of_mem_filter hmem) rfl

end Linter

/-- A byte order mark in front of a text adds at most the warning that the text declares another
encoding, and changes nothing else. -/
theorem lintUnder_marked (config : Config) (tree : FileTree) (cwd : Path) (parse : Parser)
    (path : Path) {source : String} (h : source.toList.head? ≠ some '\uFEFF') :
    (mismatchWarning path).code = "W9902" ∧ (mismatchWarning path).line = 1 ∧
    (∀ cause, lintUnder config tree cwd parse path source = .error cause →
      lintUnder config tree cwd parse path ("\uFEFF" ++ source) = .error cause) ∧
    ∀ found, lintUnder config tree cwd parse path source = .ok found →
      (∀ d ∈ found, d.code ≠ "W9902") ∧
      ∃ found', lintUnder config tree cwd parse path ("\uFEFF" ++ source) = .ok found' ∧
        AtMostInserts (mismatchWarning path) found found' := by
  refine ⟨rfl, rfl, ?_⟩
  cases hlinter : Linter.ofConfig config tree cwd with
  | error cause =>
    simp only [lintUnder, hlinter, Except.bind]
    exact ⟨fun _ h => h, fun found hfound => by cases hfound⟩
  | ok linter =>
    obtain ⟨env, rules, -, hrules, rfl⟩ := Linter.ofConfig_eq_ok_iff.mp hlinter
    simp only [lintUnder, hlinter]
    exact Linter.lintSource_marked ⟨config, env, rules⟩ hrules parse path h

/-- A text that declares another encoding and opens a file. -/
theorem lintUnder_marked_of_latin :
    let source := "# coding: latin-1\nopen(p)\n"
    let body := [Stmt.expr ⟨18, 25⟩ (.call ⟨18, 25⟩ (.name ⟨18, 22⟩ "open") [.name ⟨23, 24⟩ "p"] [])]
    let parse : Parser := fun _ => some body
    let path : Path := ⟨"minion.py"⟩
    let lint := lintUnder .standard ⟨[], []⟩ ⟨""⟩ parse path
    source.toList.head? ≠ some '\uFEFF' ∧
    ∃ found found', lint source = .ok found ∧ lint ("\uFEFF" ++ source) = .ok found' ∧
      found.map Diagnostic.code = ["W9904", "W8470"] ∧
      found'.map Diagnostic.code = ["W9902", "W9904", "W8470"] ∧
      (∀ d ∈ found, d.code ≠ "W9902") ∧ AtMostInserts (mismatchWarning path) found found' := by
  intro source body parse path lint
  let env : Environment := ⟨⟨[], []⟩, ⟨""⟩, .usual, .ofRoots ⟨[], []⟩ [⟨""⟩]⟩
  let reported := fun hasBom => (walkModule .standard (.ofSource path source hasBom env) body
    (standardRules.map Rule.activate)).2.filter fun d =>
      !Suppression.covers (Suppression.keysAt source d.line) d
  have hunmarked : source.toList.head? ≠ some '\uFEFF' := by decide
  have hlint : ∀ text hasBom, Linter.stripBom text = (source, hasBom) →
      lint text = .ok (reported hasBom) := by
    intro text hasBom hstrip
    have hlinter : lint text = Linter.lintSource ⟨.standard, env, standardRules⟩ parse path text := rfl
    have hsorted : (reported hasBom).Pairwise fun a b => Linter.beforeInFile a b = true := by
      cases hasBom <;> decide +kernel
    rw [hlinter, Linter.lintSource_of_parse _ path rfl, hstrip]
    exact congrArg Except.ok (List.mergeSort_of_pairwise hsorted)
  have hfound := hlint source false (Linter.stripBom_of_unmarked hunmarked)
  have hmarked := hlint _ true (Linter.stripBom_marked source)
  obtain ⟨hcodes, found', hfound', hinserts⟩ :=
    (lintUnder_marked .standard ⟨[], []⟩ ⟨""⟩ parse path hunmarked).2.2.2 _ hfound
  obtain rfl := Except.ok.inj (hmarked.symm.trans hfound')
  exact ⟨hunmarked, _, _, hfound, hmarked, by decide +kernel, by decide +kernel, hcodes, hinserts⟩

end SaltConventions
