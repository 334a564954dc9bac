import SaltConventions.Proofs.TreeOrder

/-!
# What one rule reports

Among the diagnostics of a walk, those under the name of a rule are what the rule finds by itself
about the events of the walk. For a rule that keeps no state these are its findings about the nodes
of its kinds, in the order in which they are entered.
-/

namespace SaltConventions

/-- The diagnostics under the name of a rule. -/
def reportedUnder (name : String) (found : List Diagnostic) : List Diagnostic :=
  found.filter fun d => d.rule == name

lemma dispatchAll_singleton_snd (config : Config) (ctx : FileContext) (events : List Event)
    (active : ActiveRule) :
    (dispatchAll config ctx events [active]).2 =
      (active.rule.watcher.run ctx events active.state).2.filterMap
        (Finding.report config ctx.path active.rule.name) := by
  induction events generalizing active with
  | nil => rfl
  | cons event later ih =>
    have hstep : dispatch config ctx event [active] =
        ([(active.observe config ctx event).1], (active.observe config ctx event).2) := by
      simp [dispatch]
    rw [dispatchAll_cons, hstep, ih, Watcher.run_cons, List.filterMap_append]
    rfl

/-- The rules of a configuration have different names, so a name stands for one of them. -/
theorem reportedUnder_walkModule {config : Config} {rules : List Rule}
    (hrules : buildRules config = .ok rules) {rule : Rule} (hr : rule ∈ rules) (ctx : FileContext)
    (body : List Stmt) :
    reportedUnder rule.name (walkModule config ctx body (rules.map Rule.activate)).2 =
      (rule.watcher.run ctx (eventsOfModule body) rule.initial).2.filterMap
        (Finding.report config ctx.path rule.name) := by
  have hone : (rules.map Rule.activate).filter (fun a => a.rule.name == rule.name) =
      [rule.activate] := by
    have hkeys := filter_key_of_sublist (List.singleton_sublist.mpr hr)
      (nodup_names_of_buildRules hrules)
    simp only [List.map_cons, List.map_nil, List.contains_cons, List.contains_nil,
      Bool.or_false] at hkeys
    rw [List.filter_map]
    exact congrArg (List.map Rule.activate) hkeys
  rw [reportedUnder, walkModule, ← dispatchAll_filter config ctx _ _ (· == rule.name), hone,
    dispatchAll_singleton_snd]
  rfl

lemma filterMap_report {config : Config} (h : config.disable = []) (file : Path) (rule : String)
    (found : List Finding) :
    found.filterMap (Finding.report config file rule) = found.map (Finding.diagnostic file rule) := by
  have hon : ∀ key, config.isDisabled key = false := by
    intro key
    simp [Config.isDisabled, h]
  have hreport : Finding.report config file rule = fun f => some (f.diagnostic file rule) := by
    funext f
    exact Finding.report_eq_some_iff.mpr ⟨⟨hon _, hon _, hon _⟩, rfl⟩
  rw [hreport]
  exact congrFun List.filterMap_eq_map found

/-! ### Rules without a state -/

def enteredOf (kinds : List NodeKind) (events : List Event) : List Event :=
  (entered events).filter fun e => kinds.contains e.node.kind

lemma Watcher.run_onEnter (kinds : List NodeKind)
    (check : FileContext → Scope → Node → List Finding) (ctx : FileContext) (events : List Event) :
    ((onEnter kinds check).run ctx events ()).2 =
      (enteredOf kinds events).flatMap fun e => check ctx e.scope e.node := by
  induction events with
  | nil => rfl
  | cons event later ih =>
    rw [Watcher.run_cons]
    obtain ⟨phase, node, scope⟩ := event
    by_cases hk : kinds.contains node.kind <;> cases phase <;>
      simp_all [onEnter, observe, enteredOf, entered]

lemma Occurrence.any_keep_of_shownBy {keep : Stmt → Bool} {kinds : List NodeKind}
    (hkeep : Picks keep kinds) (hkinds : ∀ kind ∈ kinds, kind.isStatement) {o : Occurrence}
    {e : Event} (h : o.ShownBy e) : o.part.stmt?.any keep = kinds.contains e.node.kind := by
  have hany := o.part.any_kind_node? (inClassBody o.holders) kinds.contains
  rw [show o.part.node? (inClassBody o.holders) = some e.node from h.1, Option.any_some] at hany
  rw [hany]
  cases hp : o.part with
  | stmt s => exact hkeep s
  | module | expr =>
    -- A part that is no statement is shown as a node of another kind.
    have hstart := Part.start_of_node? h.1
    rw [hp] at hany hstart
    rw [← hany]
    by_contra hne
    have hmem : e.node.kind ∈ kinds := by
      simpa [Part.stmt?, eq_comm] using hne
    simp [Part.stmt?, hkinds _ hmem] at hstart

lemma shown_statements {keep : Stmt → Bool} {kinds : List NodeKind} (hkeep : Picks keep kinds)
    (hkinds : ∀ kind ∈ kinds, kind.isStatement) (body : List Stmt) :
    List.Forall₂ Occurrence.ShownBy ((Part.module body).statements keep)
      (enteredOf kinds (eventsOfModule body)) := by
  refine List.rel_filter ?_ (shown_itinerary_module body)
  intro o e hoe
  exact Bool.eq_iff_iff.mp (Occurrence.any_keep_of_shownBy hkeep hkinds hoe)

lemma flatMap_eq_of_forall₂ {α β γ : Type} {R : α → β → Prop} {f : α → List γ} {g : β → List γ}
    {as : List α} {bs : List β} (h : List.Forall₂ R as bs) (hfg : ∀ a b, R a b → f a = g b) :
    as.flatMap f = bs.flatMap g := by
  induction h with
  | nil => rfl
  | cons hab _ ih => rw [List.flatMap_cons, List.flatMap_cons, hfg _ _ hab, ih]

lemma exists_of_forall₂ {α β : Type} {R : α → β → Prop} {as : List α} {bs : List β}
    (h : List.Forall₂ R as bs) {b : β} (hb : b ∈ bs) : ∃ a ∈ as, R a b := by
  induction h with
  | nil => cases hb
  | @cons a b' as bs hab _ ih =>
    rcases List.mem_cons.mp hb with rfl | hb
    · exact ⟨a, List.mem_cons_self, hab⟩
    · obtain ⟨a', ha', hab'⟩ := ih hb
      exact ⟨a', List.mem_cons_of_mem _ ha', hab'⟩

lemma forall₂_filterMap {α β : Type} (f : α → Option β) (xs : List α) :
    List.Forall₂ (fun x y => f x = some y) (xs.filter fun x => (f x).isSome) (xs.filterMap f) := by
  induction xs with
  | nil => exact .nil
  | cons x later ih =>
    cases hx : f x with
    | none => simpa [hx] using ih
    | some y => simpa [hx] using ih

/-! ### Rules with a state -/

lemma Watcher.run_append {σ : Type} (w : Watcher σ) (ctx : FileContext) (xs ys : List Event)
    (state : σ) :
    w.run ctx (xs ++ ys) state =
      ((w.run ctx ys (w.run ctx xs state).1).1,
        (w.run ctx xs state).2 ++ (w.run ctx ys (w.run ctx xs state).1).2) := by
  induction xs generalizing state with
  | nil => rfl
  | cons event later ih => rw [List.cons_append, run_cons, run_cons, ih, List.append_assoc]

/-- Events that change nothing and at which nothing is found can be left out. -/
lemma Watcher.run_filter {σ : Type} {w : Watcher σ} {ctx : FileContext} {keep : Event → Bool}
    {events : List Event}
    (h : ∀ event ∈ events, keep event = false → ∀ s, w.observe ctx event s = (s, [])) (state : σ) :
    w.run ctx events state = w.run ctx (events.filter keep) state := by
  induction events generalizing state with
  | nil => rfl
  | cons event later ih =>
    have hlater := ih fun e he => h e (List.mem_cons_of_mem _ he)
    rw [run_cons, hlater]
    by_cases hk : keep event
    · rw [List.filter_cons_of_pos hk, run_cons]
    · have hidle := h event List.mem_cons_self (by simpa using hk) state
      rw [List.filter_cons_of_neg hk, hidle, List.nil_append]

lemma Watcher.run_snd_eq_nil {σ : Type} {w : Watcher σ} {ctx : FileContext}
    (h : ∀ event s, (w.observe ctx event s).2 = []) (events : List Event) (state : σ) :
    (w.run ctx events state).2 = [] := by
  induction events generalizing state with
  | nil => rfl
  | cons event later ih => rw [run_cons, h, ih, List.nil_append]

/-! ### Nodes inside a module -/

lemma mem_walkAll_flatMap {α : Type} {t : ScopeTracker} {xs : List α} {f : α → List Visit}
    {event : Event} :
    event ∈ (walkAll t (xs.flatMap f)).1 ↔ ∃ x ∈ xs, event ∈ (walkAll t (f x)).1 := by
  simp only [walkAll_fst, List.flatMap_assoc, List.mem_flatMap]

lemma Part.kind_of_node? {p : Part} (hp : (∃ s, p = .stmt s) ∨ ∃ e, p = .expr e) {inClass : Bool}
    {node : Node} (h : p.node? inClass = some node) : node.kind ≠ .module := by
  cases node?_eq_some_iff.mp h with
  | module body => simp at hp
  | _ => simp [Node.kind]

lemma Part.kind_of_mem_walkAll {p : Part} (hp : (∃ s, p = .stmt s) ∨ ∃ e, p = .expr e)
    (t : ScopeTracker) (inClass : Bool) :
    ∀ event ∈ (walkAll t (p.visits inClass)).1, event.node.kind ≠ .module := by
  induction p using Part.induct generalizing t inClass with
  | step p ih =>
    have hchildren : ∀ cs ⊆ p.children, ∀ t, ∀ event ∈ (walkAll t (cs.flatMap p.childVisits)).1,
        event.node.kind ≠ .module := by
      intro cs hcs t event he
      obtain ⟨c, hc, he⟩ := mem_walkAll_flatMap.mp he
      have hc := hcs hc
      exact ih c hc (eq_stmt_or_expr_of_mem_children hc) t _ event he
    have hahead := hchildren p.ahead (List.subset_append_left _ _)
    have hinside := hchildren p.inside (List.subset_append_right _ _)
    intro event he
    rw [visits_eq, walkAll_append_fst, List.mem_append] at he
    rcases he with he | he
    · split at he
      · cases he
      · exact hahead t event he
    · split at he
      · rename_i node hn
        have hkind := kind_of_node? hp hn
        rw [walkAll_fst, List.flatMap_singleton, Visit.walk_fst, List.mem_append, List.mem_cons,
          List.mem_singleton] at he
        rcases he with (rfl | he) | rfl
        · exact hkind
        · exact hinside _ event he
        · exact hkind
      · exact hinside t event he

lemma kind_of_mem_walkAll_body {body : List Stmt} {event : Event}
    (h : event ∈ (walkAll .empty (visitsOfBody false body)).1) : event.node.kind ≠ .module := by
  rw [visitsOfBody_eq] at h
  obtain ⟨s, -, h⟩ := mem_walkAll_flatMap.mp h
  exact Part.kind_of_mem_walkAll (.inl ⟨s, rfl⟩) .empty false event h

end SaltConventions
