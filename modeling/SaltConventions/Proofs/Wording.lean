import Mathlib.Data.List.Nodup
import SaltConventions.Proofs.Dispatch
import SaltConventions.Proofs.PhysicalLines
import SaltConventions.Proofs.TargetLeaves

/-!
# What a diagnostic says

A rule keeps to the messages it declares: whatever it finds has one of them, on a line of the file,
with an argument for each placeholder of the template and no more. So every diagnostic of a walk is
the text of a declared message with all placeholders filled.
-/

namespace SaltConventions

/-! ### Filled templates -/

namespace Message

/-- A placeholder stands at the start of a text. -/
def StartsSlot (cs : List Char) : Prop :=
  ∃ rest, cs = '%' :: 's' :: rest ∨ cs = '%' :: 'r' :: rest

/-- A text is a template with every placeholder filled, the arguments taken from left to right and
all of them used. -/
inductive Filled : List Char → List String → List Char → Prop where
  | done : Filled [] [] []
  | plain {rest out : List Char} {args : List String} (arg : String) (h : Filled rest args out) :
      Filled ('%' :: 's' :: rest) (arg :: args) (arg.toList ++ out)
  | quoted {rest out : List Char} {args : List String} (arg : String) (h : Filled rest args out) :
      Filled ('%' :: 'r' :: rest) (arg :: args) (Text.Literal.encode arg.toList ++ out)
  | other {c : Char} {rest out : List Char} {args : List String} (hc : ¬StartsSlot (c :: rest))
      (h : Filled rest args out) : Filled (c :: rest) args (c :: out)

/-- Induction over a template, one placeholder or one other character at a time. -/
@[elab_as_elim]
theorem slotInduction {P : List Char → Prop} (nil : P [])
    (plain : ∀ rest, P rest → P ('%' :: 's' :: rest))
    (quoted : ∀ rest, P rest → P ('%' :: 'r' :: rest))
    (other : ∀ c rest, ¬StartsSlot (c :: rest) → P rest → P (c :: rest)) (cs : List Char) :
    P cs := by
  induction hn : cs.length using Nat.strongRecOn generalizing cs with
  | ind n ih =>
    cases cs with
    | nil => exact nil
    | cons c rest =>
      by_cases h : StartsSlot (c :: rest)
      · obtain ⟨later, h | h⟩ := h
        · rw [h] at hn ⊢
          exact plain later (ih later.length (by grind) later rfl)
        · rw [h] at hn ⊢
          exact quoted later (ih later.length (by grind) later rfl)
      · exact other c rest h (ih rest.length (by grind) rest rfl)

lemma countSlots_other {c : Char} {rest : List Char} (h : ¬StartsSlot (c :: rest)) :
    countSlots (c :: rest) = countSlots rest := by
  rw [countSlots]
  · rintro later rfl rfl
    exact h ⟨later, .inl rfl⟩
  · rintro later rfl rfl
    exact h ⟨later, .inr rfl⟩

lemma fill_other {c : Char} {rest : List Char} (h : ¬StartsSlot (c :: rest))
    (args : List String) : fill (c :: rest) args = c :: fill rest args := by
  have hs : ∀ later, c = '%' → rest = 's' :: later → False := by
    rintro later rfl rfl
    exact h ⟨later, .inl rfl⟩
  have hr : ∀ later, c = '%' → rest = 'r' :: later → False := by
    rintro later rfl rfl
    exact h ⟨later, .inr rfl⟩
  cases args <;> rw [fill] <;> grind

lemma filled_fill {cs : List Char} {args : List String} (h : args.length = countSlots cs) :
    Filled cs args (fill cs args) := by
  induction cs using slotInduction generalizing args with
  | nil =>
    obtain rfl := List.eq_nil_of_length_eq_zero h
    exact .done
  | plain rest ih =>
    obtain ⟨arg, args, rfl⟩ := List.exists_cons_of_length_eq_add_one h
    exact .plain arg (ih (Nat.succ.inj h))
  | quoted rest ih =>
    obtain ⟨arg, args, rfl⟩ := List.exists_cons_of_length_eq_add_one h
    exact .quoted arg (ih (Nat.succ.inj h))
  | other c rest hc ih =>
    rw [countSlots_other hc] at h
    rw [fill_other hc]
    exact .other hc (ih h)

/-- A literal is the text of its characters, so its placeholders are counted without decoding it. -/
lemma arity_eq {m : Message} {cs : List Char} (h : m.template = String.ofList cs) :
    m.arity = countSlots cs := by
  rw [arity, h, String.toList_ofList]

lemma arity_eq_append {m : Message} {cs ds : List Char}
    (h : m.template = String.ofList cs ++ String.ofList ds) : m.arity = countSlots (cs ++ ds) := by
  rw [arity, h, String.toList_append, String.toList_ofList, String.toList_ofList]

end Message

/-! ### Findings of one rule -/

/-- A finding has one of these messages, a line of the file, and the arguments that its message
takes. -/
structure Finding.Fits (messages : List Message) (f : Finding) : Prop where
  declared : f.message ∈ messages
  numbered : 1 ≤ f.line
  complete : f.args.length = f.message.arity

/-- The lines of a file are counted from 1. -/
def FileContext.Numbered (ctx : FileContext) : Prop :=
  ∀ offset, 1 ≤ ctx.lines.lineAt offset

lemma FileContext.numbered_ofSource (path : Path) (source : String) (hasBom : Bool)
    (env : Environment) : (FileContext.ofSource path source hasBom env).Numbered :=
  Text.LineIndex.one_le_lineAt source

lemma Watcher.mem_of_mem_onEnter {kinds : List NodeKind}
    {check : FileContext → Scope → Node → List Finding} {ctx : FileContext} {node : Node}
    {scope : Scope} {s : Unit} {f : Finding}
    (h : f ∈ ((onEnter kinds check).step ctx ⟨.enter, node, scope⟩ s).2) : f ∈ check ctx scope node :=
  h

/-- What is found when a node is entered has a message that the rule declares. -/
def Rule.KeepsToMessages (rule : Rule) : Prop :=
  ∀ ctx : FileContext, ctx.Numbered → ∀ (node : Node) (scope : Scope) (s : rule.State),
    ∀ f ∈ (rule.watcher.step ctx ⟨.enter, node, scope⟩ s).2, f.Fits rule.messages

namespace ReplacedImports

lemma arity_le_two {message : Message} (h : message ∈ messages) : message.arity ≤ 2 := by
  simp only [messages, List.mem_cons, List.not_mem_nil, or_false] at h
  rcases h with rfl | rfl | rfl | rfl | rfl | rfl
  case inr.inr.inr.inr.inr => exact Nat.le_trans (Nat.le_of_eq (Message.arity_eq_append rfl)) (by decide)
  all_goals exact Nat.le_trans (Nat.le_of_eq (Message.arity_eq rfl)) (by decide)

lemma fits_of {message : Message} (hm : message ∈ messages) {ctx : FileContext}
    (hctx : ctx.Numbered) (module text : String) (start : Nat) :
    (ctx.findingAt (Advice.of message module text).message start
      (Advice.of message module text).args).Fits messages := by
  have hlength : (Advice.of message module text).args.length = message.arity := by
    have harity := arity_le_two hm
    unfold Advice.of
    generalize message.arity = n at harity
    match n, harity with
    | 0, _ => rfl
    | 1, _ => rfl
    | 2, _ => rfl
  exact ⟨hm, hctx start, hlength⟩

lemma message_of_mem_fromRows {row : FromRow} (h : row ∈ fromRows) : row.message ∈ messages := by
  revert row
  decide

lemma message_of_mem_importRows {row : ImportRow} (h : row ∈ importRows) :
    row.message ∈ messages := by
  revert row
  decide

lemma eq_of_adviceForName? {module root : String} {a : Alias} {advice : Advice}
    (h : adviceForName? module root a = some advice) :
    ∃ message ∈ messages, ∃ text, advice = .of message module text := by
  obtain ⟨row, hrow, rfl⟩ := Option.map_eq_some_iff.mp h
  exact ⟨row.message, message_of_mem_fromRows (List.mem_of_find?_eq_some hrow), _, rfl⟩

lemma eq_of_adviceForImport? {module : String} {advice : Advice}
    (h : adviceForImport? module = some advice) :
    ∃ message ∈ messages, ∃ text, advice = .of message module text := by
  unfold adviceForImport? at h
  split at h
  · cases h
  · obtain ⟨row, hrow, rfl⟩ := Option.map_eq_some_iff.mp h
    exact ⟨row.message, message_of_mem_importRows (List.mem_of_find?_eq_some hrow), _, rfl⟩

lemma keepsToMessages : rule.KeepsToMessages := by
  intro ctx hctx node scope s f hf
  replace hf := Watcher.mem_of_mem_onEnter hf
  unfold check at hf
  split at hf
  · cases hf
  · split at hf
    · obtain ⟨advice, ha, rfl⟩ := List.mem_map.mp hf
      obtain ⟨a, -, hadvice⟩ := List.mem_filterMap.mp ha
      obtain ⟨message, hm, text, rfl⟩ := eq_of_adviceForImport? hadvice
      exact fits_of hm hctx _ text _
    · obtain ⟨advice, ha, rfl⟩ := List.mem_map.mp hf
      unfold adviceForFrom at ha
      split at ha
      · cases ha
      · obtain ⟨a, -, hadvice⟩ := List.mem_filterMap.mp ha
        obtain ⟨message, hm, text, rfl⟩ := eq_of_adviceForName? hadvice
        exact fits_of hm hctx _ text _
    · cases hf

end ReplacedImports

namespace PatchedModules

lemma mem_enter {ctx : FileContext} {node : Node} {imports : Bindings} {f : Finding}
    (h : f ∈ (enter ctx node imports).2) :
    ∃ start targets value, node = .assign start targets value ∧
      f ∈ checkTargets ctx imports targets := by
  unfold enter at h
  grind

lemma arity_of_mem {message : Message} (h : message ∈ messages) : message.arity = 2 := by
  simp only [messages, List.mem_cons, List.not_mem_nil, or_false] at h
  rcases h with rfl | rfl | rfl
  all_goals exact (Message.arity_eq_append rfl).trans rfl

lemma fits_of_mem_checkTarget {ctx : FileContext} (hctx : ctx.Numbered) {imports : Bindings}
    {leaf : Expr} (hl : ¬leaf.IsTuple) {f : Finding} (hf : f ∈ checkTarget ctx imports leaf) :
    f.Fits messages := by
  rw [checkTarget.eq_def] at hf
  split at hf
  · split at hf
    · split at hf
      · obtain rfl := List.mem_singleton.mp hf
        have hm : dunderUpdated ∈ messages := by simp [messages]
        exact ⟨hm, hctx _, (arity_of_mem hm).symm⟩
      · cases hf
    · cases hf
  · split at hf
    · obtain rfl := List.mem_singleton.mp hf
      have hm : ∀ listed : Bool, (if listed then dunderSet else attributeSet) ∈ messages := by
        intro listed
        cases listed <;> simp [messages]
      exact ⟨hm _, hctx _, (arity_of_mem (hm _)).symm⟩
    · cases hf
  · exact absurd ⟨_, _, rfl⟩ hl
  · cases hf

lemma keepsToMessages : rule.KeepsToMessages := by
  intro ctx hctx node scope (imports : Bindings) f hf
  obtain ⟨start, targets, value, -, hf⟩ := mem_enter hf
  rw [checkTargets_eq_flatMap] at hf
  obtain ⟨leaf, hl, hf⟩ := List.mem_flatMap.mp hf
  exact fits_of_mem_checkTarget hctx (not_isTuple_of_mem_leavesOf hl) hf

end PatchedModules

namespace UngatedImports

lemma message_of_verdict {allowed : List String} {origin : ModuleOrigin} {module : String}
    {scope : Scope} {message : Message} (h : verdict allowed origin module scope = some message) :
    message ∈ messages := by
  unfold verdict at h
  split at h
  · cases h
  · split at h
    · obtain rfl := Option.some.inj h
      simp [messages]
    · obtain rfl := Option.some.inj h
      simp [messages]

lemma arity_of_mem {message : Message} (h : message ∈ messages) : message.arity = 1 := by
  simp only [messages, List.mem_cons, List.not_mem_nil, or_false] at h
  rcases h with rfl | rfl
  · exact (Message.arity_eq rfl).trans rfl
  · exact (Message.arity_eq_append rfl).trans rfl

lemma fits_of_mem_checkModule {allowed : List String} {ctx : FileContext} (hctx : ctx.Numbered)
    {scope : Scope} {start level : Nat} {module : String} {f : Finding}
    (hf : f ∈ checkModule allowed ctx scope start level module) : f.Fits messages := by
  unfold checkModule at hf
  split at hf
  · rename_i message hverdict
    obtain rfl := List.mem_singleton.mp hf
    have hm := message_of_verdict hverdict
    exact ⟨hm, hctx start, (arity_of_mem hm).symm⟩
  · cases hf

lemma keepsToMessages (allowed : List String) : (rule allowed).KeepsToMessages := by
  intro ctx hctx node scope s f hf
  replace hf := Watcher.mem_of_mem_onEnter hf
  unfold check at hf
  split at hf
  · obtain ⟨a, -, ha⟩ := List.mem_flatMap.mp hf
    exact fits_of_mem_checkModule hctx ha
  · exact fits_of_mem_checkModule hctx hf
  · cases hf

end UngatedImports

lemma OpenFiles.keepsToMessages : OpenFiles.rule.KeepsToMessages := by
  intro ctx hctx node scope s f hf
  have harity : leakage.arity = 1 := (Message.arity_eq rfl).trans rfl
  replace hf := Watcher.mem_of_mem_onEnter hf
  unfold check at hf
  split at hf
  · split at hf
    · obtain rfl := List.mem_singleton.mp hf
      exact ⟨List.mem_singleton.mpr rfl, hctx _, harity.symm⟩
    · cases hf
  · cases hf

namespace MovedTestCases

lemma message_of_movedBase? {name place : String} {message : Message}
    (h : movedBase? name = some (message, place)) : message ∈ messages := by
  unfold movedBase? at h
  grind [messages]

lemma arity_of_mem {message : Message} (h : message ∈ messages) : message.arity = 1 := by
  simp only [messages, List.mem_cons, List.not_mem_nil, or_false] at h
  rcases h with rfl | rfl
  all_goals exact (Message.arity_eq rfl).trans rfl

lemma keepsToMessages : rule.KeepsToMessages := by
  intro ctx hctx node scope s f hf
  replace hf := Watcher.mem_of_mem_onEnter hf
  unfold check at hf
  split at hf
  · split at hf
    · obtain ⟨a, -, rfl⟩ := List.mem_map.mp hf
      have hm : movedClass ∈ messages := by simp [messages]
      exact ⟨hm, hctx _, (arity_of_mem hm).symm⟩
    · cases hf
  · obtain ⟨base, -, hb⟩ := List.mem_filterMap.mp hf
    unfold checkBase at hb
    split at hb
    · obtain ⟨⟨message, place⟩, hbase, rfl⟩ := Option.map_eq_some_iff.mp hb
      have hm := message_of_movedBase? hbase
      exact ⟨hm, hctx _, (arity_of_mem hm).symm⟩
    · cases hb
  · cases hf

end MovedTestCases

namespace ReplacedFunctions

lemma mem_enter {listed : NameMap} {ctx : FileContext} {node : Node} {imports : Bindings}
    {f : Finding} (h : f ∈ (enter listed ctx node imports).2) :
    ∃ span func, node = .call span func ∧ f ∈ checkCall listed ctx imports span.start func := by
  unfold enter at h
  grind

lemma keepsToMessages (listed : NameMap) : (rule listed).KeepsToMessages := by
  intro ctx hctx node scope (imports : Bindings) f hf
  have harity : replacedFunction.arity = 2 := (Message.arity_eq rfl).trans rfl
  obtain ⟨span, func, -, hf⟩ := mem_enter hf
  unfold checkCall at hf
  split at hf
  · cases hf
  · dsimp only at hf
    split at hf
    · obtain rfl := List.mem_singleton.mp hf
      exact ⟨List.mem_singleton.mpr rfl, hctx _, harity.symm⟩
    · cases hf

end ReplacedFunctions

lemma Finalizers.keepsToMessages : Finalizers.rule.KeepsToMessages := by
  intro ctx hctx node scope s f hf
  have harity : noFinalizer.arity = 0 := (Message.arity_eq rfl).trans rfl
  replace hf := Watcher.mem_of_mem_onEnter hf
  unfold check at hf
  split at hf
  · split at hf
    · obtain rfl := List.mem_singleton.mp hf
      exact ⟨List.mem_singleton.mpr rfl, hctx _, harity.symm⟩
    · cases hf
  · cases hf

namespace VirtualLogging

lemma mem_enter {ctx : FileContext} {scope : Scope} {node : Node} {loggers : LoggerNames}
    {f : Finding} (h : f ∈ (enter ctx scope node loggers).2) :
    ∃ function, node = .functionDef function ∧ isVirtual scope function = true ∧
      ∃ s ∈ function.body, checkStmt ctx loggers s = some f := by
  unfold enter at h
  grind

lemma keepsToMessages : rule.KeepsToMessages := by
  intro ctx hctx node scope (loggers : LoggerNames) f hf
  have harity : logInVirtual.arity = 0 := (Message.arity_eq rfl).trans rfl
  obtain ⟨function, -, -, s, -, hf⟩ := mem_enter hf
  unfold checkStmt at hf
  split at hf
  · split at hf
    · obtain rfl := Option.some.inj hf
      exact ⟨List.mem_singleton.mpr rfl, hctx _, harity.symm⟩
    · cases hf
  · cases hf

end VirtualLogging

namespace StringFormatting

lemma mem_enter {settings : StringSettings} {ctx : FileContext} {node : Node} {state : State}
    {f : Finding} (h : f ∈ (enter settings ctx node state).2) :
    (∃ span func, node = .call span func ∧
        f ∈ checkCall settings ctx state.loggerCalls span func) ∨
      (∃ span left op, node = .binOp span left op ∧
        f ∈ checkBinOp settings ctx span.start left op) ∨
      ∃ span value kind, node = .constant span value kind ∧
        f ∈ checkConstant ctx span value kind := by
  unfold enter at h
  grind

/-- A finding about a call or an operation: all messages but the last quote one text. -/
def Quotes (ctx : FileContext) (f : Finding) : Prop :=
  ∃ message ∈ messages.dropLast, ∃ start text, f = ctx.findingAt message start [text]

lemma Quotes.fits {ctx : FileContext} {f : Finding} (h : Quotes ctx f) (hctx : ctx.Numbered) :
    f.Fits messages := by
  obtain ⟨message, hm, start, text, rfl⟩ := h
  have harity : message.arity = 1 := by
    simp only [messages, List.dropLast_cons_cons, List.dropLast_singleton, List.mem_cons,
      List.not_mem_nil, or_false] at hm
    rcases hm with rfl | rfl | rfl | rfl | rfl | rfl
    all_goals exact (Message.arity_eq rfl).trans rfl
  exact ⟨List.dropLast_subset _ hm, hctx start, harity.symm⟩

lemma quotes_of_mem_checkFormat {settings : StringSettings} {ctx : FileContext} {start : Nat}
    {text : String} {f : Finding} (hf : f ∈ checkFormat settings ctx start text) :
    Quotes ctx f := by
  have hm : ∀ error : Bool,
      (if error then unindexedError else unindexedWarning) ∈ messages.dropLast := by
    intro error
    cases error <;> simp [messages]
  simp only [checkFormat, List.mem_append, List.mem_ite_nil_right, List.mem_singleton] at hf
  rcases hf with ⟨-, rfl⟩ | ⟨-, rfl⟩
  · exact ⟨reprFlag, by simp [messages], start, text, rfl⟩
  · exact ⟨_, hm _, start, text, rfl⟩

lemma quotes_of_mem_checkCall {settings : StringSettings} {ctx : FileContext} {loggerCalls : Nat}
    {span : Span} {func : Expr} {f : Finding}
    (hf : f ∈ checkCall settings ctx loggerCalls span func) : Quotes ctx f := by
  unfold checkCall at hf
  split at hf
  · split at hf
    · cases hf
    · simp only [List.mem_append, List.mem_ite_nil_right, List.mem_singleton] at hf
      rcases hf with ⟨-, rfl⟩ | hf
      · exact ⟨formatInLogging, by simp [messages], _, _, rfl⟩
      · split at hf
        · exact quotes_of_mem_checkFormat hf
        · cases hf
  · cases hf

lemma quotes_of_mem_checkBinOp {settings : StringSettings} {ctx : FileContext} {start : Nat}
    {left : Expr} {op : BinaryOperator} {f : Finding}
    (hf : f ∈ checkBinOp settings ctx start left op) : Quotes ctx f := by
  have hm : ∀ error : Bool,
      (if error then substitutionError else substitutionWarning) ∈ messages.dropLast := by
    intro error
    cases error <;> simp [messages]
  unfold checkBinOp at hf
  split at hf
  · cases hf
  · split at hf
    · cases hf
    · split at hf
      · cases hf
      · simp only [List.mem_append, List.mem_ite_nil_right, List.mem_singleton] at hf
        rcases hf with ⟨-, rfl⟩ | ⟨-, rfl⟩
        · exact ⟨_, hm _, start, _, rfl⟩
        · exact ⟨reprFlag, by simp [messages], start, _, rfl⟩

lemma fits_of_mem_checkConstant {ctx : FileContext} (hctx : ctx.Numbered) {span : Span}
    {value : Constant} {kind : Option String} {f : Finding}
    (hf : f ∈ checkConstant ctx span value kind) : f.Fits messages := by
  have harity : nullByte.arity = 0 := (Message.arity_eq rfl).trans rfl
  unfold checkConstant at hf
  split at hf
  · split at hf
    · split at hf
      · split at hf
        · obtain rfl := List.mem_singleton.mp hf
          exact ⟨show nullByte ∈ messages by simp [messages], hctx _, harity.symm⟩
        · cases hf
      · cases hf
    · cases hf
  · cases hf

lemma keepsToMessages (settings : StringSettings) : (rule settings).KeepsToMessages := by
  intro ctx hctx node scope (state : State) f hf
  rcases mem_enter hf with ⟨span, func, -, hf⟩ | ⟨span, left, op, -, hf⟩ | ⟨span, value, kind, -, hf⟩
  · exact (quotes_of_mem_checkCall hf).fits hctx
  · exact (quotes_of_mem_checkBinOp hf).fits hctx
  · exact fits_of_mem_checkConstant hctx hf

end StringFormatting

lemma FileMode.keepsToMessages (expected : Permission) (ignored : List Glob) :
    (FileMode.rule expected ignored).KeepsToMessages := by
  intro ctx _ node scope s f hf
  have harity : wrongMode.arity = 2 := (Message.arity_eq rfl).trans rfl
  replace hf := Watcher.mem_of_mem_onEnter hf
  unfold check at hf
  split at hf
  · dsimp only at hf
    split at hf
    · cases hf
    · split at hf
      · cases hf
      · split at hf
        · cases hf
        · obtain rfl := List.mem_singleton.mp hf
          exact ⟨List.mem_singleton.mpr rfl, Nat.le_refl 1, harity.symm⟩
  · cases hf

namespace SourceEncoding

lemma message_of_mem_checkSource {source : String} {hasBom : Bool} {message : Message}
    (h : message ∈ checkSource source hasBom) : message ∈ messages := by
  simp only [checkSource, List.mem_append, List.mem_ite_nil_right, List.mem_singleton] at h
  rcases h with (⟨-, rfl⟩ | ⟨-, rfl⟩) | h
  · simp [messages]
  · simp [messages]
  · split at h
    · obtain rfl := List.mem_singleton.mp h
      split <;> simp [messages]
    · rw [List.mem_ite_nil_left] at h
      obtain rfl := List.mem_singleton.mp h.2
      simp [messages]

lemma arity_of_mem {message : Message} (h : message ∈ messages) : message.arity = 0 := by
  simp only [messages, List.mem_cons, List.not_mem_nil, or_false] at h
  rcases h with rfl | rfl | rfl | rfl | rfl
  all_goals exact (Message.arity_eq rfl).trans rfl

lemma keepsToMessages : rule.KeepsToMessages := by
  intro ctx _ node scope s f hf
  replace hf := Watcher.mem_of_mem_onEnter hf
  unfold check at hf
  split at hf
  · obtain ⟨message, hmessage, rfl⟩ := List.mem_map.mp hf
    have hm := message_of_mem_checkSource hmessage
    exact ⟨hm, Nat.le_refl 1, (arity_of_mem hm).symm⟩
  · cases hf

end SourceEncoding

/-! ### Diagnostics of a walk -/

lemma keepsToMessages_of_buildRules {config : Config} {rules : List Rule}
    (h : buildRules config = .ok rules) {rule : Rule} (hr : rule ∈ rules) :
    rule.KeepsToMessages := by
  rcases cases_of_mem_buildRules h hr with
    rfl | rfl | rfl | rfl | rfl | rfl | rfl | rfl | rfl | ⟨expected, ignored, rfl⟩ | rfl
  · exact ReplacedImports.keepsToMessages
  · exact PatchedModules.keepsToMessages
  · exact UngatedImports.keepsToMessages _
  · exact OpenFiles.keepsToMessages
  · exact MovedTestCases.keepsToMessages
  · exact ReplacedFunctions.keepsToMessages _
  · exact Finalizers.keepsToMessages
  · exact VirtualLogging.keepsToMessages
  · exact StringFormatting.keepsToMessages _
  · exact FileMode.keepsToMessages expected ignored
  · exact SourceEncoding.keepsToMessages

lemma Rule.fits_of_mem_observe {rule : Rule} (hkeeps : rule.KeepsToMessages)
    (hquiet : rule.QuietOnLeave) {ctx : FileContext} (hctx : ctx.Numbered) {event : Event}
    {s : rule.State} {f : Finding} (hf : f ∈ (rule.watcher.observe ctx event s).2) :
    f.Fits rule.messages := by
  unfold Watcher.observe at hf
  split at hf
  · obtain ⟨phase, node, scope⟩ := event
    cases phase with
    | enter => exact hkeeps ctx hctx node scope s f hf
    | leave =>
      rw [hquiet ctx node scope s] at hf
      cases hf
  · cases hf

/-- A diagnostic is the text of a message: its code, symbol and severity are those of the message,
and its text is the template with all placeholders filled by its arguments. -/
structure Diagnostic.Says (d : Diagnostic) (m : Message) : Prop where
  code : d.code = m.code
  symbol : d.symbol = m.symbol
  severity : d.severity = Severity.ofCode m.code
  complete : d.args.length = m.arity
  text : d.message = m.render d.args
  filled : Message.Filled m.template.toList d.args d.message.toList

lemma Finding.Fits.says {messages : List Message} {f : Finding} (h : f.Fits messages) (file : Path)
    (rule : String) : (f.diagnostic file rule).Says f.message where
  code := rfl
  symbol := rfl
  severity := rfl
  complete := h.complete
  text := rfl
  filled := by
    have hfilled := Message.filled_fill h.complete
    simpa [Finding.diagnostic, Message.render] using hfilled

/-- Every diagnostic of a walk names its file, a line of it, and the one rule that declares its
message; nothing that it names is switched off. -/
theorem walkModule_wellFormed {config : Config} {rules : List Rule}
    (hrules : buildRules config = .ok rules) {active : List ActiveRule}
    (hactive : ∀ a ∈ active, a.rule ∈ rules) (path : Path) (source : String) (hasBom : Bool)
    (env : Environment) (body : List Stmt) {d : Diagnostic}
    (hd : d ∈ (walkModule config (.ofSource path source hasBom env) body active).2) :
    d.file = path ∧ 1 ≤ d.line ∧
    (∃ rule ∈ rules, rule.name = d.rule ∧ (∀ other ∈ rules, other.name = d.rule → other = rule) ∧
      ∃ m ∈ rule.messages, d.Says m) ∧
    config.isDisabled d.code = false ∧ config.isDisabled d.symbol = false ∧
    config.isDisabled d.rule = false := by
  obtain ⟨a, ha, event, -, s, f, hf, hreport⟩ := exists_finding_of_mem_dispatchAll hd
  obtain ⟨⟨hcode, hsymbol, hrule⟩, rfl⟩ := Finding.report_eq_some_iff.mp hreport
  have hmem := hactive a ha
  have hfits := Rule.fits_of_mem_observe (keepsToMessages_of_buildRules hrules hmem)
    (quietOnLeave_of_buildRules hrules hmem)
    (FileContext.numbered_ofSource path source hasBom env) hf
  refine ⟨rfl, hfits.numbered, ⟨a.rule, hmem, rfl, ?_, f.message, hfits.declared, hfits.says _ _⟩,
    hcode, hsymbol, hrule⟩
  intro other hother hname
  exact List.inj_on_of_nodup_map (nodup_names_of_buildRules hrules) hother hmem hname

theorem walkModule_wellFormed_of_replaced_import :
    let ctx := FileContext.alone ⟨"minion.py"⟩ "\nfrom mock import patch as p\n"
    let body := [Stmt.importFrom ⟨1, 28⟩ (some "mock") [⟨"patch", some "p"⟩] 0]
    let active := [ReplacedImports.rule.activate]
    buildRules .standard = .ok standardRules ∧ (∀ a ∈ active, a.rule ∈ standardRules) ∧
    ∃ d ∈ (walkModule .standard ctx body active).2,
      d.args = ["mock", "Please use 'from tests.support.mock import patch as p'"] ∧
      d.file = ⟨"minion.py"⟩ ∧ 1 ≤ d.line ∧
      ∃ rule ∈ standardRules, rule.name = d.rule ∧ ∃ m ∈ rule.messages, d.Says m := by
  intro ctx body active
  have hactive : ∀ a ∈ active, a.rule ∈ standardRules :=
    List.forall_mem_singleton.mpr (List.mem_cons_self)
  have hfound : ∃ d ∈ (walkModule .standard ctx body active).2,
      d.args = ["mock", "Please use 'from tests.support.mock import patch as p'"] := by
    decide +kernel
  obtain ⟨d, hd, hargs⟩ := hfound
  obtain ⟨hfile, hline, ⟨rule, hrule, hname, -, hsays⟩, -⟩ :=
    walkModule_wellFormed buildRules_standard hactive _ _ _ _ body hd
  exact ⟨buildRules_standard, hactive, d, hd, hargs, hfile, hline, rule, hrule, hname, hsays⟩

end SaltConventions
