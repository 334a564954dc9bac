import SaltConventions.Proofs.BoundNames
import SaltConventions.Proofs.History

/-!
# Known loggers

Two rules follow which names of a file stand for the `logging` module or for a logger. The names
that they know at some point of a walk are told here from what was entered before it.
-/

namespace SaltConventions

/-- Calling `getLogger`, by itself or as an attribute of a chain of names. -/
inductive Expr.CallsGetLogger : Expr → Prop where
  | call {span : Span} {func : Expr} {args : List Expr} {keywords : List Keyword} {dotted : String}
      (chain : func.dotted? = some dotted)
      (last : dotted = "getLogger" ∨ ∃ base, dotted = base ++ ".getLogger") :
      CallsGetLogger (.call span func args keywords)

/-- A name is bound to the `logging` module by an import, or to a logger by an assignment. -/
inductive Occurrence.BindsLogger (o : Occurrence) : String → Prop where
  | imported {span : Span} {names : List Alias} {a : Alias}
      (part : o.part = .stmt (.importNames span names)) (mem : a ∈ names)
      (logging : a.name = "logging") : BindsLogger o a.bound
  | assigned {span nameSpan : Span} {targets : List Expr} {value : Expr} {name : String}
      (part : o.part = .stmt (.assign span targets value)) (target : .name nameSpan name ∈ targets)
      (getLogger : value.CallsGetLogger) : BindsLogger o name

/-- A name that stands for a logger after some occurrences: by convention, or because one of them
binds it. -/
inductive IsLoggerName (earlier : List Occurrence) : String → Prop where
  | log : IsLoggerName earlier "log"
  | logger : IsLoggerName earlier "logger"
  | bound {o : Occurrence} {name : String} (mem : o ∈ earlier) (binds : o.BindsLogger name) :
      IsLoggerName earlier name

/-- What a logger call calls after some occurrences: an attribute of the name of a logger. -/
inductive IsLoggerMethod (earlier : List Occurrence) : Expr → Prop where
  | attribute {span nameSpan : Span} {name attr : String} (h : IsLoggerName earlier name) :
      IsLoggerMethod earlier (.attribute span (.name nameSpan name) attr)

namespace LoggerNames

/-! ### One statement -/

lemma isGetLogger_iff {e : Expr} : isGetLogger e = true ↔ e.CallsGetLogger := by
  have hends : ∀ dotted : String, Text.endsWith ".getLogger".toList dotted.toList = true ↔
      ∃ base, dotted = base ++ ".getLogger" := by
    intro dotted
    rw [Text.endsWith, Option.isSome_iff_exists]
    constructor
    · rintro ⟨rest, hrest⟩
      have hreverse := congrArg List.reverse (Text.stripPrefix?_eq_some_iff.mp hrest)
      refine ⟨String.ofList rest.reverse, String.toList_inj.mp ?_⟩
      simpa using hreverse
    · rintro ⟨base, rfl⟩
      refine ⟨base.toList.reverse, Text.stripPrefix?_eq_some_iff.mpr ?_⟩
      rw [String.toList_append, List.reverse_append]
  constructor
  · intro h
    unfold isGetLogger at h
    split at h
    · split at h
      · rename_i dotted hdotted
        rw [Bool.or_eq_true, beq_iff_eq, hends] at h
        exact .call hdotted h
      · cases h
    · cases h
  · rintro ⟨chain, last⟩
    rw [isGetLogger, chain, Bool.or_eq_true, beq_iff_eq, hends]
    exact last

/-- The names together with what an occurrence binds to a logger. -/
def learn (loggers : LoggerNames) (o : Occurrence) : LoggerNames :=
  match o.part with
  | .stmt (.importNames _ names) => loggers.observeImport names
  | .stmt (.assign _ targets value) => loggers.observeAssign targets value
  | _ => loggers

lemma mem_filterMap_boundName? {targets : List Expr} {name : String} :
    name ∈ targets.filterMap boundName? ↔ ∃ nameSpan, .name nameSpan name ∈ targets := by
  rw [List.mem_filterMap]
  constructor
  · rintro ⟨target, hmem, hname⟩
    cases target <;> simp only [boundName?, Option.some.injEq, reduceCtorEq] at hname
    subst hname
    exact ⟨_, hmem⟩
  · rintro ⟨nameSpan, hmem⟩
    exact ⟨_, hmem, rfl⟩

lemma mem_names_learn {loggers : LoggerNames} {o : Occurrence} {name : String} :
    name ∈ (loggers.learn o).names ↔ name ∈ loggers.names ∨ o.BindsLogger name := by
  unfold learn
  split
  · rename_i span names hpart
    rw [observeImport, List.mem_append]
    refine or_congr_right ?_
    simp only [List.mem_map, List.mem_filter, beq_iff_eq]
    constructor
    · rintro ⟨a, ⟨hmem, hlogging⟩, rfl⟩
      exact .imported hpart hmem hlogging
    · rintro (⟨part, hmem, hlogging⟩ | ⟨part, -, -⟩)
      · rw [hpart] at part
        injection part with part
        injection part with _ part
        subst part
        exact ⟨_, ⟨hmem, hlogging⟩, rfl⟩
      · simp [hpart] at part
  · rename_i span targets value hpart
    have hbinds : o.BindsLogger name ↔
        isGetLogger value = true ∧ ∃ nameSpan, .name nameSpan name ∈ targets := by
      rw [isGetLogger_iff]
      constructor
      · rintro (⟨part, -, -⟩ | ⟨part, target, getLogger⟩)
        · simp [hpart] at part
        · rw [hpart] at part
          injection part with part
          injection part with _ htargets hvalue
          subst htargets hvalue
          exact ⟨getLogger, _, target⟩
      · rintro ⟨getLogger, nameSpan, target⟩
        exact .assigned hpart target getLogger
    rw [observeAssign, hbinds]
    split
    · rename_i hvalue
      rw [List.mem_append, mem_filterMap_boundName?, and_iff_right hvalue]
    · rename_i hvalue
      simp [hvalue]
  · rename_i himport hassign
    refine (or_iff_left ?_).symm
    rintro (⟨part, -, -⟩ | ⟨part, -, -⟩)
    · exact himport _ _ part
    · exact hassign _ _ _ part

/-! ### All that was entered -/

def known (earlier : List Occurrence) : LoggerNames :=
  earlier.foldl learn .conventional

lemma mem_names_known {earlier : List Occurrence} {name : String} :
    name ∈ (known earlier).names ↔ IsLoggerName earlier name := by
  have hfold : ∀ loggers : LoggerNames, name ∈ (earlier.foldl learn loggers).names ↔
      name ∈ loggers.names ∨ ∃ o ∈ earlier, o.BindsLogger name := by
    induction earlier with
    | nil => simp
    | cons o later ih =>
      intro loggers
      rw [List.foldl_cons, ih, mem_names_learn, List.exists_mem_cons_iff, or_assoc]
  rw [known, hfold]
  constructor
  · rintro (h | ⟨o, hmem, hbinds⟩)
    · have hname : name = "log" ∨ name = "logger" := by simpa [conventional] using h
      rcases hname with rfl | rfl
      · exact .log
      · exact .logger
    · exact .bound hmem hbinds
  · rintro (_ | _ | ⟨hmem, hbinds⟩)
    · exact .inl (List.mem_cons_self)
    · exact .inl (List.mem_cons_of_mem _ List.mem_cons_self)
    · exact .inr ⟨_, hmem, hbinds⟩

lemma isLoggerCall_known_iff {earlier : List Occurrence} {func : Expr} :
    (known earlier).isLoggerCall func = true ↔ IsLoggerMethod earlier func := by
  constructor
  · intro h
    unfold isLoggerCall isLogger at h
    split at h
    · split at h
      · rw [List.contains_iff_mem, mem_names_known] at h
        exact .attribute h
      · cases h
    · cases h
  · rintro ⟨h⟩
    rw [isLoggerCall, isLogger, List.contains_iff_mem, mem_names_known]
    exact h

end LoggerNames

end SaltConventions
