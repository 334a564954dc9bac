import Mathlib.Tactic.Lemma
import SaltConventions.Cli

/-!
# Further arguments

Keys and packages may be given more than once on a command line. So an argument with further ones
can be put in front of any command line that asks for a run: what is read after it is read as
before, and the request is the same with the further keys and packages in it.
-/

namespace SaltConventions.Cli

/-- The options with further keys and packages before their own. -/
def Options.widened (keys packages : List String) (options : Options) : Options :=
  { options with disable := keys ++ options.disable, allowed := packages ++ options.allowed }

/-- `t` has read what `s` has read, and further keys and packages before. -/
structure State.Widened (keys packages : List String) (s t : State) : Prop where
  options : t.options = s.options.widened keys packages
  seen : ∀ flag : Flag, flag.repeats = false → t.seen.contains flag = s.seen.contains flag

variable {keys packages : List String} {s t next : State}

namespace State.Widened

lemma seen_cons (h : s.Widened keys packages t) (flag other : Flag)
    (hother : other.repeats = false) :
    (flag :: t.seen).contains other = (flag :: s.seen).contains other := by
  rw [List.contains_cons, List.contains_cons, h.seen other hother]

lemma flag? (h : s.Widened keys packages t) {flag : Flag}
    (hflag : s.flag? flag = some (.next next)) :
    ∃ next', t.flag? flag = some (.next next') ∧ next.Widened keys packages next' := by
  unfold State.flag? at hflag ⊢
  split at hflag
  next => cases hflag
  next hnew =>
    cases flag <;> simp only [Option.some.injEq, Step.next.injEq, reduceCtorEq] at hflag
    all_goals
      subst hflag
      rw [← h.seen _ rfl] at hnew
      simp only [hnew, Bool.false_eq_true, if_false, Option.some.injEq, Step.next.injEq,
        exists_eq_left']
      exact ⟨by simp [h.options, Options.widened], h.seen_cons _⟩

lemma value? (h : s.Widened keys packages t) {flag : Flag} {value : String}
    (hvalue : s.value? flag value = some next) :
    ∃ next', t.value? flag value = some next' ∧ next.Widened keys packages next' := by
  have hguard : (t.seen.contains flag && !flag.repeats) =
      (s.seen.contains flag && !flag.repeats) := by
    cases hrepeats : flag.repeats with
    | true => simp
    | false => rw [h.seen flag hrepeats]
  unfold State.value? at hvalue ⊢
  rw [hguard]
  split at hvalue
  next => cases hvalue
  next hnew =>
    rw [if_neg hnew]
    cases flag
    case config =>
      dsimp only at hvalue ⊢
      split at hvalue
      next => cases hvalue
      next hne =>
        obtain rfl := Option.some.inj hvalue
        rw [if_neg hne]
        exact ⟨_, rfl, by simp [h.options, Options.widened], h.seen_cons _⟩
    case failOn =>
      obtain ⟨severity, hseverity, rfl⟩ := Option.map_eq_some_iff.mp hvalue
      exact ⟨_, Option.map_eq_some_iff.mpr ⟨severity, hseverity, rfl⟩,
        by simp [h.options, Options.widened], h.seen_cons _⟩
    case disable | allowed =>
      obtain rfl := Option.some.inj hvalue
      exact ⟨_, rfl, by simp [h.options, Options.widened], h.seen_cons _⟩
    all_goals cases hvalue

lemma path? (h : s.Widened keys packages t) {text : String} (hpath : s.path? text = some next) :
    ∃ next', t.path? text = some next' ∧ next.Widened keys packages next' := by
  unfold State.path? at hpath ⊢
  split at hpath
  next => cases hpath
  next hne =>
    obtain rfl := Option.some.inj hpath
    rw [if_neg hne]
    exact ⟨_, rfl, by simp [h.options, Options.widened], h.seen⟩

lemma paths? (h : s.Widened keys packages t) {texts : List String}
    (hpaths : s.paths? texts = some next) :
    ∃ next', t.paths? texts = some next' ∧ next.Widened keys packages next' := by
  induction texts generalizing s t with
  | nil =>
    obtain rfl := Option.some.inj hpaths
    exact ⟨t, rfl, h⟩
  | cons text later ih =>
    rw [State.paths?] at hpaths ⊢
    cases hpath : s.path? text with
    | none => simp [hpath] at hpaths
    | some middle =>
      rw [hpath] at hpaths
      obtain ⟨middle', hpath', hmiddle⟩ := h.path? hpath
      rw [hpath']
      exact ih hmiddle hpaths

lemma request {options : Options} (h : s.Widened keys packages t)
    (hrequest : s.request = .run options) :
    t.request = .run (options.widened keys packages) := by
  unfold State.request at hrequest ⊢
  obtain rfl := Request.run.inj hrequest
  rw [h.options]
  rfl

lemma readLetters (h : s.Widened keys packages t) {letters : List Char}
    {waiting : Option (Flag × Option String)}
    (hletters : Cli.readLetters s letters = some (.next next, waiting)) :
    ∃ next', Cli.readLetters t letters = some (.next next', waiting) ∧
      next.Widened keys packages next' := by
  induction letters generalizing s t with
  | nil =>
    simp only [Cli.readLetters, Option.some.injEq, Prod.mk.injEq, Step.next.injEq] at hletters
    obtain ⟨rfl, rfl⟩ := hletters
    exact ⟨t, rfl, h⟩
  | cons c later ih =>
    unfold Cli.readLetters at hletters ⊢
    split at hletters
    next => cases hletters
    next flag _ =>
      split at hletters
      next hvalue =>
        simp only [Option.some.injEq, Prod.mk.injEq, Step.next.injEq] at hletters
        obtain ⟨rfl, rfl⟩ := hletters
        rw [if_pos hvalue]
        exact ⟨t, rfl, h⟩
      next hvalue =>
        rw [if_neg hvalue]
        split at hletters
        next => cases hletters
        next middle hflag =>
          obtain ⟨middle', hflag', hmiddle⟩ := h.flag? hflag
          rw [hflag']
          exact ih hmiddle hletters
        next request hflag => simp at hletters

end State.Widened

/-! ### Requests that end the reading -/

lemma State.flag?_ne_run {flag : Flag} {request : Request}
    (h : s.flag? flag = some (.done request)) (options : Options) : request ≠ .run options := by
  unfold State.flag? at h
  split at h
  next => cases h
  next => cases flag <;> simp_all <;> simp [← h]

lemma readLetters_ne_run {letters : List Char} {request : Request}
    {waiting : Option (Flag × Option String)}
    (h : readLetters s letters = some (.done request, waiting)) (options : Options) :
    request ≠ .run options := by
  induction letters generalizing s with
  | nil => simp [readLetters] at h
  | cons c later ih =>
    unfold readLetters at h
    split at h
    next => cases h
    next flag _ =>
      split at h
      next => simp at h
      next =>
        split at h
        next => cases h
        next => exact ih h
        next hflag =>
          simp only [Option.some.injEq, Prod.mk.injEq, Step.done.injEq] at h
          exact h.1 ▸ State.flag?_ne_run hflag options

/-! ### Reading a command line -/

section Forms

variable {flag : Flag} {text name value : String} {later : List String}

lemma readArguments_value (h : isValue text = true) :
    readArguments s (some flag) (text :: later) =
      (s.value? flag text).bind fun next => readArguments next none later := by
  rw [readArguments]
  simp only [h, if_true]
  cases s.value? flag text <;> rfl

lemma readArguments_long (h : Argument.ofString text = .long name (some value))
    (hfind : Flag.all.find? (·.name == name) = some flag) (htakes : flag.takesValue = true) :
    readArguments s none (text :: later) =
      (s.value? flag value).bind fun next => readArguments next none later := by
  rw [readArguments]
  simp only [h, hfind, htakes, if_true]
  cases s.value? flag value <;> rfl

lemma readArguments_short {letters : List Char} (h : Argument.ofString text = .short letters)
    (hletters : readLetters s letters = some (.next next, some (flag, some value))) :
    readArguments s none (text :: later) =
      (next.value? flag value).bind fun next => readArguments next none later := by
  rw [readArguments]
  simp only [h, hletters]
  cases next.value? flag value <;> rfl

end Forms

/-- What is read of these arguments after further keys and packages is read as before. -/
def ReadsOn (keys packages args : List String) : Prop :=
  ∀ {s t : State} {waiting : Option Flag} {options : Options}, s.Widened keys packages t →
    readArguments s waiting args = some (.run options) →
      readArguments t waiting args = some (.run (options.widened keys packages))

namespace ReadsOn

variable {text name : String} {later : List String} {options : Options}

lemma bind (on : ReadsOn keys packages later) {taken taken' : Option State}
    (hstep : ∀ next, taken = some next →
      ∃ next', taken' = some next' ∧ next.Widened keys packages next')
    (hread : (taken.bind fun next => readArguments next none later) = some (.run options)) :
    (taken'.bind fun next => readArguments next none later) =
      some (.run (options.widened keys packages)) := by
  obtain ⟨next, hnext, hread⟩ := Option.bind_eq_some_iff.mp hread
  obtain ⟨next', rfl, hwidened⟩ := hstep next hnext
  exact on hwidened hread

lemma long (on : ReadsOn keys packages later) (h : s.Widened keys packages t)
    {value : Option String} (hform : Argument.ofString text = .long name value)
    (hread : readArguments s none (text :: later) = some (.run options)) :
    readArguments t none (text :: later) = some (.run (options.widened keys packages)) := by
  cases hfind : Flag.all.find? (·.name == name) with
  | none => simp [readArguments, hform, hfind] at hread
  | some flag =>
    cases htakes : flag.takesValue with
    | true =>
      cases value with
      | none =>
        rw [readArguments] at hread ⊢
        simp only [hform, hfind, htakes, if_true] at hread ⊢
        exact on h hread
      | some value =>
        rw [readArguments_long hform hfind htakes] at hread ⊢
        exact on.bind (fun _ => h.value?) hread
    | false =>
      cases value with
      | some value => simp [readArguments, hform, hfind, htakes] at hread
      | none =>
        rw [readArguments] at hread ⊢
        simp only [hform, hfind, htakes, Option.isSome_none, Bool.false_eq_true, if_false]
          at hread ⊢
        split at hread
        next => cases hread
        next middle hflag =>
          obtain ⟨middle', hflag', hmiddle⟩ := h.flag? hflag
          rw [hflag']
          exact on hmiddle hread
        next request hflag =>
          exact absurd (Option.some.inj hread) (State.flag?_ne_run hflag options)

lemma short (on : ReadsOn keys packages later) (h : s.Widened keys packages t)
    {letters : List Char} (hform : Argument.ofString text = .short letters)
    (hread : readArguments s none (text :: later) = some (.run options)) :
    readArguments t none (text :: later) = some (.run (options.widened keys packages)) := by
  cases hletters : readLetters s letters with
  | none => simp [readArguments, hform, hletters] at hread
  | some taken =>
    obtain ⟨step, waiting⟩ := taken
    cases step with
    | done request =>
      simp only [readArguments, hform, hletters, Option.some.injEq] at hread
      exact absurd hread (readLetters_ne_run hletters options)
    | next middle =>
      obtain ⟨middle', hletters', hmiddle⟩ := h.readLetters hletters
      rcases waiting with _ | ⟨flag, _ | value⟩
      · simp only [readArguments, hform, hletters, hletters'] at hread ⊢
        exact on hmiddle hread
      · simp only [readArguments, hform, hletters, hletters'] at hread ⊢
        exact on hmiddle hread
      · rw [readArguments_short hform hletters] at hread
        rw [readArguments_short hform hletters']
        exact on.bind (fun _ => hmiddle.value?) hread

lemma value (on : ReadsOn keys packages later) (h : s.Widened keys packages t) {flag : Flag}
    (hread : readArguments s (some flag) (text :: later) = some (.run options)) :
    readArguments t (some flag) (text :: later) = some (.run (options.widened keys packages)) := by
  by_cases hvalue : isValue text = true
  · rw [readArguments_value hvalue] at hread ⊢
    exact on.bind (fun _ => h.value?) hread
  · simp [readArguments, hvalue] at hread

end ReadsOn

end SaltConventions.Cli
