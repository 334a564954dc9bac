import SaltConventions.Linter

/-!
# Reports

The outcome of checking a set of paths: the findings of all files in order, and a summary. Files
that cannot be read or parsed are counted and otherwise left out.
-/

namespace SaltConventions

/-- Counts over all files of a run. Severities without findings have no count. -/
structure Summary where
  totalFiles : Nat
  parseFailures : Nat
  counts : List (Severity × Nat)
  deriving DecidableEq, Repr, Inhabited

/-- The outcome of a run. -/
structure Report where
  diagnostics : List Diagnostic
  summary : Summary
  deriving DecidableEq, Repr, Inhabited

namespace Report

def hasFailures (report : Report) (threshold : Severity) : Bool :=
  report.diagnostics.any fun d => threshold.rank ≤ d.severity.rank

/-- How many findings there are of each severity. -/
def countSeverities (found : List Diagnostic) : List (Severity × Nat) :=
  (Severity.all.map fun s => (s, found.countP fun d => d.severity == s)).filter (·.2 != 0)

/-- Whether one finding of a run comes before another: by file, then by line, then by code. -/
def beforeInRun (a b : Diagnostic) : Bool :=
  match a.file.order b.file with
  | .lt => true
  | .gt => false
  | .eq => Linter.beforeInFile a b

/-- The elements of a list that differ from the one kept before them, `kept` to begin with. -/
def dedupFrom {α : Type} (same : α → α → Bool) (kept : α) : List α → List α
  | [] => []
  | a :: later => if same kept a then dedupFrom same kept later else a :: dedupFrom same a later

/-- A list with one element of each run of elements that are the same, namely the first. -/
def dedup {α : Type} (same : α → α → Bool) : List α → List α
  | [] => []
  | a :: later => a :: dedupFrom same a later

/-- The source files that some paths name or hold, in order; of paths that differ in spelling only,
the first is kept. -/
def collectFiles (tree : FileTree) (paths : List Path) : List Path :=
  let found := (paths.flatMap tree.filesUnder).filter (Path.hasExtension "py")
  dedup (fun p q => p.order q == .eq) (found.mergeSort fun p q => p.order q != .gt)

def ofResults (results : List (Except LintError (List Diagnostic))) : Report :=
  let found := (results.filterMap Except.toOption).flatten.mergeSort beforeInRun
  { diagnostics := found
    summary :=
      { totalFiles := results.length
        parseFailures := results.countP fun result => result.toOption.isNone
        counts := countSeverities found } }

def lintPaths (linter : Linter) (parse : Parser) (paths : List Path) : Report :=
  ofResults ((collectFiles linter.env.tree paths).map (linter.lintFile parse))

def summaryToJson (summary : Summary) : Json :=
  .object
    [("total_files", .ofNat summary.totalFiles), ("parse_failures", .ofNat summary.parseFailures),
      ("counts", .object (summary.counts.map fun (s, n) => (s.name, .ofNat n)))]

def toJson (report : Report) : Json :=
  .object
    [("diagnostics", .array (report.diagnostics.map Diagnostic.toJson)),
      ("summary", summaryToJson report.summary)]

/-- A report as text: a line for each finding, and a summary. -/
def toText (report : Report) : String :=
  let findings := report.diagnostics.map fun d => d.display ++ "\n"
  let skipped :=
    if 0 < report.summary.parseFailures then
      [" * Files skipped: " ++ toString report.summary.parseFailures ++ "\n"]
    else []
  let counts :=
    report.summary.counts.map fun (s, n) => " * " ++ s.name ++ ": " ++ toString n ++ "\n"
  String.join
    (findings ++ ["\nSummary\n", " * Files checked: " ++ toString report.summary.totalFiles ++ "\n"]
      ++ skipped ++ counts)

end Report

end SaltConventions
