import RequestScript.Path

/-!
# Reports

A conversion reports one outcome for each file: where it came from, and either
where its commands went and how many they are, or what went wrong.
-/

namespace RequestScript

/-- What became of one file. -/
structure Outcome where
  source : Path
  ok : Bool
  output : Option Path := none
  commandCount : Int := 0
  errorMessage : Option Text := none
deriving DecidableEq, Repr

/-- What became of all files, in the order in which they were converted. -/
structure Report where
  outcomes : List Outcome := []
deriving DecidableEq, Repr, Inhabited

namespace Report

/-- Whether every file was converted. -/
def ok (report : Report) : Bool :=
  report.outcomes.all (·.ok)

/-- The outcomes of the files that were not converted. -/
def failed (report : Report) : List Outcome :=
  report.outcomes.filter fun outcome => !outcome.ok

/-- The number of commands of all files. -/
def commandCount (report : Report) : Int :=
  report.outcomes.foldr (fun outcome count => outcome.commandCount + count) 0

/-- A report is good exactly when no file failed. -/
theorem ok_iff_failed_eq_nil (report : Report) : report.ok = true ↔ report.failed = [] := by
  simp [ok, failed, List.filter_eq_nil_iff]

end Report

end RequestScript
