import JsxTagger.Failure.Fault

/-!
# Outcomes

What became of each file, and the report of a whole run.
-/

namespace JsxTagger

/-- What became of a file. -/
inductive FileStatus where
  | instrumented
  | copied
  | failed
  | cancelled
deriving DecidableEq, Repr, Inhabited

namespace FileStatus

/-- All statuses. -/
def all : List FileStatus := [instrumented, copied, failed, cancelled]

/-- The name of a status. -/
def name : FileStatus → String
  | instrumented => "instrumented"
  | copied => "copied"
  | failed => "failed"
  | cancelled => "cancelled"

/-- The status with the given name. -/
def ofName (s : String) : Except Fault FileStatus :=
  match all.find? (·.name == s) with
  | some status => .ok status
  | none => .error ⟨.badValue, s!"{Text.quoted s} is not a valid FileStatus"⟩

/-- Whether a file was written. -/
def isWritten : FileStatus → Bool
  | instrumented | copied => true
  | failed | cancelled => false

end FileStatus

/-- What became of one file. -/
structure FileOutcome where
  /-- The path of the file from the root of the project. -/
  path : String
  /-- What became of it. -/
  status : FileStatus
  /-- What there is to say about it. -/
  message : String := ""
deriving DecidableEq, Repr, Inhabited

/-- The report of a run. -/
structure RunReport where
  /-- What became of each file. -/
  outcomes : List FileOutcome := []
  /-- The paths of the files that could not be scanned, with the reason. -/
  scanFailures : List (String × String) := []
  /-- The paths of the files that mount an application. -/
  rootFiles : List String := []
deriving DecidableEq, Repr, Inhabited

namespace RunReport

/-- The number of files with a status. -/
def count (r : RunReport) (s : FileStatus) : Nat := r.outcomes.countP (·.status == s)

/-- The outcomes of the files that failed. -/
def failed (r : RunReport) : List FileOutcome := r.outcomes.filter (·.status == .failed)

/-- Whether every file was scanned and written. -/
def ok (r : RunReport) : Bool :=
  r.failed.isEmpty && r.scanFailures.isEmpty && r.count .cancelled == 0

end RunReport

end JsxTagger
