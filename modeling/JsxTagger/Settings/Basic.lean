import JsxTagger.Files.Path
import JsxTagger.Log.Record

/-!
# Settings

The settings of one run, with their default values. They are checked once, when they are built, and
do not change afterwards.
-/

namespace JsxTagger

open Files

/-- The settings of one run. -/
structure Settings where
  /-- The directory that holds the sources. -/
  inputRoot : Path
  /-- The directory that receives the instrumented copy. -/
  outputRoot : Path
  /-- The rules of the formatter. -/
  formatConfig : Path := ⟨.relative, [".prettierrc"]⟩
  /-- Where the structure document is written. -/
  structurePath : Path := ⟨.relative, ["structure.json"]⟩
  /-- The extensions of the files to look into, sorted. -/
  extensions : List String := [".js", ".jsx"]
  /-- The names of directories that are never entered, sorted. -/
  ignoreDirs : List String := [".git", ".next", "node_modules"]
  /-- The number of workers, if it is given. -/
  maxWorkers : Option Nat := none
  /-- The command that formats. -/
  formatCommand : String := "prettier"
  /-- Instrumented files are formatted. -/
  formatOutput : Bool := true
  /-- The first failure stops the run. -/
  failFast : Bool := false
  /-- The directory of the log directories. -/
  logDir : Path := ⟨.relative, ["logs"]⟩
  /-- The least level that is logged. -/
  logLevel : Log.Level := .info
deriving Repr, Inhabited

namespace Settings

/-- The number of workers on a machine with the given number of processors. -/
def workerCount (s : Settings) (processors : Nat) : Nat :=
  match s.maxWorkers with
  | some n => n
  | none => if processors = 0 then 1 else processors

end Settings

end JsxTagger
