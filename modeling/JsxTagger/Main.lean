import JsxTagger.Cli.Run
import JsxTagger.Grammar.Program
import JsxTagger.Log.Clock

/-!
# The program

The files below the working directory, and those that an argument names, are loaded; the command is
run on them; and what it changed is stored. No program can be started from here, so formatting fails
as it does where the formatter is not installed.
-/

open JsxTagger JsxTagger.Files

namespace JsxTagger.Main

/-- The location of an absolute path. -/
def locationOf (path : String) : Location := Path.names path.toList

/-- The text of the path of a location. -/
def textOf (place : Location) : String := (FileSystem.pathOf place).text

/-- Loads what is at a location, and below it. -/
partial def load (place : Location) (fs : FileSystem) : IO FileSystem := do
  if (fs.get? place).isSome then return fs
  let path ← IO.FS.realPath (textOf place.dropLast)
  let here := if place.isEmpty then path else path / (place.getLast?.getD "")
  match (← here.symlinkMetadata).type with
  | .file => return fs.put place (.file defaultMode (← IO.FS.readBinFile here).data.toList)
  | .symlink => return fs.put place (.link (← IO.FS.realPath here).toString)
  | .dir =>
    let mut fs := fs.put place .directory
    for entry in ← here.readDir do fs ← load (place ++ [entry.fileName]) fs
    return fs
  | .other => return fs

/-- Loads the directories on the way to a location, without what they contain. -/
def addAncestors (place : Location) (fs : FileSystem) : FileSystem :=
  (List.range place.length).foldl
    (fun fs n => if n = 0 then fs else fs.put (place.take n) .directory) fs

/-- Loads what a text leads to, if it leads anywhere. -/
def loadNamed (fs : FileSystem) (text : String) : IO FileSystem := do
  try
    let place := locationOf (← IO.FS.realPath text).toString
    load place (addAncestors place fs)
  catch _ => return fs

/-- Stores an entry. -/
def store (place : Location) : Entry → IO Unit
  | .directory => IO.FS.createDirAll (textOf place)
  | .file _ content => do
    let temporary := textOf place ++ ".part"
    IO.FS.writeBinFile temporary ⟨content.toArray⟩
    IO.FS.rename temporary (textOf place)
  | .link _ => pure ()

/-- Stores what was changed. -/
def storeChanges (before after : FileSystem) : IO Unit := do
  for (place, _) in before.entries do
    if (after.get? place).isNone then IO.FS.removeFile (textOf place)
  for (place, e) in after.entries do
    if before.get? place != some e then store place e

/-- The time on the clock of the file system, in seconds. -/
def now : IO Int := do
  let (_, path) ← IO.FS.createTempFile
  let time := (← path.metadata).modified.sec
  IO.FS.removeFile path
  return time

/-- Ids that start anywhere. The step is odd, so no id comes twice. -/
def scatteredIds (start : Nat) : Instrument.IdStream := fun n =>
  "unique_id_" ++ String.ofList (Decimal.hexDigits 16
    ((start + n * 0x9E3779B97F4A7C15) % UInt64.size))

/-- The surroundings of the program. -/
def surroundings : IO Environment := do
  let moment := Log.Moment.ofSeconds (← now)
  let home ← IO.getEnv "HOME"
  let seed := (← IO.getRandomBytes 8).data.toList.foldl (fun n b => 256 * n + b.toNat) 0
  return {
    today := moment.date
    stamp := moment.stamp
    home := fun user => if user.isEmpty then home else none
    ids := scatteredIds seed
    rootOf := Grammar.parseTree
    room := 985
    workerRoom := 990 }

end JsxTagger.Main

/-- Runs the command that the arguments stand for. -/
def main (args : List String) : IO UInt32 := do
  let workDir := JsxTagger.Main.locationOf (← IO.currentDir).toString
  let mut files : FileSystem := { workDir }
  for arg in "." :: args do files ← JsxTagger.Main.loadNamed files arg
  let outcome := Cli.run (← JsxTagger.Main.surroundings) files 0 args
  JsxTagger.Main.storeChanges files outcome.files
  for text in outcome.ending.printed do IO.print text
  if let some fault := outcome.ending.fault then IO.eprintln s!"{fault.kind.name}: {fault.text}"
  if outcome.ending.exit = 2 then IO.eprintln "usage: (scan | build) INPUT_ROOT [OPTIONS]"
  return UInt32.ofNat outcome.ending.exit
