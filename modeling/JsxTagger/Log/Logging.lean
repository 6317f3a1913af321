import JsxTagger.Files.System
import JsxTagger.Log.Naming
import JsxTagger.Log.Record

/-!
# Where the log goes

Records go to the console and to a log file, which lies in a directory for the day. A record is
written if its level reaches the threshold. Setting up the log again replaces the console and the
file of the last time.
-/

namespace JsxTagger.Log

open Files

/-- A threshold is a number; the levels have numbers of their own. -/
abbrev Threshold := Int

namespace Threshold

/-- The thresholds that have names. -/
def named : List (String × Threshold) :=
  [("CRITICAL", 50), ("FATAL", 50), ("ERROR", 40), ("WARN", 30), ("WARNING", 30), ("INFO", 20),
   ("DEBUG", 10), ("NOTSET", 0)]

/-- The threshold with the given name. -/
def ofName (s : String) : Except Fault Threshold :=
  match named.lookup s with
  | some t => .ok t
  | none => .error ⟨.badValue, s!"Unknown level: {Text.quoted s}"⟩

/-- The name of a threshold. -/
def name (t : Threshold) : String :=
  match Level.all.find? fun l => (l.rank : Int) == t with
  | some l => l.name
  | none => if t = 0 then "NOTSET" else s!"Level {t}"

end Threshold

/-- An open log file. -/
structure LogFile where
  /-- Where it is. -/
  place : Location
  /-- The least level that it takes. -/
  threshold : Threshold
deriving Repr, Inhabited

/-- Where the log goes. -/
structure Logging where
  /-- The least level that is logged at all. -/
  threshold : Threshold := Level.warning.rank
  /-- The least level that the console shows, if it shows any. -/
  console : Option Threshold := none
  /-- The log file, if there is one. -/
  file : Option LogFile := none
deriving Repr, Inhabited

/-- The permission bits of a log file. -/
def fileMode : Nat := 0o644

/-- A record as a line of a log file. -/
def Record.line (stamp : String) (r : Record) : String :=
  s!"[{stamp}] [{r.level.name}] [{r.loggerName}] {r.message}\n"

/-- Appends bytes to the file at a location. -/
def append (fs : FileSystem) (place : Location) (bytes : Bytes) : FileSystem :=
  match fs.get? place with
  | some (.file mode content) => fs.put place (.file mode (content ++ bytes))
  | _ => fs.put place (.file fileMode bytes)

namespace Logging

/-- Whether a record is logged by a handler with the given threshold. -/
def passes (l : Logging) (handler : Threshold) (r : Record) : Bool :=
  l.threshold ≤ r.level.rank && handler ≤ r.level.rank

/-- Writes a record to the log file. A record without a byte form is dropped. -/
def write (l : Logging) (stamp : String) (r : Record) (fs : FileSystem) : FileSystem :=
  match l.file, Bytes.ofText? (r.line stamp) with
  | some f, .ok line => if l.passes f.threshold r then append fs f.place line else fs
  | _, _ => fs

/-- Where the log goes once a file was put at a place. A file in the place of the log file cuts off the
log: the records go on to the file that was there before. -/
def withoutFileAt (l : Logging) (place : Option Location) : Logging :=
  if l.file.map (·.place) = place then { l with file := none } else l

/-- Makes the day's directory and a new log file in it. -/
def openFile (threshold : Threshold) (dayDir : Path) : FileM (Path × LogFile) := do
  let dir ← FileM.locate dayDir
  let name ← FileM.look fun fs => nextName (fs.namesIn dir)
  let place := dir ++ [name]
  modify (append · place [])
  pure (dayDir.join ⟨.relative, [name]⟩, ⟨place, threshold⟩)

/-- Sets up the log. Yields the path of the log file; there is none if no directory is given or if
the day's directory cannot be made. Whatever goes wrong, what was set up before stays. -/
def configure (l : Logging) (level : String) (logDir : Option Path) (today : String)
    (fs : FileSystem) : Except Fault (Option Path) × Logging × FileSystem :=
  match Threshold.ofName level with
  | .error fault => (.error fault, l, fs)
  | .ok threshold =>
    let console : Logging := { threshold, console := some threshold }
    match logDir with
    | none => (.ok none, console, fs)
    | some logDir =>
      let dayDir := logDir.join (Path.ofText today)
      match (FileM.makeDirs dayDir).run.run fs with
      | (.error fault, fs) =>
        if fault.kind matches .system _ then (.ok none, console, fs)
        else (.error fault, console, fs)
      | (.ok (), fs) =>
        match (openFile threshold dayDir).run.run fs with
        | (.error fault, fs) => (.error fault, console, fs)
        | (.ok (path, file), fs) => (.ok (some path), { console with file := some file }, fs)

end Logging

end JsxTagger.Log
