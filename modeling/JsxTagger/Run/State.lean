import JsxTagger.Files.Access
import JsxTagger.Files.Memory
import JsxTagger.Log.Logging
import JsxTagger.Progress.Event
import JsxTagger.Run.Context
import JsxTagger.Run.Environment

/-!
# The state of a run

Everything that a run changes: the files, the log, the context that its stages share, the progress
that it reports and the ids that it has drawn.

A record is written to the log file at once, so a stage that reads the log file sees what was logged
before. A file that is put in the place of the log file cuts off the log.
-/

namespace JsxTagger

open Files

/-- Where the instrumented copy goes. -/
inductive Sink where
  /-- Into the file system. -/
  | disk
  /-- Into memory. -/
  | memory (writer : MemoryWriter)
deriving Repr, Inhabited

/-- What a run changes. -/
structure RunState where
  /-- The files. -/
  files : FileSystem
  /-- Where the log goes. -/
  logging : Log.Logging := {}
  /-- All records that were logged, whatever their level. -/
  log : List Log.Record := []
  /-- What the stages know together. -/
  context : RunContext := {}
  /-- What the stages have reported. -/
  events : List Progress.Event := []
  /-- The number of ids that were drawn. -/
  drawn : Nat := 0
  /-- The files that were read for the instrumented copy. -/
  reads : List Path := []
  /-- Where the instrumented copy goes. -/
  sink : Sink := .disk
deriving Inhabited

namespace RunState

/-- Logs a record. -/
def note (s : RunState) (env : Environment) (r : Log.Record) : RunState :=
  { s with log := s.log ++ [r], files := s.logging.write env.stamp r s.files }

/-- Logs several records. -/
def noteAll (s : RunState) (env : Environment) (rs : List Log.Record) : RunState :=
  rs.foldl (fun s r => s.note env r) s

/-- Reports progress. -/
def report (s : RunState) (e : Progress.Event) : RunState := { s with events := s.events ++ [e] }

/-- Changes the context. -/
def inContext (s : RunState) (f : RunContext → RunContext) : RunState :=
  { s with context := f s.context }

/-- Does an operation on the files. -/
def access {α : Type} (s : RunState) (m : AccessM α) : Except Trouble α × RunState :=
  let (result, files) := m.run.run s.files
  (result, { s with files })

/-- The state once a file was put at a destination, with the files as they are then. -/
def landed (s : RunState) (destination : Path) (files : FileSystem) : RunState :=
  { s with files, logging := s.logging.withoutFileAt (landing? s.files destination) }

/-- Does an operation that puts a file at a destination. -/
def putFile (s : RunState) (destination : Path) (m : AccessM Unit) : Except Trouble Unit × RunState :=
  match m.run.run s.files with
  | (.ok (), files) => (.ok (), s.landed destination files)
  | (.error t, files) => (.error t, { s with files })

/-- Does an operation on the sink, by how it is done on disk and in memory. -/
def intoSink (s : RunState) (onDisk : RunState → Except Trouble Unit × RunState)
    (inMemory : MemoryWriter → Except Failure MemoryWriter) : Except Trouble Unit × RunState :=
  match s.sink with
  | .disk => onDisk s
  | .memory writer =>
    match inMemory writer with
    | .ok writer => (.ok (), { s with sink := .memory writer })
    | .error f => (.error (.failure f), s)

/-- Writes a text to the sink, with the permission bits of a file. -/
def writeFile (s : RunState) (destination : Path) (text : String) (modeFrom : Path) :
    Except Trouble Unit × RunState :=
  s.intoSink (·.putFile destination (Files.writeFile destination text (some modeFrom)))
    (·.write destination text)

/-- Copies a file to the sink. -/
def copyFile (s : RunState) (source destination : Path) : Except Trouble Unit × RunState :=
  s.intoSink (·.putFile destination (Files.copyFile source destination)) (·.copy source destination)

/-- Makes a directory in the sink. -/
def makeDirs (s : RunState) (p : Path) : Except Trouble Unit × RunState :=
  s.intoSink (·.access (Files.makeDirs p)) (.ok <| ·.makeDirs p)

end RunState

end JsxTagger
