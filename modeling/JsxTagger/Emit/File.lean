import JsxTagger.Emit.Layout
import JsxTagger.Format.Formatter
import JsxTagger.Instrument.Trouble
import JsxTagger.Report.Outcome
import JsxTagger.Run.State

/-!
# Emitting one file

A file with components is read, instrumented, formatted and written; every other file is copied.
Failures become the outcome of the file. Whatever else goes wrong is a fault, which is not the
file's alone.

A run may be cancelled while a file is worked on. It is looked at twice: before anything is done,
and before the file is written.
-/

namespace JsxTagger.Emit

open Files

/-- The name under which emission writes to the log. -/
def logger : String := "core.emitter"

/-- How the files of a run are read. -/
abbrev Reader := FileSystem → Path → Except Trouble String

/-- What emission works with. -/
structure Tools where
  /-- The surroundings of the run. -/
  env : Environment
  /-- The settings of the run. -/
  settings : Settings
  /-- The formatter. -/
  formatter : Format.Formatter
  /-- How files are read. -/
  reader : Reader := readText

/-- The outcome of a file that is in trouble. A fault is handed on. -/
def settle (env : Environment) (rel : String) (t : Trouble) (s : RunState) :
    Except Fault FileOutcome × RunState :=
  match t with
  | .failure f =>
    (.ok ⟨rel, .failed, f.message⟩,
      s.note env ⟨.error, logger, s!"Failed to emit {rel}: {f.message}"⟩)
  | .fault fault => (.error fault, s)

/-- Copies a file. -/
def copyOne (tools : Tools) (rel : String) (source destination : Path) (s : RunState) :
    Except Fault FileOutcome × RunState :=
  match s.copyFile source destination with
  | (.ok (), s) => (.ok ⟨rel, .copied, ""⟩, s)
  | (.error t, s) => settle tools.env rel t s

/-- A file that is ready to be written. -/
structure Prepared where
  /-- The text to be written. -/
  text : String
  /-- The number of edits. -/
  edits : Nat
  /-- The names of the components whose declaration was not found. -/
  missing : List Json

/-- Reads a file and instruments it. -/
def draft (tools : Tools) (rel : String) (source : Path) (s : RunState) :
    Except Trouble Instrument.Instrumented × RunState :=
  let s := { s with reads := s.reads ++ [source] }
  match tools.reader s.files source with
  | .error t => (.error t, s)
  | .ok text =>
    match s.context.componentsFor (.str rel) with
    | .error fault => (.error (.fault fault), s)
    | .ok (components, context) =>
      let s := { s with context }
      match Instrument.instrumentSource tools.env.workerRoom tools.env.parse tools.env.ids text components
          (some rel) s.drawn with
      | .error e => (.error e.trouble, s)
      | .ok (result, drawn, log) => (.ok result, { s with drawn }.noteAll tools.env log)

/-- Formats a file that was instrumented. -/
def polish (tools : Tools) (destination : Path) (result : Instrument.Instrumented) (s : RunState) :
    Except Trouble Prepared × RunState :=
  let reply := tools.formatter s.files result.text destination
  let s := if reply.cancels then s.inContext (·.cancel) else s
  (reply.result.map fun text => ⟨text, result.edits, result.missing⟩, s)

/-- Reads a file, instruments it and formats the result. -/
def prepare (tools : Tools) (rel : String) (source destination : Path) (s : RunState) :
    Except Trouble Prepared × RunState :=
  match draft tools rel source s with
  | (.error t, s) => (.error t, s)
  | (.ok result, s) => polish tools destination result s

/-- The names of components, separated by commas. Only texts can be joined. -/
def joinNames (names : List Json) : Except Fault String :=
  match names.findIdx? fun j => !(j matches .str _) with
  | none => .ok (", ".intercalate (names.map Json.plain))
  | some i =>
    let found := ((names[i]?).getD .null).typeName
    .error ⟨.wrongType, s!"sequence item {i}: expected str instance, {found} found"⟩

/-- The outcome of a file that was instrumented. -/
def instrumented (rel : String) (missing : List Json) : Except Fault FileOutcome :=
  if missing.isEmpty then .ok ⟨rel, .instrumented, ""⟩
  else do return ⟨rel, .instrumented, "declaration not found: " ++ (← joinNames missing)⟩

/-- Writes a file that is ready. -/
def write (tools : Tools) (rel : String) (source destination : Path) (p : Prepared)
    (s : RunState) : Except Fault FileOutcome × RunState :=
  match s.writeFile destination p.text source with
  | (.error t, s) => settle tools.env rel t s
  | (.ok (), s) =>
    (instrumented rel p.missing,
      s.note tools.env ⟨.debug, logger, s!"Instrumented {rel} ({p.edits} edits)"⟩)

/-- Writes a file that is ready, unless the run was cancelled meanwhile. -/
def commit (tools : Tools) (rel : String) (source destination : Path) (p : Prepared)
    (s : RunState) : Except Fault FileOutcome × RunState :=
  if s.context.cancelled then (.ok ⟨rel, .cancelled, ""⟩, s)
  else write tools rel source destination p s

/-- Emits a file whose path is known. -/
def emitAt (tools : Tools) (f : FileNode) (rel : String) (s : RunState) :
    Except Fault FileOutcome × RunState :=
  let source := tools.settings.inputRoot.join (Path.ofText rel)
  let destination := tools.settings.outputRoot.join (Path.ofText rel)
  if s.context.cancelled then (.ok ⟨rel, .cancelled, ""⟩, s)
  else if !f.shouldInstrument then copyOne tools rel source destination s
  else
    match prepare tools rel source destination s with
    | (.error t, s) => settle tools.env rel t s
    | (.ok p, s) => commit tools rel source destination p s

/-- Emits a file. -/
def emitFile (tools : Tools) (f : FileNode) (s : RunState) :
    Except Fault FileOutcome × RunState :=
  match f.fullPath with
  | .str rel => emitAt tools f rel s
  | j =>
    match joinValue tools.settings.inputRoot j with
    | .error fault => (.error fault, s)
    | .ok _ => (.ok ⟨j.plain, .cancelled, ""⟩, s)

end JsxTagger.Emit
