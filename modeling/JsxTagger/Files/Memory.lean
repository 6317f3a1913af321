import JsxTagger.Failure.Failure
import JsxTagger.Files.Path

/-!
# Files in memory

A reader that answers from memory and a writer that only notes what is asked of it. Stages of a run
can be tried out with them without touching any files.
-/

namespace JsxTagger.Files

/-- A reader that answers from memory. -/
structure MemoryReader where
  /-- The text of every path, if it is set. -/
  always : Option String := none
  /-- The texts by path, if there are any. -/
  table : Option (List (Path × String)) := none
  /-- The paths that were asked for. -/
  reads : List Path := []
deriving Repr, Inhabited

/-- The text of a path. Without a table every path has the empty text. -/
def MemoryReader.read (r : MemoryReader) (p : Path) : Except Failure String × MemoryReader :=
  let r := { r with reads := r.reads ++ [p] }
  match r.always, r.table with
  | some text, _ => (.ok text, r)
  | none, some table =>
    match table.lookup p with
    | some text => (.ok text, r)
    | none => (.error { category := .fileRead, path := p.text }, r)
  | none, none => (.ok "", r)

/-- A writer that notes what is asked of it. -/
structure MemoryWriter where
  /-- The destinations at which writing and copying fail. -/
  failOn : List Path := []
  /-- The texts that were written, by destination. -/
  written : List (Path × String) := []
  /-- The files that were copied, with their destinations. -/
  copied : List (Path × Path) := []
  /-- The directories that were made. -/
  dirs : List Path := []
deriving Repr, Inhabited

namespace MemoryWriter

/-- The failure to write to a destination. -/
def refusal (p : Path) : Failure := { category := .fileWrite, path := p.text }

/-- Writes a text, in the place of what was written there. -/
def write (w : MemoryWriter) (p : Path) (text : String) : Except Failure MemoryWriter :=
  if w.failOn.contains p then .error (refusal p)
  else .ok { w with written := w.written.filter (·.1 != p) ++ [(p, text)] }

/-- Copies a file. -/
def copy (w : MemoryWriter) (source destination : Path) : Except Failure MemoryWriter :=
  if w.failOn.contains destination then .error (refusal destination)
  else .ok { w with copied := w.copied ++ [(source, destination)] }

/-- Makes a directory. -/
def makeDirs (w : MemoryWriter) (p : Path) : MemoryWriter := { w with dirs := w.dirs ++ [p] }

end MemoryWriter

end JsxTagger.Files
