import JsxTagger.Emit.File

/-!
# Emitting a project

The directories of the copy are made first. Then the files are emitted one after another in tree
order, and the outcomes are collected. With `failFast`, the first failure cancels the run: no file
after it is touched.

A fault ends the collection, but not the work: the files that are left are emitted all the same, and
nobody asks what became of them.
-/

namespace JsxTagger.Emit

open Files

/-- The outcomes collected so far. -/
structure Collected where
  /-- The outcomes, in the order in which they came. -/
  outcomes : List FileOutcome := []
  /-- The files that are left are not touched. -/
  stopped : Bool := false
  /-- The first fault. -/
  fault : Option Fault := none

/-- Takes in the outcome of a file. -/
def collect (tools : Tools) (c : Collected) (o : FileOutcome) (s : RunState) :
    Collected × RunState :=
  let c := { c with outcomes := c.outcomes ++ [o] }
  let s := s.report (.update (some 1))
  if o.status = .failed && tools.settings.failFast && !s.context.cancelled then
    ({ c with stopped := true },
      (s.note tools.env ⟨.warning, logger, s!"Stopping after failure in {o.path}"⟩).inContext
        (·.cancel))
  else (c, s)

/-- Deals with the next file. -/
def emitNext (tools : Tools) (done : Collected × RunState) (f : FileNode) :
    Collected × RunState :=
  let (c, s) := done
  if c.stopped then collect tools c ⟨f.fullPath.plain, .cancelled, ""⟩ s
  else
    match emitFile tools f s, c.fault with
    | (_, s), some _ => (c, s)
    | (.error fault, s), none => ({ c with fault := some fault }, s)
    | (.ok o, s), none => collect tools c o s

/-- Makes directories one after another, up to the first that cannot be made. -/
def makeAll : List Path → RunState → Except Trouble Unit × RunState
  | [], s => (.ok (), s)
  | p :: ps, s =>
    match s.makeDirs p with
    | (.ok (), s) => makeAll ps s
    | (.error t, s) => (.error t, s)

/-- The event that completes emission. -/
def completion (outcomes : List FileOutcome) : Progress.Event :=
  let written := outcomes.countP (·.status.isWritten)
  let skipped := outcomes.length - written
  if skipped = 0 then .complete s!"✅ Emitted {written} files." outcomes.length
  else
    .complete s!"⚠️ Emitted {written} files, {skipped} not written." outcomes.length none .warning

/-- The report of a run, its outcomes sorted by path. -/
def reportOf (outcomes : List FileOutcome) (c : RunContext) : RunReport where
  outcomes := outcomes.mergeSort fun a b => Text.ordered a.path b.path
  scanFailures := c.scanFailures
  rootFiles := c.rootFiles

/-- Writes the instrumented copy of the inventory. -/
def emitProject (tools : Tools) (s : RunState) : Except Trouble RunReport × RunState :=
  match layout (tools.env.room - 1) {} s.context.inventory with
  | .error fault => (.error (.fault fault), s)
  | .ok (dirs, files) =>
    let root := tools.settings.outputRoot
    match makeAll (root :: dirs.map root.join) s with
    | (.error t, s) => (.error t, s)
    | (.ok (), s) =>
      let s := s.report (.start "Emitting files..." (some files.length))
      let (c, s) := files.foldl (emitNext tools) ({}, s)
      match c.fault with
      | some fault => (.error (.fault fault), s)
      | none => (.ok (reportOf c.outcomes s.context), s.report (completion c.outcomes))

end JsxTagger.Emit
