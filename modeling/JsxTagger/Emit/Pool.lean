import JsxTagger.Emit.Project

/-!
# A pool of workers

The files of a project are emitted by several workers side by side. At first all files wait in a
queue. A worker that is free takes the next one and goes on with it step by step: it looks whether
the run was cancelled, reads and instruments the file, formats it, looks again, and writes it.
Meanwhile the outcomes are collected, in whatever order they come.

With `failFast`, the first failure that is collected cancels the run. Then the files are gone through
once more, and those that still wait are dropped. A worker that has a file already notices when it
looks next.

A schedule says who does what next. `emitProject` is what happens if the files are emitted one after
another.
-/

namespace JsxTagger.Emit

open Files

/-! ## The steps of a worker -/

/-- How far a file has come. -/
inductive Phase where
  /-- It waits. -/
  | queued
  /-- It was dropped while it waited. -/
  | dropped
  /-- A worker has it. -/
  | begun
  /-- The run was not cancelled when the worker looked. -/
  | checked (rel : String)
  /-- It was instrumented. -/
  | drafted (rel : String) (result : Instrument.Instrumented)
  /-- It was formatted. -/
  | polished (rel : String) (p : Prepared)
  /-- The run was not cancelled when the worker looked again. -/
  | ready (rel : String) (p : Prepared)
  /-- The worker is done with it. -/
  | ended (result : Except Fault FileOutcome)
  /-- Its outcome was collected. -/
  | collected (o : FileOutcome)
deriving Inhabited

namespace Phase

/-- Whether a file waits. -/
def isQueued : Phase → Bool
  | queued => true
  | _ => false

/-- Whether a worker has a file. -/
def isRunning : Phase → Bool
  | begun | checked _ | drafted .. | polished .. | ready .. => true
  | _ => false

/-- Whether the outcome of a file was collected. -/
def isCollected : Phase → Bool
  | collected _ => true
  | _ => false

/-- The phase of a file that is dropped if it waits. -/
def drop : Phase → Phase
  | queued => dropped
  | phase => phase

/-- What is collected for a file, once there is something to collect. -/
def result? (f : FileNode) : Phase → Option (Except Fault FileOutcome)
  | dropped => some (.ok ⟨f.fullPath.plain, .cancelled, ""⟩)
  | ended result => some result
  | _ => none

end Phase

/-- The phase of a file that a worker is done with. -/
def endWith (result : Except Fault FileOutcome × RunState) : Phase × RunState :=
  (.ended result.1, result.2)

/-- The next step of the worker that has a file. -/
def advance (tools : Tools) (f : FileNode) (s : RunState) : Phase → Option (Phase × RunState)
  | .begun =>
    match f.fullPath with
    | .str rel =>
      if s.context.cancelled then some (.ended (.ok ⟨rel, .cancelled, ""⟩), s)
      else some (.checked rel, s)
    | _ => some (endWith (emitFile tools f s))
  | .checked rel =>
    let source := tools.settings.inputRoot.join (Path.ofText rel)
    let destination := tools.settings.outputRoot.join (Path.ofText rel)
    if !f.shouldInstrument then some (endWith (copyOne tools rel source destination s))
    else
      match draft tools rel source s with
      | (.error t, s) => some (endWith (settle tools.env rel t s))
      | (.ok result, s) => some (.drafted rel result, s)
  | .drafted rel result =>
    match polish tools (tools.settings.outputRoot.join (Path.ofText rel)) result s with
    | (.error t, s) => some (endWith (settle tools.env rel t s))
    | (.ok p, s) => some (.polished rel p, s)
  | .polished rel p =>
    if s.context.cancelled then some (.ended (.ok ⟨rel, .cancelled, ""⟩), s)
    else some (.ready rel p, s)
  | .ready rel p =>
    some (endWith (write tools rel (tools.settings.inputRoot.join (Path.ofText rel))
      (tools.settings.outputRoot.join (Path.ofText rel)) p s))
  | _ => none

/-! ## The pool -/

/-- A file and how far it has come. -/
structure Task where
  /-- The file. -/
  file : FileNode
  /-- How far it has come. -/
  phase : Phase := .queued

/-- A run in which the files are being emitted. -/
structure Pool where
  /-- The files in tree order. -/
  tasks : List Task
  /-- The run. -/
  run : RunState
  /-- The outcomes so far. -/
  collected : Collected := {}
  /-- The numbers of the files that are still to be gone through after a failure. -/
  pending : List Nat := []

/-- What can happen next. -/
inductive Action where
  /-- A free worker takes a file from the queue. -/
  | take (i : Nat)
  /-- A worker goes on with its file. -/
  | work (i : Nat)
  /-- The outcome of a file is collected. -/
  | collect (i : Nat)
  /-- The next file is gone through and dropped if it still waits. -/
  | drop
deriving DecidableEq, Repr, Inhabited

namespace Pool

/-- The files of a project wait to be emitted. -/
def ofFiles (files : List FileNode) (s : RunState) : Pool where
  tasks := files.map ({ file := · })
  run := s

/-- The tasks of a new pool are the files it was made for. -/
@[simp]
theorem files_ofFiles (files : List FileNode) (s : RunState) : (ofFiles files s).tasks.map (·.file) = files := by
  simp [ofFiles, Function.comp_def]

/-- The number of files that workers have. -/
def running (p : Pool) : Nat := p.tasks.countP (·.phase.isRunning)

/-- A file has come to another phase. -/
def move (p : Pool) (i : Nat) (phase : Phase) : Pool :=
  { p with tasks := p.tasks.modify i ({ · with phase }) }

/-- Takes in what became of a file. After a failure that cancels the run, all files are to be gone
through. -/
def takeIn (tools : Tools) (p : Pool) (i : Nat) : Except Fault FileOutcome → Pool
  | .error fault => { p with collected := { p.collected with fault := some fault } }
  | .ok o =>
    let (c, s) := collect tools p.collected o p.run
    { p.move i (.collected o) with
      run := s
      collected := c
      pending := if c.stopped && !p.collected.stopped then List.range p.tasks.length else [] }

/-- What an action does, if it is possible. Files are taken in tree order, by at most the given
number of workers. -/
def step (tools : Tools) (workers : Nat) (p : Pool) : Action → Option Pool
  | .take i => do
    let t ← p.tasks[i]?
    if t.phase.isQueued && p.running < workers && (p.tasks.take i).all (!·.phase.isQueued) then
      some (p.move i .begun)
    else none
  | .work i => do
    let t ← p.tasks[i]?
    let (phase, s) ← advance tools t.file p.run t.phase
    some { p.move i phase with run := s }
  | .collect i => do
    let t ← p.tasks[i]?
    let result ← t.phase.result? t.file
    if p.pending.isEmpty && p.collected.fault.isNone then some (p.takeIn tools i result) else none
  | .drop =>
    match p.pending with
    | [] => none
    | i :: rest =>
      some { p with
        tasks := p.tasks.modify i fun t => { t with phase := t.phase.drop }
        pending := rest }

/-- What the actions of a schedule do, if they are possible one after another. -/
def follow (tools : Tools) (workers : Nat) (p : Pool) (schedule : List Action) : Option Pool :=
  schedule.foldlM (step tools workers) p

/-- Whether nothing is left to do: everything was collected or, after a fault, the workers are done
with all files. -/
def isFinished (p : Pool) : Bool :=
  if p.collected.fault.isSome then
    p.tasks.all fun t => t.phase.isCollected || (t.phase.result? t.file).isSome
  else p.pending.isEmpty && p.tasks.all (·.phase.isCollected)

/-- The report of a pool that has finished. -/
def result (p : Pool) : Except Trouble RunReport × RunState :=
  match p.collected.fault with
  | some fault => (.error (.fault fault), p.run)
  | none =>
    (.ok (reportOf p.collected.outcomes p.run.context), p.run.report (completion p.collected.outcomes))

end Pool

/-- Makes the directories of the copy. Yields the pool in which all files wait. -/
def openPool (tools : Tools) (s : RunState) : Except Trouble Pool × RunState :=
  match layout (tools.env.room - 1) {} s.context.inventory with
  | .error fault => (.error (.fault fault), s)
  | .ok (dirs, files) =>
    let root := tools.settings.outputRoot
    match makeAll (root :: dirs.map root.join) s with
    | (.error t, s) => (.error t, s)
    | (.ok (), s) =>
      let s := s.report (.start "Emitting files..." (some files.length))
      (.ok (.ofFiles files s), s)

end JsxTagger.Emit
