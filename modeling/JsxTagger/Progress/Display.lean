import JsxTagger.Console.Markup
import JsxTagger.Progress.Event

/-!
# Displays of progress

A `Bar` keeps a list of tasks, one for each start, and works on the last one. It has to be opened
before anything is reported to it. It is drawn when a task is added and when it is closed; a
description with faulty markup cannot be drawn. A `Recording` notes what was reported.
-/

namespace JsxTagger.Progress

/-! ## Bars -/

/-- One line of a progress bar. -/
structure Task where
  /-- The description, with the marks that colour it. -/
  description : String
  /-- How many items are done. -/
  completed : Int := 0
  /-- How many items there are, if it is known. -/
  total : Option Int := none
  /-- All items were done once. -/
  finished : Bool := false
deriving DecidableEq, Repr, Inhabited

namespace Task

/-- A task after a change: it is finished once as many items are done as there are. -/
def settle (t : Task) : Task :=
  match t.total with
  | some total => { t with finished := t.finished || decide (total ≤ t.completed) }
  | none => t

/-- Gives a task its number of items. A new number starts it afresh. -/
def setTotal (t : Task) (total : Int) : Task :=
  if t.total = some total then t.settle
  else { t with total := some total, finished := false }.settle

end Task

/-- A display that shows bars. -/
structure Bar where
  /-- The tasks, once the display is open. -/
  tasks : Option (List Task) := none
  /-- The number of the task that is worked on. -/
  current : Option Nat := none
  /-- The display is open. -/
  isOpen : Bool := false
deriving DecidableEq, Repr, Inhabited

namespace Bar

/-- Opens the display, without tasks. -/
def enter (b : Bar) : Bar := { b with tasks := some [], isOpen := true }

/-- Draws the tasks. -/
def draw (b : Bar) : Except Fault Unit :=
  (b.tasks.getD []).forM fun t => do
    let _ ← Console.plainChars ("[progress.description]" ++ t.description)

/-- Closes the display, which is drawn for the last time. Once it is closed nothing happens. -/
def exit (b : Bar) : Except Fault Unit × Bar :=
  (if b.isOpen then b.draw else .ok (), { b with isOpen := false })

/-- The fault of a display that is not open. -/
def notOpen : Fault where
  kind := .badState
  text := "RichProgressDisplay must be used as a context manager. " ++
    "Use: with RichProgressDisplay() as rpd:"

/-- Changes the task that is worked on. -/
def change (b : Bar) (tasks : List Task) (caller : String) (f : Task → Task) :
    Except Fault Bar :=
  match b.current with
  | none => .error ⟨.badState, s!"on_start() must be called before {caller}()"⟩
  | some n =>
    if n < tasks.length then .ok { b with tasks := some (tasks.modify n f) }
    else .error ⟨.missingKey, toString n⟩

/-- The display with a task for a phase that starts, and what comes of drawing it. A task that
cannot be drawn is there, but it is not worked on. -/
def addTask (b : Bar) (tasks : List Task) (description : String) (total : Option Int) :
    Except Fault Unit × Bar :=
  let task : Task := { description := styled description .inProgress, total }
  let added : Bar := { b with tasks := some (tasks ++ [task]) }
  match if b.isOpen then added.draw else .ok () with
  | .ok () => (.ok (), { added with current := some tasks.length })
  | .error fault => (.error fault, added)

/-- Changes the task that is worked on by what a phase reports. -/
def report (b : Bar) (tasks : List Task) (e : Event) : Except Fault Bar :=
  match e with
  | .start .. => .ok b
  | .update advance description =>
    let moves := advance.any (· != 0)
    let describes := description.any (!·.isEmpty)
    if !moves && !describes then
      .error ⟨.badValue,
        "At least one of 'advance' or 'description' must be provided to on_update()"⟩
    else
      b.change tasks "on_update" fun t =>
        let t := { t with completed := t.completed + advance.getD 0 }
        (if describes then
          { t with description := s!"[{State.inProgress.name}]" ++ description.getD "" }
        else t).settle
  | .complete description completed total state =>
    b.change tasks "on_complete" fun t =>
      let t := (total.map t.setTotal).getD t
      { t with completed, description := styled description state }.settle

/-- Shows what a phase reports. -/
def handle (b : Bar) (e : Event) : Except Fault Unit × Bar :=
  match b.tasks, e with
  | none, _ => (.error notOpen, b)
  | some tasks, .start description total => b.addTask tasks description total
  | some tasks, e =>
    match b.report tasks e with
    | .ok b => (.ok (), b)
    | .error fault => (.error fault, b)

end Bar

/-! ## Recordings -/

/-- A display that notes what was reported. -/
structure Recording where
  /-- The phases that started. -/
  started : List (String × Option Int) := []
  /-- How far the phases advanced in all. -/
  advanced : Int := 0
  /-- The phases that were completed. -/
  completed : List (String × Int × Option Int × State) := []
deriving DecidableEq, Repr, Inhabited

/-- Notes what a phase reports. -/
def Recording.handle (r : Recording) : Event → Recording
  | .start description total => { r with started := r.started ++ [(description, total)] }
  | .update advance _ => { r with advanced := r.advanced + advance.getD 0 }
  | .complete description completed total state =>
    { r with completed := r.completed ++ [(description, completed, total, state)] }

/-- The recording of a list of events. -/
def record (events : List Event) : Recording := events.foldl Recording.handle {}

end JsxTagger.Progress
