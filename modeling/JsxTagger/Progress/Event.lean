import JsxTagger.Failure.Fault

/-!
# Progress of a phase

A phase of a run reports how far it is: it starts with a description and, if it is known, the number
of items; it advances; and it completes. Displays of progress look at these events only.
-/

namespace JsxTagger.Progress

/-- The colour of a description, by how the phase went. -/
inductive State where
  | inProgress
  | complete
  | warning
  | error
deriving DecidableEq, Repr, Inhabited

namespace State

/-- All states. -/
def all : List State := [inProgress, complete, warning, error]

/-- The colour that stands for a state. -/
def name : State → String
  | inProgress => "magenta"
  | complete => "green"
  | warning => "yellow"
  | error => "red"

/-- The state that a colour stands for. -/
def ofName (s : String) : Except Fault State :=
  match all.find? (·.name == s) with
  | some state => .ok state
  | none => .error ⟨.badValue, s!"{Text.quoted s} is not a valid ProgressState"⟩

end State

/-- A description in the colour of a state. -/
def styled (description : String) (s : State) : String :=
  s!"[{s.name}]{description}[/{s.name}]"

/-- What a phase reports. -/
inductive Event where
  /-- The phase starts. -/
  | start (description : String) (total : Option Int)
  /-- The phase advances, or what it does has changed. -/
  | update (advance : Option Int := none) (description : Option String := none)
  /-- The phase is complete. -/
  | complete (description : String) (completed : Int) (total : Option Int := none)
      (state : State := .complete)
deriving DecidableEq, Repr, Inhabited

end JsxTagger.Progress
