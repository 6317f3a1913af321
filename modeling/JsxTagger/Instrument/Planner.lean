import JsxTagger.Edit.Plan
import JsxTagger.Instrument.Attribute

/-!
# Planning edits

A `Planner` is the plan made so far together with what has been dealt with: elements that got an id,
elements that were bound to a component, and functions whose parameters were looked at. They are
known by the offset at which they start, so that nothing is planned twice however often it is
reached.

Ids are drawn one after another from a stream that the caller supplies.
-/

namespace JsxTagger.Instrument

open Syntax

/-- The ids that are drawn, in the order of drawing. -/
abbrev IdStream := Nat → String

/-- Why a file cannot be instrumented. -/
inductive InstrumentError where
  /-- An edit could not be planned or applied. -/
  | edit (cause : Edit.Error)
  /-- A tag has neither a name nor an attribute. -/
  | unnamedElement
  /-- A node that has to be read is not a text. -/
  | illegible
  /-- Too many wrappers stand inside each other. -/
  | tooDeep
  /-- A locator is a list or an object, which cannot be looked up. -/
  | unusableLocator (type : String)
deriving DecidableEq, Repr, Inhabited

/-- The first answer that members of a list give to a question. Members are asked one after another,
and one that cannot be asked stops the search. -/
def search {α β : Type} (obstacle : α → Option InstrumentError) (ask : α → Option β) :
    List α → Except InstrumentError (Option β)
  | [] => .ok none
  | a :: as =>
    match obstacle a, ask a with
    | some error, _ => .error error
    | none, some b => .ok (some b)
    | none, none => search obstacle ask as

/-- What stops a question whose nodes have to be read. -/
def unlessLegible (legible : Bool) : Option InstrumentError :=
  if legible then none else some .illegible

/-- The state of planning. -/
structure Planner where
  /-- The edits planned so far. -/
  plan : Edit.Plan := .empty
  /-- The number of ids drawn so far. -/
  drawn : Nat := 0
  /-- The starts of the elements that got an id. -/
  tagged : List Nat := []
  /-- The starts of the elements that were bound to a component. -/
  bound : List Nat := []
  /-- The starts of the functions looked at, with the expression for the identity inside each. -/
  references : List (Nat × String) := []
deriving Inhabited

namespace Planner

/-- Plans an insertion. -/
def insert (p : Planner) (offset : Nat) (text : String) : Planner :=
  { p with plan := p.plan.insert offset text }

/-- Gives an element an id, unless it has one. -/
def tag (source : Bytes) (ids : IdStream) (p : Planner) (element : Node) :
    Except InstrumentError Planner :=
  if p.tagged.contains element.start then .ok p
  else if !attributesLegible source element then .error .illegible
  else if (attributeNames source element).contains elementIdAttribute then .ok p
  else
    match insertionOffset? element with
    | none => .error .unnamedElement
    | some offset =>
      let p := p.insert offset s!" {elementIdAttribute}=\"{ids p.drawn}\""
      .ok { p with drawn := p.drawn + 1, tagged := element.start :: p.tagged }

/-- Binds an element to the component it is the root of, unless it is bound. -/
def bindRoot (source : Bytes) (p : Planner) (element : Node) (name reference : String) :
    Except InstrumentError Planner :=
  if p.bound.contains element.start then .ok p
  else if !attributesLegible source element then .error .illegible
  else if (attributeNames source element).contains componentNameAttribute then .ok p
  else
    match insertionOffset? element with
    | none => .error .unnamedElement
    | some offset =>
      let p := p.insert offset
        s!" {componentNameAttribute}=\"{name}\" {componentRefAttribute}=\x7b{reference}\x7d"
      .ok { p with bound := element.start :: p.bound }

end Planner

end JsxTagger.Instrument
