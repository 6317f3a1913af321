import JsxTagger.Instrument.Planner

/-!
# Passing the identity to a component

A component finds its identity in its properties. If it takes them apart by a pattern, the identity
field is added to the pattern; else it must have a parameter for the properties, which is added in
front if there is none. What is already there is left alone.
-/

namespace JsxTagger.Instrument

open Classify Syntax

/-- The property that holds the identity. -/
def identityField : String := elementIdAttribute

/-- The parameter that holds the properties. -/
def propsParameter : String := "props"

/-- The parameter that holds the properties where a rest parameter has taken the usual name. -/
def fallbackParameter : String := "pc_props"

/-- The object pattern of a parameter, with or without a default. -/
def objectPattern? (parameter : Node) : Option Node :=
  if parameter.kind = .objectPattern then some parameter
  else if parameter.kind = .assignmentPattern then
    match parameter.child? .left with
    | some left => if left.kind = .objectPattern then some left else none
    | none => none
  else none

/-- The identifier that a parameter binds, looking through defaults and rest elements. -/
def boundNode? (parameter : Node) : Option Node :=
  let target :=
    if parameter.kind = .assignmentPattern then parameter.child? .left
    else if parameter.kind = .restPattern then parameter.firstNamedChild?
    else some parameter
  target.filter (·.kind == .identifier)

/-- The name that a parameter binds. -/
def boundName? (source : Bytes) (parameter : Node) : Option String :=
  (boundNode? parameter).map (·.text source)

/-- The name that the value of a pair in an object pattern binds, if it is a name. -/
def pairTarget? (entry : Node) : Option Node :=
  match entry.child? .value with
  | none => none
  | some value => if value.kind = .assignmentPattern then value.child? .left else some value

/-- The local name that an entry of an object pattern gives to the identity, if it does. -/
def identityBinding? (source : Bytes) (entry : Node) : Option String :=
  match entry.kind with
  | .shorthandPattern => if entry.text source = identityField then some identityField else none
  | .objectAssignmentPattern =>
    if textOf source (entry.child? .left) = identityField then some identityField else none
  | .pairPattern =>
    if unquoted (textOf source (entry.child? .key)) = identityField then
      match pairTarget? entry with
      | some target =>
        some (if target.kind = .identifier then target.text source else identityField)
      | none => some identityField
    else none
  | _ => none

/-- Whether an entry of an object pattern can be read as far as `identityBinding?` reads it. -/
def entryLegible (source : Bytes) (entry : Node) : Bool :=
  let legible (n : Option Node) : Bool := n.all (·.isLegible source)
  match entry.kind with
  | .shorthandPattern => entry.isLegible source
  | .objectAssignmentPattern => legible (entry.child? .left)
  | .pairPattern =>
    legible (entry.child? .key) &&
      ((identityBinding? source entry).isNone ||
        legible ((pairTarget? entry).filter (·.kind == .identifier)))
  | _ => true

/-- The named children of a node without its comments. -/
def entries (n : Node) : List Node := n.namedChildren.filter (·.kind != .comment)

/-- Makes an object pattern bind the identity. Yields the local name of the identity. -/
def Planner.addField (source : Bytes) (p : Planner) (pattern : Node) :
    Except InstrumentError (String × Planner) := do
  let entries := entries pattern
  match ← search (unlessLegible <| entryLegible source ·) (identityBinding? source) entries with
  | some name => .ok (name, p)
  | none =>
    let p :=
      match entries.find? (·.kind == .restPattern), entries.getLast? with
      | some rest, _ => p.insert rest.start s!"{identityField}, "
      | none, some last => p.insert last.stop s!", {identityField}"
      | none, none => p.insert (pattern.start + 1) s!" {identityField} "
    .ok (identityField, p)

/-- The parameters of a function: the list, or the single name of an arrow function. -/
def parameters (function : Node) : List Node :=
  match function.child? .parameters, function.child? .parameter with
  | some list, _ => entries list
  | none, some name => [name]
  | none, none => []

/-- Adds a parameter in front of the others. -/
def Planner.addParameter (source : Bytes) (p : Planner) (function : Node) (name : String) :
    Except InstrumentError Planner :=
  match function.child? .parameters, function.child? .parameter with
  | some list, _ =>
    let separator := if (parameters function).isEmpty then "" else ", "
    .ok (p.insert (list.start + 1) s!"{name}{separator}")
  | none, some bare =>
    if !bare.isLegible source then .error .illegible
    else
      match p.plan.replace bare.start bare.stop s!"({name}, {bare.text source})" with
      | .ok plan => .ok { p with plan }
      | .error e => .error (.edit e)
  | none, none => .ok p

/-- Makes the identity reachable inside a function. Yields the expression for it. -/
def Planner.addIdentity (source : Bytes) (p : Planner) (function : Node) :
    Except InstrumentError (String × Planner) := do
  let params := parameters function
  match params.findSome? objectPattern? with
  | some pattern => p.addField source pattern
  | none =>
    let added (name : String) : Except InstrumentError (String × Planner) := do
      let p ← p.addParameter source function name
      .ok (s!"{name}.{identityField}", p)
    let obstacle (q : Node × Nat) := unlessLegible ((boundNode? q.1).all (·.isLegible source))
    let takesProps (q : Node × Nat) : Option (Node × Nat) :=
      if boundName? source q.1 = some propsParameter then some q else none
    match ← search obstacle takesProps params.zipIdx with
    | none => added propsParameter
    | some (parameter, i) =>
      if parameter.kind ≠ .restPattern then .ok (s!"{propsParameter}.{identityField}", p)
      else if i = 0 then
        -- a rest parameter collects the arguments, and the properties are the first of them
        .ok (s!"{propsParameter}[0].{identityField}", p)
      else if params.head?.bind (boundName? source) == some fallbackParameter then
        .ok (s!"{fallbackParameter}.{identityField}", p)
      else added fallbackParameter

/-- The expression for the identity inside a function, which is made reachable at the first
request. -/
def Planner.thread (source : Bytes) (p : Planner) (function : Node) :
    Except InstrumentError (String × Planner) :=
  match p.references.lookup function.start with
  | some reference => .ok (reference, p)
  | none => do
    let (reference, p) ← p.addIdentity source function
    .ok (reference, { p with references := (function.start, reference) :: p.references })

end JsxTagger.Instrument
