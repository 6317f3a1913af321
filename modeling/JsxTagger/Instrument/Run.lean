import JsxTagger.Component.Consulted
import JsxTagger.Instrument.Identity
import JsxTagger.Json.Display

/-!
# Instrumenting a file

Every listed component is looked up in the tree, by its locator or by its name. A component declared
inside another declaration is left to that one. For the others the identity is passed to the
component, every element inside gets an id, and the first element is bound to the component.

Wrappers are looked through by recursion, one call for each. `room` is the number of calls that are
left for it.
-/

namespace JsxTagger.Instrument

open Classify Syntax

/-! ## Finding declarations -/

/-- What a declaration is known by: where it starts, and its kind. -/
def key (n : Node) : Nat × Kind := (n.start, n.kind)

/-- Records an anchor. One with the same key takes the place of the earlier one. -/
def recordAnchor (anchors : List Node) (n : Node) : List Node :=
  if anchors.any (key · == key n) then anchors.map fun a => if key a == key n then n else a
  else anchors ++ [n]

/-- The anchors of a tree, one for each key. -/
def anchors (root : Node) : List Node :=
  (root.walk.filter (·.kind.isAnchor)).foldl recordAnchor []

/-- The keys of the anchors that no function and no class body encloses. -/
def topLevel (root : Node) : List (Nat × Kind) :=
  ((root.walk Kind.isNestedScope).filter (·.kind.isAnchor)).map key

/-- The function inside the arguments of a wrapper, through any number of further wrappers. -/
def wrappedFunction? (source : Bytes) : Nat → Node → Option Node
  | 0, _ => none
  | fuel + 1, call =>
    match (call.child? .arguments).bind fun a => a.firstNamedChild?.bind Node.unwrapped? with
    | none => none
    | some target =>
      if target.kind.isComponentFunction then some target
      else if target.kind = .callExpression && (wrapperName? source target).isSome then
        wrappedFunction? source fuel target
      else none

/-- The function that a declaration declares, if there is one. -/
def componentFunction? (source : Bytes) (anchor : Node) : Option Node :=
  if anchor.kind = .functionDeclaration || anchor.kind.isComponentFunction then some anchor
  else if anchor.kind = .variableDeclarator then
    match (anchor.child? .value).bind Node.unwrapped? with
    | none => none
    | some value =>
      if value.kind.isComponentFunction then some value
      else if value.kind = .callExpression then wrappedFunction? source value.size value
      else none
  else if anchor.kind = .callExpression then wrappedFunction? source anchor.size anchor
  else none

/-- The nodes that `wrappedFunction?` reads. -/
def wrappedFunctionReads (source : Bytes) : Nat → Node → List Node
  | 0, _ => []
  | fuel + 1, call =>
    match (call.child? .arguments).bind fun a => a.firstNamedChild?.bind Node.unwrapped? with
    | none => []
    | some target =>
      if target.kind = .callExpression then
        wrapperReads source target ++
          (if (wrapperName? source target).isSome then wrappedFunctionReads source fuel target
            else [])
      else []

/-- How many wrappers stand inside each other in the arguments of a call. -/
def wrapperDepth (source : Bytes) : Nat → Node → Nat
  | 0, _ => 0
  | fuel + 1, call =>
    match (call.child? .arguments).bind fun a => a.firstNamedChild?.bind Node.unwrapped? with
    | none => 0
    | some target =>
      if target.kind = .callExpression && (wrapperName? source target).isSome then
        wrapperDepth source fuel target + 1
      else 0

/-- The call in which `componentFunction?` looks for a function. -/
def outerCall? (anchor : Node) : Option Node :=
  let call :=
    if anchor.kind = .variableDeclarator then (anchor.child? .value).bind Node.unwrapped?
    else some anchor
  call.filter (·.kind == .callExpression)

/-- What keeps `componentFunction?` from an answer. -/
def functionObstacle? (room : Nat) (source : Bytes) (anchor : Node) : Option InstrumentError :=
  match outerCall? anchor with
  | none => none
  | some call =>
    if room ≤ wrapperDepth source room call then some .tooDeep
    else unlessLegible (allLegible source (wrappedFunctionReads source call.size call))

/-- Whether a declaration can be found by a name alone. -/
def answersTo (source : Bytes) (name : Json) (n : Node) : Bool :=
  n.kind.isNamedDeclaration && name.isText (componentName source n) &&
    (n.kind == .classDeclaration || (componentFunction? source n).isSome)

/-- What keeps `answersTo` from an answer. -/
def answerObstacle? (room : Nat) (source : Bytes) (name : Json) (n : Node) :
    Option InstrumentError :=
  if !n.kind.isNamedDeclaration then none
  else if !allLegible source (nameReads n) then some .illegible
  else if name.isText (componentName source n) then functionObstacle? room source n
  else none

/-- The declaration of a component. Without a locator the name decides, and declarations at the top
level come first. -/
def locate (room : Nat) (source : Bytes) (anchors : List Node) (top : List (Nat × Kind))
    (c : Component) : Except InstrumentError (Option Node) :=
  if c.hasLocator then
    if !c.declarationStart.isKey then .error (.unusableLocator c.declarationStart.typeName)
    else if !c.declarationType.isKey then .error (.unusableLocator c.declarationType.typeName)
    else
      let found := anchors.find? fun n =>
        c.declarationStart.isNat n.start && c.declarationType.isText n.kind.name
      search (unlessLegible <| allLegible source <| nameReads ·)
        (fun n => if c.name.isText (componentName source n) then some n else none) found.toList
  else
    let candidates :=
      anchors.filter (top.contains <| key ·) ++ anchors.filter fun n => !top.contains (key n)
    search (answerObstacle? room source c.name)
      (fun n => if answersTo source c.name n then some n else none) candidates

/-! ## Instrumenting declarations -/

/-- Gives every element of a scope an id and binds the first one to the component. -/
def annotate (source : Bytes) (ids : IdStream) (name reference : String) :
    Bool → Planner → List Node → Except InstrumentError Planner
  | _, p, [] => .ok p
  | rootSeen, p, n :: ns =>
    if isOpeningElement n then do
      let p ← p.tag source ids n
      let p ← if rootSeen then .ok p else p.bindRoot source n name reference
      annotate source ids name reference true p ns
    else annotate source ids name reference rootSeen p ns

/-- Instruments a declaration. Yields nothing if it holds no function and is no class. -/
def instrumentDeclaration (room : Nat) (source : Bytes) (ids : IdStream) (p : Planner)
    (anchor : Node) (name : String) : Except InstrumentError (Option Planner) :=
  if anchor.kind.isClass then do
    let reference := s!"this.{propsParameter}.{identityField}"
    let p ← annotate source ids name reference false p anchor.walk
    .ok (some p)
  else
    match functionObstacle? room source anchor, componentFunction? source anchor with
    | some error, _ => .error error
    | none, none => .ok none
    | none, some scope => do
      let (reference, p) ← p.thread source scope
      let p ← annotate source ids name reference false p scope.walk
      .ok (some p)

/-- The name under which instrumentation writes to the log. -/
def logger : String := "core.instrumentation"

/-- What has become of the components so far. -/
structure Progress where
  /-- The state of planning. -/
  planner : Planner
  /-- The names of the components that were instrumented. -/
  bound : List Json := []
  /-- The names of the components whose declaration was not found. -/
  missing : List Json := []
  /-- The names of the components declared inside another declaration. -/
  nested : List Json := []
  /-- The records written to the log. -/
  log : List Log.Record := []

/-- Deals with one component. -/
def Progress.step (room : Nat) (tree : SourceTree) (ids : IdStream) (anchors : List Node)
    (top : List (Nat × Kind)) (g : Progress) (c : Component) : Except InstrumentError Progress := do
  let shown := SourceTree.shownPath tree.path
  let note (level : Log.Level) (text : String) : List Log.Record :=
    g.log ++ [⟨level, logger, s!"Component '{c.name.plain}' {text}"⟩]
  match ← locate room tree.source anchors top c with
  | none =>
    .ok { g with
      missing := g.missing ++ [c.name]
      log := note .warning s!"was not found in {shown}; no attributes injected" }
  | some anchor =>
    if !top.contains (key anchor) then
      .ok { g with
        nested := g.nested ++ [c.name]
        log := note .debug s!"in {shown} is declared inside another component; skipping" }
    else
      match ← instrumentDeclaration room tree.source ids g.planner anchor c.name.plain with
      | none => .ok { g with log := note .debug s!"in {shown} wraps no inline function; skipping" }
      | some planner => .ok { g with planner, bound := g.bound ++ [c.name] }

/-- The outcome of instrumenting a file. -/
structure Instrumented where
  /-- The new text of the file. -/
  text : String
  /-- The number of edits. -/
  edits : Nat := 0
  /-- The names of the components that were instrumented. -/
  bound : List Json := []
  /-- The names of the components whose declaration was not found. -/
  missing : List Json := []
  /-- The names of the components declared inside another declaration. -/
  nested : List Json := []
deriving Inhabited

/-- Plans the instrumentation of a parsed file. -/
def planAll (room : Nat) (tree : SourceTree) (ids : IdStream) (components : List Component)
    (drawn : Nat := 0) : Except InstrumentError Progress :=
  components.foldlM (Progress.step room tree ids (anchors tree.root) (topLevel tree.root))
    { planner := { drawn } }

/-- Instruments the components of a parsed file. Yields the outcome, the number of ids drawn so far
and the records written to the log. -/
def run (room : Nat) (tree : SourceTree) (ids : IdStream) (components : List Component)
    (drawn : Nat := 0) : Except InstrumentError (Instrumented × Nat × List Log.Record) := do
  let g ← planAll room tree ids components drawn
  match g.planner.plan.apply tree.source with
  | .error e => .error (.edit e)
  | .ok text =>
    .ok (⟨text, g.planner.plan.length, g.bound, g.missing, g.nested⟩, g.planner.drawn, g.log)

/-- Why a file has no instrumented form. -/
inductive SourceError where
  /-- It has no byte form. -/
  | unencodable (cause : Text.EncodingError)
  /-- It could not be parsed. -/
  | unparsed (fault : SyntaxFault)
  /-- It could not be instrumented. -/
  | failed (cause : InstrumentError)

/-- Instruments the components of a file. Without components the file is not even parsed. -/
def instrumentSource (room : Nat) (parse : Parser) (ids : IdStream) (text : String)
    (components : List Component) (path : Option String) (drawn : Nat := 0) :
    Except SourceError (Instrumented × Nat × List Log.Record) :=
  if components.isEmpty then .ok ({ text }, drawn, [])
  else
    match Text.encodingError? text with
    | some cause => .error (.unencodable cause)
    | none =>
      match parse text path with
      | .error fault => .error (.unparsed fault)
      | .ok tree => (run room tree ids components drawn).mapError .failed

/-- The stream of numbered ids: sixteen hexadecimal digits, counting from 1. -/
def numberedIds : IdStream := fun n =>
  "unique_id_" ++ String.ofList (Decimal.hexDigits 16 (n + 1))

end JsxTagger.Instrument
