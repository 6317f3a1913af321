import JsxTagger.Grammar.Table

/-!
# States of the automaton

A state is the set of readings that are under way at a point of the text. A reading is an `Item`: a
production, how much of it has been read, and what may come after it. `State.after` is the state
once a symbol has been read, `State.moves` says what to do when a given terminal comes next: finish
some of the readings, or read the terminal, or both where only the rest of the text can tell.

States are computed as they are met; no table of them is built.
-/

namespace JsxTagger.Grammar

/-- A reading that is under way. -/
structure Item where
  /-- The index of the production. -/
  production : Nat
  /-- The number of its steps that have been read. -/
  dot : Nat
  /-- The terminals that may come after it. -/
  ahead : TerminalSet
  /-- If a name comes after it, it may be any word. -/
  anyWord : Bool
deriving DecidableEq, Inhabited

namespace Item

/-- The order of items within a state. -/
def precedes (a b : Item) : Bool :=
  a.dot < b.dot || (a.dot == b.dot && a.production < b.production)

/-- The union of two sets of items, each in order. Of an item that is in both, the terminals that
may come after it are united. -/
def merge : List Item → List Item → List Item
  | [], bs => bs
  | as, [] => as
  | a :: as, b :: bs =>
    if a.precedes b then a :: merge as (b :: bs)
    else if b.precedes a then b :: merge (a :: as) bs
    else { a with ahead := a.ahead.union b.ahead, anyWord := a.anyWord || b.anyWord } ::
      merge as bs
termination_by as bs => as.length + bs.length

variable (g : Table) (i : Item)

/-- The production of an item. -/
def reading : Production := g.productions.getD i.production default

/-- The step that has to be read next. -/
def next? : Option CodedStep := (i.reading g).steps[i.dot]?

/-- What may come after the step that has to be read next. -/
def followNext : Follow :=
  (i.reading g).followAt g.first g.anyWordFirst i.dot ⟨i.ahead, i.anyWord, false⟩

/-- The item that an opening gives rise to where its rule may be followed by `outer`; `read` steps
of it have been read. -/
def ofOpening (outer : Follow) (read : Nat) (o : Opening) : Item :=
  let follow := if o.follow.inherits then o.follow.union outer else o.follow
  ⟨o.production, read, follow.terminals, follow.anyWord⟩

end Item

/-- The readings under way at a point of a text, in order. -/
abbrev State := List Item

/-- What can be done when a terminal comes next. -/
structure Moves where
  /-- The productions whose readings are complete. -/
  reductions : List Nat
  /-- Whether the terminal can be read. -/
  shift : Bool
deriving DecidableEq

/-! ## Strength -/

/-- Whether the alternatives at some places of the rankings are stronger than those at others. The
first ranking that lists both decides. -/
def compareStrength : List (Option Nat) → List (List Nat) → Ordering
  | some i :: places, others :: rest =>
    match (others.filter (· != i)).min? with
    | some j => if i < j then .gt else .lt
    | none => compareStrength places rest
  | none :: places, _ :: rest => compareStrength places rest
  | _, _ => .eq

/-- The complete readings of greatest strength among those seen so far. -/
structure Strongest where
  /-- The indices of their productions, the last one first. -/
  productions : List Nat := []
  /-- Their places in each ranking. -/
  places : List (List Nat) := []
  /-- The sides on which they group. -/
  sides : List (Option Side) := []

namespace Strongest

/-- Takes another complete reading into account. -/
def insert (s : Strongest) (index : Nat) (p : Production) : Strongest :=
  let alone : Strongest := ⟨[index], p.places.map Option.toList, [p.side]⟩
  if s.productions.isEmpty then alone
  else
    match compareStrength p.places s.places with
    | .gt => alone
    | .lt => s
    | .eq =>
      ⟨index :: s.productions, s.places.zipWith (· ++ ·) (p.places.map Option.toList),
        p.side :: s.sides⟩

end Strongest

namespace State

variable (g : Table) (s : State)

/-- The state in which nothing has been read. -/
def initial : State :=
  [⟨g.productions.size - 1, 0, TerminalSet.single Terminal.finish.code, false⟩]

/-- Whether a whole text has been read. -/
def isFinal : Bool :=
  match s with
  | [i] => i.production == g.productions.size - 1 && i.dot == 1
  | _ => false

/-- The state after a symbol has been read. -/
def after (symbol : Nat) : State :=
  s.foldl (fun found i =>
    match i.next? g with
    | none => found
    | some step =>
      let found := if step.symbol == symbol then Item.merge found [{ i with dot := i.dot + 1 }]
        else found
      match (g.openings.getD step.symbol #[]).getD symbol [] with
      | [] => found
      | openings => Item.merge found (openings.map (.ofOpening (i.followNext g) 1))) []

/-- The items that are complete, readings of nothing included. -/
def complete : List Item :=
  s.flatMap fun i =>
    match i.next? g with
    | none => [i]
    | some step => (g.empties.getD step.symbol []).map (.ofOpening (i.followNext g) 0)

/-- The items that can go on with a terminal of a set. -/
def continuing (set : TerminalSet) : List Item :=
  s.filter fun i => (i.next? g).any fun step => (g.first.getD step.symbol 0).meets set

/-- What to do when the terminal with the given code comes next.

Of the complete readings the strongest are kept. If the terminal can also be read, the readings that
go on with it are compared with the complete ones: the stronger side is taken, and between equals
the side on which they group decides. Whatever that leaves open is tried in both ways. A repetition
is always finished first. -/
def moves (terminal : Nat) : Moves :=
  let set := TerminalSet.single terminal
  let complete := (s.complete g).filter (·.ahead.meets set)
  let continuing := s.continuing g set
  let strongest := complete.foldl
    (fun found i => found.insert i.production (i.reading g)) ({} : Strongest)
  let reductions := strongest.productions.reverse
  if reductions.isEmpty || continuing.isEmpty then ⟨reductions, !continuing.isEmpty⟩
  else
    let inside := continuing.filter (0 < ·.dot)
    let rules := (inside ++ complete).map fun i => (i.reading g).rule
    if rules.eraseDups.length == 1 && rules.all g.repetitions.contains then ⟨reductions, false⟩
    else
      let orders := inside.map fun i => compareStrength (i.reading g).places strongest.places
      match orders.contains .lt, orders.contains .gt with
      | false, true => ⟨[], true⟩
      | true, false => ⟨reductions, false⟩
      | true, true => ⟨reductions, true⟩
      | false, false =>
        if strongest.sides.all (· == some .left) then ⟨reductions, false⟩
        else if strongest.sides.all (· == some .right) then ⟨[], true⟩
        else ⟨reductions, true⟩

/-! ## What a state expects -/

/-- The terminals that may come next. -/
def expected : TerminalSet :=
  (s.complete g).foldl (fun set i => set.union i.ahead)
    (s.foldl (fun set i =>
      match i.next? g with
      | some step => set.union (g.first.getD step.symbol 0)
      | none => set) 0)

/-- Whether the reserved words are reserved where the next token is read: a name may come next, and
it may not be any word. -/
def reservesWords : Bool :=
  let name := TerminalSet.single Terminal.identifier.code
  let wanting := (s.complete g).filterMap (fun i =>
      if i.ahead.meets name then some i.anyWord else none) ++
    s.filterMap fun i =>
      match i.next? g with
      | some step =>
        if (g.first.getD step.symbol 0).meets name then some (step.startsAnyWord g.anyWordFirst)
        else none
      | none => none
  !wanting.isEmpty && wanting.all (!·)

end State

end JsxTagger.Grammar
