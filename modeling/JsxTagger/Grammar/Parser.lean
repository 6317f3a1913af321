import JsxTagger.Grammar.Stack

/-!
# Parsing

The parser follows all readings of a text side by side. A reading that finds no token it expects is
stuck and dropped, as long as another one goes on; a text in which all readings are stuck is outside
the grammar. Where several readings reach the end, `Tree.yieldsTo` decides.
-/

namespace JsxTagger.Grammar

/-- How a reading stands. -/
inductive Status where
  /-- It goes on. -/
  | active
  /-- It met a token it does not expect. -/
  | stuck
  /-- It has come to an end, or became one with another reading. -/
  | done
deriving DecidableEq

/-- A reading under way. -/
structure Head where
  /-- The top of its stack. -/
  vertex : Nat
  /-- How it stands. -/
  status : Status := .active

/-- All readings of a text. -/
structure Readings where
  /-- The graph of their stacks. -/
  graph : Stacks
  /-- The readings, the most promising first. -/
  heads : List Head
  /-- The offset that the furthest reading has reached. -/
  reached : Nat
  /-- The trees of the best complete reading so far. -/
  complete : Option (List Tree) := none

namespace Readings

variable (g : Table) (r : Readings)

/-- The top of the stack of a reading. -/
def top (head : Nat) : Vertex :=
  match r.heads[head]? with
  | some h => r.graph.vertex h.vertex
  | none => default

/-- Sets how a reading stands. -/
def mark (head : Nat) (status : Status) : Readings :=
  { r with heads := r.heads.modify head ({ · with status }) }

/-- Whether a reading goes on. -/
def isActive (head : Nat) : Bool := r.heads[head]?.any (·.status = .active)

/-- Puts a tree on the stack of a reading. -/
def shift (head : Nat) (tree : Tree) (state : State) (place : Cursor) : Readings :=
  match r with
  | ⟨graph, heads, reached, complete⟩ =>
    match heads[head]? with
    | none => ⟨graph, heads, reached, complete⟩
    | some h =>
      let vertex := graph.size
      ⟨graph.push h.vertex tree state place, heads.set head { h with vertex }, reached, complete⟩

/-! ## Reductions -/

/-- The tree that a production makes of trees from the stack, followed by the comments behind it. -/
def build (production : Nat) (below : Vertex) (taken : List Stacks.Popped) :
    Stacks.Popped × List Stacks.Popped :=
  let p := g.productions.getD production default
  let (comments, trees) := taken.reverse.span (·.tree.isComment)
  let start := ((trees.getLast?.map (·.tree.start))).getD below.place.offset
  let after := (trees.head?.map (·.after)).getD below.place
  let children := (trees.map (·.tree)).reverse
  let weight := children.foldl (fun sum t => sum + t.weight) p.weight
  (⟨.reading production p.rule start after.offset weight children, after⟩, comments.reverse)

/-- Puts trees on a vertex and leaves the state as it is. -/
def pushAll (state : State) (graph : Stacks) (v : Nat) : List Stacks.Popped → Stacks × Nat
  | [] => (graph, v)
  | p :: ps =>
    let top := graph.size
    pushAll state (graph.push v p.tree state p.after) top ps

/-- The ways of a list that lead to the same vertex, brought together. -/
def group (ways : List (Nat × List Stacks.Popped)) : List (Nat × List (List Stacks.Popped)) :=
  (ways.map (·.1)).eraseDups.map fun v =>
    (v, (ways.filter (·.1 == v)).map (·.2))

/-- Adds a reading, unless it has met one that is there already, other than `except`. -/
def addHead (except vertex : Nat) : Readings :=
  match r with
  | ⟨graph, heads, reached, complete⟩ =>
    let other? := (heads.zipIdx.find? fun (h, j) =>
      j != except && h.status = .active && graph.meets h.vertex vertex).map (·.1)
    match other? with
    | some other => ⟨graph.unite other.vertex vertex, heads, reached, complete⟩
    | none => ⟨graph, heads ++ [{ vertex }], reached, complete⟩

/-- Starts a reading with the best of the trees that a production makes where a way leads. -/
def replace (head production rule : Nat) (way : Nat × List (List Stacks.Popped)) : Readings :=
  match r with
  | ⟨graph, heads, reached, complete⟩ =>
    let below := graph.vertex way.1
    match way.2.map (build g production below) with
    | [] => ⟨graph, heads, reached, complete⟩
    | first :: others =>
      let (tree, comments) := others.foldl (fun best other =>
        if best.1.tree.yieldsTo other.1.tree then other else best) first
      let (graph, top) := pushAll (below.state.after g rule) graph way.1 (tree :: comments)
      addHead ⟨graph, heads, reached, complete⟩ head top

/-- Replaces the trees of a production on the stack of a reading by the tree they make. Each vertex
this leads to starts a new reading. -/
def reduce (head production : Nat) : Readings :=
  match r.heads[head]? with
  | none => r
  | some h =>
    let p := g.productions.getD production default
    let ways := r.graph.pop (r.graph.size + 1) p.steps.size h.vertex []
    (group ways).foldl (fun r way => r.replace g head production p.rule way) r

/-! ## Steps -/

/-- Ends a reading at the end of the text. -/
def finish (head : Nat) : Readings :=
  let trees := match r.heads[head]? with
    | some h => r.graph.trees r.graph.size h.vertex []
    | none => []
  let whole (trees : List Tree) : Tree := (trees.find? (!·.isComment)).getD default
  let better := match r.complete with
    | none => true
    | some best => (whole best).yieldsTo (whole trees)
  { (r.mark head .done) with complete := if better then some trees else r.complete }

/-- Whether a keyword may be taken as a name in a state that has no use for it. -/
def mayBeName (s : State) (terminal : Nat) : Bool :=
  Lexer.keywords.any (·.1 == terminal) &&
    !((s.expectation g).reserved.meets (TerminalSet.single terminal)) &&
    (let moves := s.moves g Terminal.identifier.code
     moves.shift || !moves.reductions.isEmpty)

/-- Makes all moves of a reading with a token, until the token has been read or the reading ends.
At most `fuel` rounds of reductions are made. -/
def act : Nat → Readings → Nat → Token → Readings
  | 0, r, head, _ => r.mark head .stuck
  | fuel + 1, r, head, token =>
    let state := (r.top head).state
    let leaf := Tree.token token.terminal token.start token.after.offset
    if leaf.isComment then r.shift head leaf state token.after
    else if token.terminal == Terminal.finish.code && state.isFinal g then r.finish head
    else
      let moves := state.moves g token.terminal
      let before := r.heads.length
      let (r, new?) := moves.reductions.foldl (fun (r, new?) production =>
        let count := r.heads.length
        let r := r.reduce g head production
        (r, if count < r.heads.length then some count else new?)) (r, (none : Option Nat))
      if moves.shift then r.shift head leaf (state.after g token.terminal) token.after
      else
        match new?.bind (r.heads[·]?) with
        | some h =>
          let heads := (r.heads.set head h).eraseIdx (new?.getD before)
          act fuel { r with heads } head token
        | none =>
          if !moves.reductions.isEmpty then r.mark head .done
          else if token.terminal != Terminal.identifier.code &&
              mayBeName g state token.terminal then
            act fuel r head { token with terminal := Terminal.identifier.code }
          else r.mark head .stuck

/-- Reads the next token of a reading. -/
def advance (fuel head : Nat) : Readings :=
  let v := r.top head
  match Lexer.next (v.state.expectation g) v.place with
  | none => r.mark head .stuck
  | some token => act g fuel r head token

/-- Reads tokens of a reading until it is as far as the furthest reading. The first one goes on
until it is further. -/
def catchUp (g : Table) (fuel : Nat) : Nat → Readings → Nat → Readings
  | 0, r, _ => r
  | n + 1, r, head =>
    if r.isActive head then
      let r := r.advance g fuel head
      let offset := (r.top head).place.offset
      if r.reached < offset || (0 < head && offset == r.reached) then { r with reached := offset }
      else catchUp g fuel n r head
    else r

/-- Lets the readings from the given one on catch up, new ones included. -/
def round (g : Table) (fuel : Nat) : Nat → Readings → Nat → Readings
  | 0, r, _ => r
  | n + 1, r, head =>
    if head < r.heads.length then round g fuel n (catchUp g fuel fuel r head) (head + 1) else r

/-- Takes a reading into a list of readings, the heaviest first, unless it has met one of them. -/
def rank (graph : Stacks) (h : Head) : List Head → Stacks × List Head
  | [] => (graph, [h])
  | k :: ks =>
    if graph.meets k.vertex h.vertex then (graph.unite k.vertex h.vertex, k :: ks)
    else
      let heavier := (graph.vertex k.vertex).weight < (graph.vertex h.vertex).weight
      let (ahead, behind) := if heavier then (h, k) else (k, h)
      let (graph, ks) := rank graph behind ks
      (graph, ahead :: ks)

/-- Drops the readings that no longer go on and brings those together that have met. -/
def condense : Readings :=
  match r with
  | ⟨graph, heads, reached, complete⟩ =>
    let (graph, heads) := (heads.filter (·.status = .active)).foldl
      (fun (graph, heads) h => rank graph h heads) (graph, [])
    ⟨graph, heads, reached, complete⟩

/-- Reads to the end of the text, in at most the given number of rounds. -/
def toEnd (g : Table) (fuel : Nat) : Nat → Readings → Readings
  | 0, r => r
  | n + 1, r =>
    if r.heads.isEmpty then r else toEnd g fuel n (round g fuel fuel r 0).condense

end Readings

/-- The trees of a text, or nothing if it is outside the grammar. They are the tree of the whole
text and the comments outside of it. -/
def parse (g : Table) (start : Cursor) : Option (List Tree) :=
  let fuel := 16 * (start.rest.length + 16)
  (Readings.toEnd g fuel fuel
    { graph := #[{ state := State.initial g, place := start }]
      heads := [{ vertex := 0 }]
      reached := start.offset }).complete

end JsxTagger.Grammar
