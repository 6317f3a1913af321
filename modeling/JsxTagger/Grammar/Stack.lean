import JsxTagger.Grammar.Lexer

/-!
# Stacks that share their lower parts

A text may have several readings until more of it has been seen. Each reading under way is a stack
of states with trees between them; the stacks form a graph, in which readings that have come to the
same state at the same place are one vertex again. A vertex may therefore lead down along several
links, and a reduction may find several ways to take its trees off the stack.
-/

namespace JsxTagger.Grammar

/-- What has been read of a text. -/
inductive Tree where
  /-- A token. -/
  | token (terminal start stop : Nat)
  /-- A rule that was read by a production. -/
  | reading (production rule start stop : Nat) (weight : Int) (children : List Tree)
deriving Inhabited

namespace Tree

/-- The code of the symbol at the root. -/
def symbol : Tree → Nat
  | token terminal _ _ => terminal
  | reading _ rule _ _ _ _ => rule

/-- The offset of the first byte. -/
def start : Tree → Nat
  | token _ start _ => start
  | reading _ _ start _ _ _ => start

/-- The offset after the last byte. -/
def stop : Tree → Nat
  | token _ _ stop => stop
  | reading _ _ _ stop _ _ => stop

/-- The weights of all productions in the tree, added up. -/
def weight : Tree → Int
  | token .. => 0
  | reading _ _ _ _ weight _ => weight

/-- The trees below the root. -/
def children : Tree → List Tree
  | token .. => []
  | reading _ _ _ _ _ children => children

/-- Comments may stand between any two tokens, and no production mentions them. -/
def isComment (t : Tree) : Bool :=
  t.symbol == Terminal.comment.code || t.symbol == Terminal.htmlComment.code

/-- Whether two trees stand for the same symbol at the same place with equally many children. -/
def resembles (a b : Tree) : Bool :=
  a.symbol == b.symbol && a.start == b.start && a.stop == b.stop &&
    a.children.length == b.children.length

mutual

/-- Compares two trees by their symbols and the numbers of their children, from the root down and
from left to right. -/
def order : Tree → Tree → Ordering
  | a, b =>
    ((compare a.symbol b.symbol).then (compare a.children.length b.children.length)).then
      (match a with
        | token .. => .eq
        | reading _ _ _ _ _ children => orderAll children b.children)

/-- Compares two lists of trees of equal length. -/
def orderAll : List Tree → List Tree → Ordering
  | a :: as, b :: bs => (order a b).then (orderAll as bs)
  | _, _ => .eq

end

/-- Whether another reading of the same text is to be taken in place of a tree: it weighs more, or
it weighs the same and comes first in the order of trees. -/
def yieldsTo (a b : Tree) : Bool :=
  a.weight < b.weight || (a.weight == b.weight && order a b == .gt)

end Tree

/-- A way down from a vertex. -/
structure Link where
  /-- The tree between the two vertices. -/
  tree : Tree
  /-- The vertex below. -/
  below : Nat
deriving Inhabited

/-- The top of a stack, and what it rests on. -/
structure Vertex where
  /-- The readings under way. -/
  state : State
  /-- How far the text has been read. -/
  place : Cursor
  /-- The ways down. -/
  links : List Link := []
  /-- The greatest total weight of the trees on a way down. -/
  weight : Int := 0
deriving Inhabited

/-- Stacks that share vertices. -/
abbrev Stacks := Array Vertex

namespace Stacks

/-- The vertex with a given number. -/
def vertex (s : Stacks) (v : Nat) : Vertex := s.getD v default

/-- Puts a tree on top of a vertex. The new vertex is the last one. -/
def push (s : Stacks) (below : Nat) (tree : Tree) (state : State) (place : Cursor) : Stacks :=
  Array.push s
    { state, place, links := [⟨tree, below⟩], weight := (s.vertex below).weight + tree.weight }

/-- Whether two vertices are in the same state at the same place. -/
def meets (s : Stacks) (v w : Nat) : Bool :=
  let a := s.vertex v
  let b := s.vertex w
  a.place.offset == b.place.offset && a.state == b.state

/-- Adds a way down to a vertex. Of two trees that resemble each other between the same vertices
the heavier one is kept; where only the vertices below differ and have met, those are made one,
which goes at most `fuel` levels down. -/
def addLink : Nat → Stacks → Nat → Link → Stacks
  | 0, s, _, _ => s
  | fuel + 1, s, v, link =>
    if link.below == v then s
    else
      let target := s.vertex v
      let total := (s.vertex link.below).weight + link.tree.weight
      let similar (l : Link) : Bool :=
        l.tree.resembles link.tree && (l.below == link.below || s.meets l.below link.below)
      match target.links.find? similar with
      | none =>
        s.setIfInBounds v
          { target with links := target.links ++ [link], weight := max target.weight total }
      | some l =>
        if l.below == link.below then
          if l.tree.weight < link.tree.weight then
            s.setIfInBounds v
              { target with
                links := target.links.map fun k =>
                  if similar k && k.below == link.below then link else k
                weight := total }
          else s
        else
          let s : Stacks := s.setIfInBounds v { target with weight := max target.weight total }
          (s.vertex link.below).links.foldl (fun s below => addLink fuel s l.below below) s

/-- Makes two vertices that have met one: the ways down from `w` are added to `v`. -/
def unite (s : Stacks) (v w : Nat) : Stacks :=
  (s.vertex w).links.foldl (fun s link => addLink s.size s v link) s

/-- A tree that was taken off a stack, and the place behind it. -/
structure Popped where
  /-- The tree. -/
  tree : Tree
  /-- How far the text had been read. -/
  after : Cursor
deriving Inhabited

/-- All ways to take a number of trees off the stack at a vertex, comments not counted. A way is the
vertex it leads to and the trees in the order of the text. -/
def pop (s : Stacks) : Nat → Nat → Nat → List Popped → List (Nat × List Popped)
  | 0, _, _, _ => []
  | _, 0, v, taken => [(v, taken)]
  | fuel + 1, count + 1, v, taken =>
    let top := s.vertex v
    top.links.flatMap fun link =>
      pop s fuel (if link.tree.isComment then count + 1 else count) link.below
        (⟨link.tree, top.place⟩ :: taken)

/-- All trees from the bottom to a vertex, along the first links. -/
def trees (s : Stacks) : Nat → Nat → List Tree → List Tree
  | 0, _, found => found
  | fuel + 1, v, found =>
    match (s.vertex v).links with
    | [] => found
    | link :: _ => trees s fuel link.below (link.tree :: found)

end Stacks

end JsxTagger.Grammar
