import JsxTagger.Grammar.Parser
import JsxTagger.Syntax.Tree

/-!
# Whole files

`parseTree` turns the text of a file into a syntax tree. A text outside the grammar still gives a
tree, with an error node, so that a parsed file and a rejected one are told apart in one way only:
by `Node.hasError`.
-/

namespace JsxTagger.Grammar

open Syntax

/-- Gives nodes that fill no field yet a field. Comments fill none. -/
def fillField (field : Option Field) (ns : List Node) : List Node :=
  match field with
  | none => ns
  | some _ => ns.map fun
    | .mk label children =>
      if label.field.isNone && label.kind != .comment then .mk { label with field } children
      else .mk label children

mutual

/-- The nodes of a tree: itself, or its children if it does not appear. -/
def Tree.nodes (g : Table) (shown : Option Shown) (field : Option Field) : Tree → List Node
  | .token terminal start stop =>
    match shown.or (g.shown.getD terminal none) with
    | some s => [.mk { kind := s.kind, start, stop, named := s.named, field } []]
    | none => []
  | .reading production rule start stop _ children =>
    let steps := (g.productions.getD production default).steps.toList
    let below := nodesAll g steps children
    match shown.or (g.shown.getD rule none) with
    | some s => [.mk { kind := s.kind, start, stop, named := s.named, field } below]
    | none => fillField field below

/-- The nodes of the trees that a production was read from. -/
def Tree.nodesAll (g : Table) : List CodedStep → List Tree → List Node
  | _, [] => []
  | steps, t :: ts =>
    if t.isComment then t.nodes g none none ++ nodesAll g steps ts
    else
      match steps with
      | s :: steps => t.nodes g s.shown s.field ++ nodesAll g steps ts
      | [] => t.nodes g none none ++ nodesAll g [] ts

end

/-- The children of a file's root: what the whole text was read from, and comments outside of it. -/
def rootChildren (trees : List Tree) : List Node :=
  trees.flatMap fun t =>
    (t.nodes table none none).flatMap fun n => if n.kind == .program then n.children else [n]

/-- The root of a file's syntax tree. A byte order mark in front of the text is no part of it. -/
def parseTree (text : String) : Node :=
  let start : Cursor :=
    match text.toList with
    | c :: cs => if c.toNat == 0xFEFF then ⟨cs, c.utf8Size⟩ else ⟨c :: cs, 0⟩
    | [] => ⟨[], 0⟩
  let size := text.utf8ByteSize
  .mk { kind := .program, start := 0, stop := size }
    (match parse table start with
      | some trees => rootChildren trees
      | none => [.mk { kind := .error, start := 0, stop := size } []])

/-- Parses the text of a file. -/
def parseSource : Parser := SourceTree.parseWith parseTree

end JsxTagger.Grammar
