import JsxTagger.Syntax.Node
import JsxTagger.Text.Bytes

/-!
# Parsed files

A `SourceTree` is the syntax tree of a file together with the bytes its offsets refer to. Only trees
without an error become a `SourceTree`; a tree with an error is turned into the `SyntaxFault` that
says where its first error stands.
-/

namespace JsxTagger.Syntax

/-- A file that could not be parsed. -/
structure SyntaxFault where
  /-- The path of the file, if it has one. -/
  path : Option String := none
  /-- The line and the column of the first error, both counted from 1, if the tree shows one. -/
  position : Option (Nat × Nat) := none
deriving DecidableEq, Repr, Inhabited

/-- The text that reports a fault. -/
def SyntaxFault.message (f : SyntaxFault) : String :=
  match f.position with
  | some (line, column) => s!"Syntax error at line {line}, column {column}"
  | none => "Failed to parse source code"

/-- A parsed file. -/
structure SourceTree where
  /-- The bytes of the file. -/
  source : Bytes
  /-- The root of its syntax tree. -/
  root : Node
  /-- The path of the file, if it has one. -/
  path : Option String := none
deriving Inhabited

/-- Whether the bytes of a node are a text. -/
def Node.isLegible (n : Node) (source : Bytes) : Bool :=
  (Bytes.text? (source.slice n.start n.stop)).isSome

/-- The text of a node. Bytes that are not a text count as the empty text. -/
def Node.text (n : Node) (source : Bytes) : String :=
  (Bytes.text? (source.slice n.start n.stop)).getD ""

/-- What turns the text of a file, which may have a path, into a tree. -/
abbrev Parser := String → Option String → Except SyntaxFault SourceTree

/-- The text of a node that may be absent. -/
def textOf (source : Bytes) (n : Option Node) : String :=
  match n with
  | some n => n.text source
  | none => ""

/-- The line, counted from 1, on which a node starts. -/
def Node.line (n : Node) (source : Bytes) : Nat := source.linesBefore n.start + 1

/-- The column, counted from 1 in bytes, at which a node starts. -/
def Node.column (n : Node) (source : Bytes) : Nat := source.columnOf n.start + 1

namespace SourceTree

/-- Accepts a tree that holds no error, and reports the first error of any other tree. -/
def ofRoot (source : Bytes) (root : Node) (path : Option String) :
    Except SyntaxFault SourceTree :=
  if root.hasError then
    .error ⟨path, root.firstError?.map fun n => (n.line source, n.column source)⟩
  else
    .ok ⟨source, root, path⟩

/-- Parses the text of a file with what yields the root of its tree. -/
def parseWith (rootOf : String → Node) : Parser :=
  fun text path => ofRoot (Bytes.ofText text) (rootOf text) path

/-- The tree of a text has the bytes of the text. -/
theorem source_of_parseWith {rootOf : String → Node} {text : String} {path : Option String}
    {tree : SourceTree} (h : parseWith rootOf text path = .ok tree) : tree.source = Bytes.ofText text := by
  rw [parseWith, ofRoot] at h
  split at h
  · cases h
  · cases h
    rfl

/-- The name under which messages speak of a file. -/
def shownPath (path : Option String) : String :=
  match path with
  | none | some "" => "<source>"
  | some p => p

end SourceTree

end JsxTagger.Syntax
