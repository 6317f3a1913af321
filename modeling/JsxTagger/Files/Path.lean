import JsxTagger.Text.Quoted

/-!
# Paths

A path is a list of names. It starts at the root directory or, if it is relative, at the working
directory. Reading a path drops empty names and `.`, so `a//b/./c/` is `a/b/c`; `..` is kept,
because it means something else behind a symbolic link.
-/

namespace JsxTagger.Files

/-- Where a path starts. -/
inductive Anchor where
  /-- At the working directory. -/
  | relative
  /-- At the root directory. -/
  | root
  /-- At the root directory, written with exactly two slashes. -/
  | doubleRoot
deriving DecidableEq, Repr, Inhabited

/-- How an anchor is written. -/
def Anchor.text : Anchor → String
  | relative => ""
  | root => "/"
  | doubleRoot => "//"

/-- A path without redundant parts. -/
structure Path where
  /-- Where it starts. -/
  anchor : Anchor := .relative
  /-- The names it goes through. -/
  parts : List String := []
deriving DecidableEq, Repr, Inhabited

namespace Path

/-- Splits a text at its slashes. -/
def splitSlashes : List Char → List (List Char)
  | [] => [[]]
  | '/' :: cs => [] :: splitSlashes cs
  | c :: cs =>
    match splitSlashes cs with
    | [] => [[c]]
    | name :: names => (c :: name) :: names

/-- The names of a path that matter. -/
def names (cs : List Char) : List String :=
  ((splitSlashes cs).filter fun name => !name.isEmpty && name != ['.']).map String.ofList

/-- Where the path with the given text starts. -/
def anchorOf : List Char → Anchor
  | '/' :: '/' :: '/' :: _ => .root
  | '/' :: '/' :: _ => .doubleRoot
  | '/' :: _ => .root
  | _ => .relative

/-- The path with the given text. -/
def ofText (s : String) : Path := ⟨anchorOf s.toList, names s.toList⟩

/-- The text of a path. The empty path is written as a dot. -/
def text (p : Path) : String :=
  if p.anchor = .relative && p.parts.isEmpty then "." else p.anchor.text ++ "/".intercalate p.parts

/-- Whether a path starts at the root directory. -/
def isAbsolute (p : Path) : Bool := p.anchor != .relative

/-- The path that leads on from `p` along `q`. An absolute path leads where it always leads. -/
def join (p q : Path) : Path := if q.isAbsolute then q else { p with parts := p.parts ++ q.parts }

/-- The path one name up. A path without names stays as it is. -/
def parent (p : Path) : Path := { p with parts := p.parts.dropLast }

/-- The last name of a path, empty if it has none. -/
def name (p : Path) : String := p.parts.getLast?.getD ""

/-- The path whose last name is replaced. -/
def withName (p : Path) (name : String) : Path := { p with parts := p.parts.dropLast ++ [name] }

/-- A path as messages quote it. -/
def shown (p : Path) : String := s!"PosixPath({Text.quoted p.text})"

/-- Whether a path holds a character that no path of the system can hold. -/
def hasNull (p : Path) : Bool := p.parts.any fun name => name.toList.contains (Char.ofNat 0)

end Path

/-- The extension of a file name: what follows from its last dot on, unless that dot is the first or
the last character. -/
def extension (name : String) : String :=
  let tail := (name.toList.reverse.takeWhile (· != '.')).reverse
  let dot := name.length - tail.length
  if tail.isEmpty || dot ≤ 1 then "" else "." ++ String.ofList tail

end JsxTagger.Files
