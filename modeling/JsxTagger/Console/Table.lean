import JsxTagger.Console.Markup

/-!
# Printed tables

A table has a title, a head and rows of two columns, the second of which is aligned to the right.
Columns are as wide as their widest cell, with a blank on either side, and the title is centred over
the table.
-/

namespace JsxTagger.Console

/-- A table with two columns. -/
structure Table where
  /-- The title. -/
  title : String
  /-- The heads of the columns. -/
  head : String × String
  /-- The rows. -/
  rows : List (String × String) := []

namespace Table

/-- A character several times. -/
def fill (n : Nat) (c : Char) : String := String.ofList (List.replicate n c)

/-- The width of the first column. -/
def leftWidth (t : Table) : Nat := ((t.head :: t.rows).map fun r => r.1.length).foldl max 0

/-- The width of the second column. -/
def rightWidth (t : Table) : Nat := ((t.head :: t.rows).map fun r => r.2.length).foldl max 0

/-- A row between three bars. -/
def row (t : Table) (bar : String) (r : String × String) : String :=
  bar ++ " " ++ r.1 ++ fill (t.leftWidth - r.1.length) ' ' ++ " " ++ bar ++ " " ++
    fill (t.rightWidth - r.2.length) ' ' ++ r.2 ++ " " ++ bar

/-- A rule with its three corners. -/
def rule (t : Table) (left middle right : String) (dash : Char) : String :=
  left ++ fill (t.leftWidth + 2) dash ++ middle ++ fill (t.rightWidth + 2) dash ++ right

/-- The title with the blanks before it. -/
def titleLine (t : Table) : String :=
  fill ((t.leftWidth + t.rightWidth + 7 - t.title.length) / 2) ' ' ++ t.title

/-- The lines of a table. -/
def lines (t : Table) : List String :=
  [t.titleLine, t.rule "┏" "┳" "┓" '━', t.row "┃" t.head, t.rule "┡" "╇" "┩" '━'] ++
    t.rows.map (t.row "│") ++ [t.rule "└" "┴" "┘" '─']

end Table

end JsxTagger.Console
