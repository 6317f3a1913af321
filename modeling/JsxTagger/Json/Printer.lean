import JsxTagger.Decimal.Shortest
import JsxTagger.Json.Limits
import JsxTagger.Text.Half

/-!
# Writing JSON

`Json.render` writes a value over several lines, every level indented by two more blanks, and
`Json.compact` writes it on one line. Everything beyond printable ASCII is escaped, a character
beyond the first 65536 as two escapes and half of a surrogate pair as one.

Not every value can be written: `Json.dump` is `Json.render` up to the first obstacle.
-/

namespace JsxTagger.Json

open Decimal

/-- An escape of four hexadecimal digits. -/
def escapeUnit (n : Nat) : List Char := '\\' :: 'u' :: hexDigits 4 n

/-- A character inside a string. -/
def writeChar (c : Char) : List Char :=
  if c == '"' then ['\\', '"']
  else if c == '\\' then ['\\', '\\']
  else if c == '\n' then ['\\', 'n']
  else if c == '\r' then ['\\', 'r']
  else if c == '\t' then ['\\', 't']
  else if c.toNat == 0x0C then ['\\', 'f']
  else if c.toNat == 0x08 then ['\\', 'b']
  else if 0x20 ≤ c.toNat && c.toNat < 0x7F then [c]
  else if Text.code c < 0x10000 then escapeUnit (Text.code c)
  else
    let n := c.toNat - 0x10000
    escapeUnit (0xD800 + n / 0x400) ++ escapeUnit (0xDC00 + n % 0x400)

/-- A string. -/
def writeString (s : String) : List Char := '"' :: s.toList.flatMap writeChar ++ ['"']

/-- Numbers in documents have at least one decimal place, and an exponent from `1e+16` on and below
`1e-04`. -/
def writtenNumber : NumberFormat where
  upper := 16
  lower := -4
  infinity := "Infinity"
  notANumber := "NaN"

/-- A line break followed by the blanks of a level. -/
def lineBreak (level : Nat) : List Char := '\n' :: List.replicate (2 * level) ' '

mutual

/-- A value on as many lines as it has parts, at a level of indentation. -/
def writeAt (level : Nat) : Json → List Char
  | .null => "null".toList
  | .bool true => "true".toList
  | .bool false => "false".toList
  | .int n => ofInt n
  | .float x => writtenNumber.write x
  | .str s => writeString s
  | .arr [] => ['[', ']']
  | .arr (j :: js) =>
    '[' :: lineBreak (level + 1) ++ writeAt (level + 1) j ++ writeItems (level + 1) js ++
      lineBreak level ++ [']']
  | .obj [] => ['{', '}']
  | .obj ((key, j) :: ms) =>
    '{' :: lineBreak (level + 1) ++ writeString key ++ ':' :: ' ' :: writeAt (level + 1) j ++
      writeMembers (level + 1) ms ++ lineBreak level ++ ['}']

/-- The items of a list after the first one. -/
def writeItems (level : Nat) : List Json → List Char
  | [] => []
  | j :: js => ',' :: lineBreak level ++ writeAt level j ++ writeItems level js

/-- The members of an object after the first one. -/
def writeMembers (level : Nat) : List (String × Json) → List Char
  | [] => []
  | (key, j) :: ms =>
    ',' :: lineBreak level ++ writeString key ++ ':' :: ' ' :: writeAt level j ++
      writeMembers level ms

end

/-- A value on several lines. -/
def render (j : Json) : String := String.ofList (writeAt 0 j)

/-- A value on several lines, where `room` calls are left. Three of them come before the value. -/
def dump (room : Nat) (j : Json) : Except Fault String :=
  match j.obstacle? (room - 3) with
  | some fault => .error fault
  | none => .ok j.render

mutual

/-- A value on one line. -/
def compact : Json → String
  | .null => "null"
  | .bool true => "true"
  | .bool false => "false"
  | .int n => String.ofList (ofInt n)
  | .float x => String.ofList (writtenNumber.write x)
  | .str s => String.ofList (writeString s)
  | .arr items => "[" ++ ",".intercalate (compactItems items) ++ "]"
  | .obj members => "\x7b" ++ ",".intercalate (compactMembers members) ++ "\x7d"

/-- The items of a list, each on one line. -/
def compactItems : List Json → List String
  | [] => []
  | j :: js => j.compact :: compactItems js

/-- The members of an object, each on one line. -/
def compactMembers : List (String × Json) → List String
  | [] => []
  | (key, j) :: ms => (String.ofList (writeString key) ++ ":" ++ j.compact) :: compactMembers ms

end

end JsxTagger.Json
