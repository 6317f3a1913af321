import JsxTagger.Grammar.Character
import JsxTagger.Grammar.Terminal

/-!
# Lexemes

How much of a text each class of tokens takes. A `Measure` gives the number of characters of the
longest lexeme of a class at the start of a text, and 0 where there is none.
-/

namespace JsxTagger.Grammar

/-- The number of characters that the longest lexeme of some class takes at the start of a text; 0
if there is none. -/
abbrev Measure := List Char → Nat

namespace Lexeme

/-- The number of characters at the start of a text that belong to a class. -/
def run (p : Char → Bool) (cs : List Char) : Nat := (cs.takeWhile p).length

/-- `n` characters in front of a lexeme that must be there. -/
def behind (n rest : Nat) : Nat := if rest == 0 then 0 else n + rest

/-- The length of a fixed text, if the given text starts with it. -/
def literal (text : List Char) (cs : List Char) : Nat :=
  if text.isPrefixOf cs then text.length else 0

/-- `\u` and four hexadecimal digits, or `\u` and hexadecimal digits between braces. -/
def unicodeEscape : Measure
  | '\\' :: 'u' :: '\x7b' :: cs =>
    let digits := run isHexDigit cs
    if digits != 0 && (cs.drop digits).head? == some '\x7d' then digits + 4 else 0
  | '\\' :: 'u' :: cs => if 4 ≤ run isHexDigit (cs.take 4) then 6 else 0
  | _ => 0

/-- The characters with which a name goes on; `n` of them are known to belong to an escape. -/
def namePart : Nat → Measure
  | _, [] => 0
  | n + 1, _ :: cs => namePart n cs + 1
  | 0, c :: cs =>
    if isNamePart c then namePart 0 cs + 1
    else
      match unicodeEscape (c :: cs) with
      | 0 => 0
      | n + 1 => namePart n cs + 1

/-- A name. -/
def name : Measure
  | [] => 0
  | c :: cs => if isDigit c then 0 else namePart 0 (c :: cs)

/-- `#name`. -/
def privateName : Measure
  | '#' :: cs => behind 1 (name cs)
  | _ => 0

/-- A name with a hyphen in it. -/
def tagName : Measure
  | [] => 0
  | c :: cs =>
    if isTagPart c && !isDigit c then
      let head := run isTagPart (c :: cs)
      match (c :: cs).drop head with
      | '-' :: rest => head + 1 + run (fun c => isTagPart c || c == '-') rest
      | _ => 0
    else 0

/-! ## Numbers -/

/-- Digits, with single underscores between them. -/
def digits (p : Char → Bool) : Measure
  | c :: '_' :: d :: cs =>
    if p c then if p d then digits p (d :: cs) + 2 else 1
    else 0
  | c :: cs => if p c then digits p cs + 1 else 0
  | [] => 0

/-- A letter for a base, in either case, and the digits of that base. -/
def based (letters : List Char) (p : Char → Bool) : Measure
  | '0' :: c :: cs => if letters.contains c then behind 2 (digits p cs) else 0
  | _ => 0

/-- An integer with the mark of a big integer, if it has one. -/
def withMark (length : Nat) (cs : List Char) : Nat :=
  if length != 0 && (cs.drop length).head? == some 'n' then length + 1 else length

/-- An exponent. -/
def exponent : Measure
  | c :: cs =>
    if c == 'e' || c == 'E' then
      match cs with
      | '+' :: rest | '-' :: rest => behind 2 (digits isDigit rest)
      | _ => behind 1 (digits isDigit cs)
    else 0
  | [] => 0

/-- Whether digits can be the whole part of a decimal: they are a zero, or what is behind a leading
zero starts with another digit. -/
def isWhole : List Char → Bool
  | ['0'] => true
  | '0' :: c :: _ => isDigit c && c != '0'
  | cs => !cs.isEmpty

/-- A decimal: digits, a point with digits on at least one side, or an exponent behind either. -/
def decimal (cs : List Char) : Nat :=
  let head := digits isDigit cs
  let plain := withMark head cs
  match cs.drop head with
  | '.' :: rest =>
    let fraction := digits isDigit rest
    if head == 0 && fraction == 0 || head != 0 && !isWhole (cs.take head) then plain
    else head + 1 + fraction + exponent (rest.drop fraction)
  | rest => if isWhole (cs.take head) then max plain (behind head (exponent rest)) else plain

/-- A number. -/
def number (cs : List Char) : Nat :=
  let integer (letters : List Char) (p : Char → Bool) : Nat := withMark (based letters p cs) cs
  ((decimal cs).max (integer ['x', 'X'] isHexDigit)).max
    ((integer ['b', 'B'] fun c => c == '0' || c == '1').max (integer ['o', 'O'] isOctalDigit))

/-! ## Comments and literals -/

/-- A block comment of which `length` characters have been read. It has to be closed. -/
def blockFrom (length : Nat) : Measure
  | [] => 0
  | c :: cs =>
    if c == '*' && cs.head? == some '/' then length + 2
    else if isNul c then 0
    else blockFrom (length + 1) cs

/-- A line comment or a block comment. -/
def comment : Measure
  | '/' :: '/' :: cs => 2 + run (fun c => !isLineEnd c && !isNul c) cs
  | '/' :: '*' :: cs => blockFrom 2 cs
  | _ => 0

/-- The line that names an interpreter. -/
def interpreterLine : Measure
  | '#' :: '!' :: cs => 2 + run (fun c => c != '\n' && !isNul c) cs
  | _ => 0

/-- The plain text between two quotes. -/
def quotedText (quote : Char) : Measure :=
  run fun c => c != quote && c != '\\' && c != '\r' && c != '\n' && !isNul c

/-- The plain text of an attribute between two quotes. An ampersand belongs to it, together with
the character behind it, unless that character could belong to a character reference. So far
`length` characters have been read. -/
def attributeFrom (quote : Char) (length : Nat) : Measure
  | '&' :: c :: cs =>
    if c == '#' || isLetter c || isNul c then length else attributeFrom quote (length + 2) cs
  | c :: cs =>
    if c == quote || c == '&' || isNul c then length else attributeFrom quote (length + 1) cs
  | [] => length

/-- The plain text of an attribute between two quotes. -/
def attributeText (quote : Char) : Measure := attributeFrom quote 0

/-- A backslash and what it escapes. -/
def escape : Measure
  | '\\' :: 'x' :: cs => if 2 ≤ run isHexDigit (cs.take 2) then 4 else 0
  | '\\' :: 'u' :: cs => unicodeEscape ('\\' :: 'u' :: cs)
  | '\\' :: '\r' :: c :: _ => if breaksLine c then 3 else 2
  | '\\' :: c :: cs =>
    if isNul c then 0
    else if isOctalDigit c then 1 + run isOctalDigit ((c :: cs).take 3)
    else 2
  | _ => 0

/-- A character reference. -/
def reference : Measure
  | '&' :: '#' :: c :: cs =>
    if c == 'x' || c == 'X' then closed 3 6 isHexDigit cs else closed 2 5 isDigit (c :: cs)
  | '&' :: cs => closed 1 30 isLetter cs
  | _ => 0
where
  /-- Characters of a class, at least one and at most the given number, and a semicolon. -/
  closed (before most : Nat) (p : Char → Bool) (cs : List Char) : Nat :=
    let length := run p cs
    if length != 0 && length ≤ most && (cs.drop length).head? == some ';' then before + length + 1
    else 0

/-- How far into a bracket of a regular expression a text is. -/
inductive RegexPlace where
  /-- Outside of brackets. -/
  | outside
  /-- Behind a backslash outside of brackets. -/
  | escaped
  /-- Inside brackets. -/
  | inside
  /-- Behind a backslash inside brackets. -/
  | insideEscaped
deriving DecidableEq

/-- What stands between the slashes of a regular expression. A bracket has to be closed: `length`
characters have been read so far, and `closed` of them up to the last place outside of brackets. -/
def regexFrom (place : RegexPlace) (length closed : Nat) : Measure
  | [] => closed
  | c :: cs =>
    if c == '\n' || isNul c then closed
    else
      match place with
      | .escaped => regexFrom .outside (length + 1) (length + 1) cs
      | .insideEscaped => regexFrom .inside (length + 1) closed cs
      | .inside =>
        if c == '\\' then regexFrom .insideEscaped (length + 1) closed cs
        else if c == ']' then regexFrom .outside (length + 1) (length + 1) cs
        else regexFrom .inside (length + 1) closed cs
      | .outside =>
        if c == '/' then closed
        else if c == '\\' then regexFrom .escaped (length + 1) closed cs
        else if c == '[' then regexFrom .inside (length + 1) closed cs
        else regexFrom .outside (length + 1) (length + 1) cs

/-- What stands between the slashes of a regular expression. -/
def regexPattern : Measure := regexFrom .outside 0 0

/-- The letters after a regular expression. -/
def regexFlags : Measure := run fun c => 'a' ≤ c && c ≤ 'z'

/-- `static` and `get` with blanks between them, at the end of a line. The blanks behind `get` may
be any number of lines. -/
def staticGet (cs : List Char) : Nat :=
  let isSpace (c : Char) : Bool := c == ' ' || ('\t' ≤ c && c ≤ '\r')
  if "static".toList.isPrefixOf cs then
    let gap := run isSpace (cs.drop 6)
    if gap != 0 && "get".toList.isPrefixOf (cs.drop (6 + gap)) then
      let tail := (cs.drop (9 + gap)).takeWhile isSpace
      let lines := (tail.reverse.dropWhile (· != '\n')).length
      behind (9 + gap) lines
    else 0
  else 0

end Lexeme

end JsxTagger.Grammar
