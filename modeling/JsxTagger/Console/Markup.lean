import JsxTagger.Console.Emoji
import JsxTagger.Console.Literal
import JsxTagger.Console.Style
import JsxTagger.Console.Wrap

/-!
# Markup in printed text

Printed text is marked up with tags in square brackets, such as `[green]` and `[/green]`. What
counts as a tag is decided by the first character after the bracket: a small letter, `#`, `/` or
`@`. Tags are not printed, whatever they say, and a backslash before a tag takes away its meaning.

A closing tag has to name a tag that is open, or to name none and close the last one. Tags are known
by the styles they mean, so `[b]` is closed by `[/bold]`. A tag that starts with `@` can carry an
action, whose arguments have to be literal values; they are looked at when the tag is closed.
-/

namespace JsxTagger.Console

/-- Characters with which the contents of a tag start. -/
def startsTag (c : Char) : Bool :=
  ('a' ≤ c && c ≤ 'z') || c == '#' || c == '/' || c == '@'

/-- The contents of the tag at the start of a text, and what follows it. -/
def tag? : List Char → Option (List Char × List Char)
  | '[' :: c :: cs =>
    if startsTag c then
      let inner := cs.takeWhile fun c => c != '[' && c != ']'
      match cs.drop inner.length with
      | ']' :: rest => some (c :: inner, rest)
      | _ => none
    else none
  | _ => none

/-- A piece of marked-up text. -/
inductive Piece where
  /-- Characters to be printed. -/
  | text (cs : List Char)
  /-- A tag with its contents. -/
  | tag (contents : List Char)
deriving DecidableEq, Repr

/-- Splits a text into pieces, going at most the given number of steps. `run` holds the characters
since the last tag, the last one first. Backslashes before a tag are taken in pairs, each of which stands for one; one
that is left over makes the tag plain text. -/
def pieces : Nat → List Char → List Char → List Piece
  | 0, run, cs => [.text (run.reverse ++ cs)]
  | _, run, [] => [.text run.reverse]
  | fuel + 1, run, c :: cs =>
    let slashes := (c :: cs).takeWhile (· == '\\')
    let rest := (c :: cs).drop slashes.length
    match tag? rest with
    | some (contents, after) =>
      let piece :=
        if slashes.length % 2 = 1 then .text ('[' :: contents ++ [']']) else .tag contents
      .text run.reverse :: .text (List.replicate (slashes.length / 2) '\\') :: piece ::
        pieces fuel [] after
    | none =>
      if slashes.isEmpty then pieces fuel (c :: run) cs else pieces fuel (slashes ++ run) rest

/-- Text between tags: a backslash before a bracket is not printed. -/
def unescape : List Char → List Char
  | '\\' :: '[' :: cs => '[' :: unescape cs
  | c :: cs => c :: unescape cs
  | [] => []

/-- A tag that is open. -/
structure OpenTag where
  /-- The style that it means. -/
  style : String
  /-- What follows the equals sign, if there is one. -/
  action : List Char := []
deriving DecidableEq, Repr, Inhabited

/-- Takes the last of the open tags with the given style. -/
def takeLast (style : String) : List OpenTag → Option (OpenTag × List OpenTag)
  | [] => none
  | tag :: below =>
    if tag.style = style then some (tag, below)
    else (takeLast style below).map fun (found, below) => (found, tag :: below)

/-- Whether the action of a tag is a name, a name with arguments in parentheses, or a value. -/
def actionOk (action : List Char) : Bool :=
  let action := Text.trimChars action
  let arguments := action.dropWhile fun c => Literal.isWordChar c || c = '.'
  if arguments.isEmpty then true
  else if arguments.head? = some '(' && arguments.getLast? = some ')' && !arguments.contains '\n' then
    Literal.isLiteral arguments
  else Literal.isLiteral action

/-- The fault of a tag that cannot be closed. -/
def closingFault (contents : List Char) : Fault :=
  ⟨.badMarkup, s!"closing tag '[{String.ofList contents}]' cannot be used"⟩

/-- The open tags after a tag; the last one opened comes first. -/
def applyTag (opened : List OpenTag) (contents : List Char) : Except Fault (List OpenTag) := do
  let name := contents.takeWhile (· != '=')
  match name with
  | '/' :: name =>
    let name := Text.trimChars name
    let found ←
      if name.isEmpty then .ok (opened.head?.map fun tag => (tag, opened.tail))
      else (normalStyle (String.ofList name)).map (takeLast · opened)
    match found with
    | none => .error (closingFault contents)
    | some (tag, opened) =>
      if tag.style.startsWith "@" && !tag.action.isEmpty && !actionOk tag.action then
        .error (closingFault contents)
      else .ok opened
  | _ =>
    let style ← normalStyle (String.ofList name)
    .ok (⟨style, contents.drop (name.length + 1)⟩ :: opened)

/-- The printed characters of pieces, given the tags that are open. -/
def printPieces (opened : List OpenTag) : List Piece → Except Fault (List Char)
  | [] => .ok []
  | .text cs :: ps => do return Emoji.replace (unescape cs) ++ (← printPieces opened ps)
  | .tag contents :: ps => do printPieces (← applyTag opened contents) ps

/-- Characters that are never printed: bell, backspace, vertical tab, form feed, carriage return. -/
def isControl (c : Char) : Bool := [7, 8, 11, 12, 13].contains c.toNat

/-- The characters that are left of a marked-up text. -/
def plainChars (s : String) : Except Fault (List Char) := do
  let cs ← printPieces [] (pieces (s.length + 1) [] s.toList)
  return cs.filter fun c => !isControl c

/-- The text that is printed for a marked-up text. -/
def plainText (s : String) : Except Fault String := do
  return String.ofList (layOut (← plainChars s))

/-! ## Printing -/

/-- An operation that prints texts and may fail. What was printed stays printed. -/
abbrev PrintM := ExceptT Fault (StateM (List String))

/-- Prints a text as it is. -/
def printPlain (s : String) : PrintM Unit := modify (· ++ [s ++ "\n"])

/-- Prints a marked-up text. -/
def print (s : String) : PrintM Unit := do
  match plainText s with
  | .ok text => printPlain text
  | .error fault => throw fault

end JsxTagger.Console
