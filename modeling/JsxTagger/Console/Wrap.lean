import JsxTagger.Console.Width
import JsxTagger.Text.Blank

/-!
# Lines of the console

The console is `lineWidth` cells wide. A longer line is broken before the word that does not fit any
more; blanks at the end of a line do not count. A word that fits on no line starts a line of its own
and goes on over as many lines as it needs. Before that, tabs are filled up with blanks.
-/

namespace JsxTagger.Console

/-- The number of cells of a line. -/
def lineWidth : Nat := 2000

/-- The distance between two tab stops. -/
def tabStop : Nat := 8

/-- A line in which blanks lead up to the tab stops. `position` is the number of cells before it. -/
def expandTabs (position : Nat) : List Char → List Char
  | [] => []
  | c :: cs =>
    if c = '\t' then
      let blanks := tabStop - position % tabStop
      List.replicate blanks ' ' ++ expandTabs (position + blanks) cs
    else c :: expandTabs (position + charWidth c) cs

/-- The words of a line, each with the blanks after it and the first one also with those before it.
A line of blanks has none. The number bounds the words. -/
def lineWords : Nat → List Char → List (List Char)
  | 0, _ => []
  | fuel + 1, cs =>
    let before := cs.takeWhile Text.isSpace
    let body := (cs.drop before.length).takeWhile (!Text.isSpace ·)
    let after := (cs.drop (before.length + body.length)).takeWhile Text.isSpace
    if body.isEmpty then []
    else
      (before ++ body ++ after) ::
        lineWords fuel (cs.drop (before.length + body.length + after.length))

/-- Cuts a word into pieces that fit on a line. `piece` holds the characters since the last cut, the
last one first, and `used` the cells that they take. -/
def chop (limit : Nat) (piece : List Char) (used : Nat) : List Char → List (List Char)
  | [] => [piece.reverse]
  | c :: cs =>
    if limit < used + charWidth c then piece.reverse :: chop limit [c] (charWidth c) cs
    else chop limit (c :: piece) (used + charWidth c) cs

/-- A line that is being broken. -/
structure Breaking where
  /-- The lines that are complete, the last one first. -/
  done : List (List Char) := []
  /-- The line that is being filled. -/
  line : List Char := []
  /-- The number of cells that it takes. -/
  used : Nat := 0

/-- Starts a new line with a text, unless nothing was set yet. -/
def Breaking.start (b : Breaking) (text : List Char) : Breaking :=
  let used := width text
  if b.done.isEmpty && b.line.isEmpty then { b with line := text, used }
  else { done := b.line :: b.done, line := text, used }

/-- Sets the next word. -/
def Breaking.add (limit : Nat) (b : Breaking) (word : List Char) : Breaking :=
  let needed := width (word.reverse.dropWhile Text.isSpace)
  if b.used + needed ≤ limit then { b with line := b.line ++ word, used := b.used + width word }
  else if limit < needed then (chop limit [] 0 word).foldl Breaking.start b
  else b.start word

/-- Breaks a line into lines that fit. -/
def breakLine (limit : Nat) (cs : List Char) : List (List Char) :=
  if cs.length ≤ limit / 2 then [cs]
  else
    match lineWords cs.length cs with
    | [] => [cs]
    | words =>
      let b := words.foldl (Breaking.add limit) {}
      (b.line :: b.done).reverse

/-- Splits characters into lines. -/
def splitLines (cs : List Char) : List (List Char) :=
  cs.foldr (fun c lines =>
    if c = '\n' then [] :: lines
    else
      match lines with
      | [] => [[c]]
      | line :: lines => (c :: line) :: lines) [[]]

/-- Characters as the console shows them. -/
def layOut (cs : List Char) : List Char :=
  List.intercalate ['\n'] ((splitLines cs).flatMap fun line =>
    breakLine lineWidth (if line.contains '\t' then expandTabs 0 line else line))

end JsxTagger.Console
