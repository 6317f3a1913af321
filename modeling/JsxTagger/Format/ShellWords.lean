import JsxTagger.Failure.Fault

/-!
# Words of a command

A command is split into words the way a shell does it: at blanks, unless they are quoted or escaped.
Between single quotes every character stands for itself. Between double quotes a backslash escapes
only a double quote and a backslash. Quotes may hold nothing, which gives an empty word.
-/

namespace JsxTagger.Format

/-- Where in a command a character stands. -/
inductive Place where
  /-- Between words. -/
  | gap
  /-- In a word. -/
  | word
  /-- Between single quotes. -/
  | single
  /-- Between double quotes. -/
  | double
  /-- After a backslash in a word. -/
  | escape
  /-- After a backslash between double quotes. -/
  | quotedEscape
deriving DecidableEq, Repr, Inhabited

/-- The blanks between words. -/
def isWordBlank (c : Char) : Bool := c == ' ' || c == '\t' || c == '\r' || c == '\n'

/-- The place after a character that starts or continues a word, and the characters it adds. -/
def step (c : Char) : Place × List Char :=
  if c == '\\' then (.escape, [])
  else if c == '\'' then (.single, [])
  else if c == '"' then (.double, [])
  else (.word, [c])

/-- The words of a command from a place on. `word` holds the characters of the word so far. -/
def wordsFrom : Place → List Char → List Char → Except Fault (List String)
  | .gap, _, [] => .ok []
  | .word, word, [] => .ok [String.ofList word]
  | .single, _, [] | .double, _, [] => .error ⟨.badValue, "No closing quotation"⟩
  | .escape, _, [] | .quotedEscape, _, [] => .error ⟨.badValue, "No escaped character"⟩
  | .gap, _, c :: cs =>
    if isWordBlank c then wordsFrom .gap [] cs
    else wordsFrom (step c).1 (step c).2 cs
  | .word, word, c :: cs =>
    if isWordBlank c then do return String.ofList word :: (← wordsFrom .gap [] cs)
    else wordsFrom (step c).1 (word ++ (step c).2) cs
  | .single, word, c :: cs =>
    if c == '\'' then wordsFrom .word word cs else wordsFrom .single (word ++ [c]) cs
  | .double, word, c :: cs =>
    if c == '"' then wordsFrom .word word cs
    else if c == '\\' then wordsFrom .quotedEscape word cs
    else wordsFrom .double (word ++ [c]) cs
  | .escape, word, c :: cs => wordsFrom .word (word ++ [c]) cs
  | .quotedEscape, word, c :: cs =>
    if c == '"' || c == '\\' then wordsFrom .double (word ++ [c]) cs
    else wordsFrom .double (word ++ ['\\', c]) cs

/-- The words of a command. -/
def shellWords (command : String) : Except Fault (List String) :=
  wordsFrom .gap [] command.toList

end JsxTagger.Format
