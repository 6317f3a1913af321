import JsxTagger.Decimal.Digits
import JsxTagger.Text.Half
import JsxTagger.Text.Printable

/-!
# Quoted text

How messages quote a text: between apostrophes, or between quotation marks if the text holds an
apostrophe and no quotation mark. What is not printable is escaped by its code.
-/

namespace JsxTagger.Text

open Decimal

/-- The mark that a text is quoted with. -/
def quoteMark (cs : List Char) : Char :=
  if cs.contains '\'' && !cs.contains '"' then '"' else '\''

/-- A character inside a quoted text. -/
def quotedChar (mark c : Char) : List Char :=
  if c == mark || c == '\\' then ['\\', c]
  else if c == '\n' then ['\\', 'n']
  else if c == '\r' then ['\\', 'r']
  else if c == '\t' then ['\\', 't']
  else if isPrintable c then [c]
  else if code c < 0x100 then '\\' :: 'x' :: hexDigits 2 (code c)
  else if code c < 0x10000 then '\\' :: 'u' :: hexDigits 4 (code c)
  else '\\' :: 'U' :: hexDigits 8 (code c)

/-- A quoted text. -/
def quoted (s : String) : String :=
  let cs := s.toList
  let mark := quoteMark cs
  String.ofList (mark :: cs.flatMap (quotedChar mark) ++ [mark])

end JsxTagger.Text
