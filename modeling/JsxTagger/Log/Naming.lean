import JsxTagger.Decimal.Digits
import JsxTagger.Failure.Fault
import JsxTagger.Text.Digit

/-!
# Names of log files

The logs of a day are numbered. A new log takes the number after the highest one that any entry of
the day's directory bears, whatever follows its first dot. Digits of every script count.
-/

namespace JsxTagger.Log

/-- A name up to its first dot. -/
def stem (name : String) : List Char := name.toList.takeWhile (· != '.')

/-- Whether a stem consists of digits. -/
def isNumeral (cs : List Char) : Bool := !cs.isEmpty && cs.all Text.isAnyDigit

/-- The number that a numeral stands for. Digits that only adorn, such as superscripts, have no
place value. -/
def numeralValue (cs : List Char) : Except Fault Nat :=
  match cs.mapM Text.decimalValue? with
  | some values => .ok (values.foldl (fun n d => 10 * n + d) 0)
  | none =>
    .error ⟨.badValue,
      s!"invalid literal for int() with base 10: {Text.quoted (String.ofList cs)}"⟩

/-- The highest number among the names of a directory, 0 if there is none. -/
def highestNumber (names : List String) : Except Fault Nat :=
  ((names.map stem).filter isNumeral).foldlM
    (fun highest cs => return max highest (← numeralValue cs)) 0

/-- The name of the next log in a directory with the given names. -/
def nextName (names : List String) : Except Fault String := do
  let highest ← highestNumber names
  return String.ofList (Decimal.digits (highest + 1)) ++ ".log"

end JsxTagger.Log
