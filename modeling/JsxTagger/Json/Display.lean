import JsxTagger.Decimal.Shortest
import JsxTagger.Json.Value
import JsxTagger.Text.Quoted

/-!
# Values in messages

How messages show a JSON value: texts are quoted, the truth values and `null` are written with a
capital letter, and brackets hold their items on one line. Whether a value can be shown is asked
apart from that (`Json.obstacle?`).
-/

namespace JsxTagger.Json

/-- Numbers in messages have at least one decimal place, and an exponent from `1e+16` on and below
`1e-04`. -/
def shownNumber : Decimal.NumberFormat where
  upper := 16
  lower := -4
  infinity := "inf"
  notANumber := "nan"

mutual

/-- A value as messages quote it. -/
def shown : Json → String
  | .null => "None"
  | .bool true => "True"
  | .bool false => "False"
  | .int n => String.ofList (Decimal.ofInt n)
  | .float x => String.ofList (shownNumber.write x)
  | .str s => Text.quoted s
  | .arr items => "[" ++ ", ".intercalate (shownItems items) ++ "]"
  | .obj members => "\x7b" ++ ", ".intercalate (shownMembers members) ++ "\x7d"

/-- The items of a list as messages quote them. -/
def shownItems : List Json → List String
  | [] => []
  | j :: js => j.shown :: shownItems js

/-- The members of an object as messages quote them. -/
def shownMembers : List (String × Json) → List String
  | [] => []
  | (key, j) :: ms => (Text.quoted key ++ ": " ++ j.shown) :: shownMembers ms

end

/-- A value as plain text: a text stands for itself. -/
def plain : Json → String
  | .str s => s
  | j => j.shown

end JsxTagger.Json
