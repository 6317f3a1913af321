import JsxTagger.Decimal.Double

/-!
# JSON values

The values that configuration files and structure documents are made of. Integers are unbounded and
apart from floating-point numbers: `1` and `1.0` are different values. The members of an object keep
their order.
-/

namespace JsxTagger

open Decimal (Double)

/-- A JSON value. -/
inductive Json where
  | null
  | bool (value : Bool)
  | int (value : Int)
  /-- A number written with a point or an exponent, or one of the special numbers. -/
  | float (value : Double)
  | str (value : String)
  | arr (items : List Json)
  | obj (members : List (String × Json))
deriving Inhabited

namespace Json

/-- The member of an object with the given key. Anything else has no members. -/
def get? : Json → String → Option Json
  | .obj members, key => members.lookup key
  | _, _ => none

/-- The member of an object with the given key, `null` if there is none. -/
def getD (j : Json) (key : String) : Json := (j.get? key).getD .null

/-- Whether a value is `null`. -/
def isNull : Json → Bool
  | .null => true
  | _ => false

/-- Whether a value counts as true: everything does but `null`, `false`, zero and what is empty. -/
def truthy : Json → Bool
  | .null => false
  | .bool b => b
  | .int n => n != 0
  | .float x => !x.isZero
  | .str s => !s.isEmpty
  | .arr items => !items.isEmpty
  | .obj members => !members.isEmpty

/-- Whether a value is the given text. -/
def isText (j : Json) (s : String) : Bool :=
  match j with
  | .str t => t == s
  | _ => false

/-- Whether a value is a number equal to the given natural number. Truth values count as 0 and 1. -/
def isNat (j : Json) (n : Nat) : Bool :=
  match j with
  | .int m => m == n
  | .bool b => n == if b then 1 else 0
  | .float x => x.isNat n
  | _ => false

/-- Whether a value can be looked up: lists and objects cannot. -/
def isKey : Json → Bool
  | .arr _ | .obj _ => false
  | _ => true

/-- The name of the type of a value in messages. -/
def typeName : Json → String
  | .null => "NoneType"
  | .bool _ => "bool"
  | .int _ => "int"
  | .float _ => "float"
  | .str _ => "str"
  | .arr _ => "list"
  | .obj _ => "dict"

/-- Replaces the member with the given key, or adds it at the end. -/
def setMember (members : List (String × Json)) (key : String) (value : Json) :
    List (String × Json) :=
  if members.any (·.1 == key) then members.map fun m => if m.1 == key then (key, value) else m
  else members ++ [(key, value)]

end Json

end JsxTagger
