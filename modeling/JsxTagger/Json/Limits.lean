import JsxTagger.Failure.Fault
import JsxTagger.Json.Value

/-!
# Limits of going through a value

To write a value, or to show it in a message, is to go through its parts in order: every list and
every object takes a call inside the call of what holds it, and so does every value without parts.
That ends at the first part for which no call is left, or at the first integer with more than
`Decimal.maxDigits` digits, whichever comes first (`Json.obstacle?`).
-/

namespace JsxTagger.Json

open Decimal

/-! ## Depth -/

mutual

/-- How many calls inside each other it takes to go through a value. -/
def depth : Json → Nat
  | .arr items => depthItems items + 1
  | .obj members => depthMembers members + 1
  | _ => 1

/-- The greatest depth of several values. -/
def depthItems : List Json → Nat
  | [] => 0
  | j :: js => max j.depth (depthItems js)

/-- The greatest depth of the members of an object. -/
def depthMembers : List (String × Json) → Nat
  | [] => 0
  | (_, j) :: ms => max j.depth (depthMembers ms)

end

/-! ## Digits -/

mutual

/-- Whether none of the integers of a value has more than `Decimal.maxDigits` digits. -/
def isWritable : Json → Bool
  | .int n => (digits n.natAbs).length ≤ maxDigits
  | .arr items => areWritable items
  | .obj members => membersWritable members
  | _ => true

/-- Whether several values have no integers of more digits. -/
def areWritable : List Json → Bool
  | [] => true
  | j :: js => j.isWritable && areWritable js

/-- Whether the members of an object have no integers of more digits. -/
def membersWritable : List (String × Json) → Bool
  | [] => true
  | (_, j) :: ms => j.isWritable && membersWritable ms

end

/-- The fault of an integer with too many digits. -/
def longInteger : Fault where
  kind := .badValue
  text := s!"Exceeds the limit ({maxDigits} digits) for integer string conversion; " ++
    "use sys.set_int_max_str_digits() to increase the limit"

/-! ## Both -/

mutual

/-- What comes first of all that keeps a value from being gone through, where `room` calls are left. -/
def obstacle? (room : Nat) (j : Json) : Option Fault :=
  match room, j with
  | 0, _ => some .tooDeep
  | _ + 1, .int n => if maxDigits < (digits n.natAbs).length then some longInteger else none
  | room + 1, .arr items => obstacleItems? room items
  | room + 1, .obj members => obstacleMembers? room members
  | _ + 1, _ => none

/-- What keeps several values from being gone through. -/
def obstacleItems? (room : Nat) : List Json → Option Fault
  | [] => none
  | j :: js => (j.obstacle? room).or (obstacleItems? room js)

/-- What keeps the members of an object from being gone through. -/
def obstacleMembers? (room : Nat) : List (String × Json) → Option Fault
  | [] => none
  | (_, j) :: ms => (j.obstacle? room).or (obstacleMembers? room ms)

end

end JsxTagger.Json
