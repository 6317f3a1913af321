/-!
# Decimal and hexadecimal digits

Writing natural numbers digit by digit and reading them back.
-/

namespace JsxTagger.Decimal

/-- The digit with the given value; letters stand for ten and more. -/
def digitChar (d : Nat) : Char :=
  if d < 10 then Char.ofNat (0x30 + d) else Char.ofNat (0x57 + d)

/-- The value of a decimal digit. -/
def digitValue (c : Char) : Nat := c.toNat - 0x30

/-- Whether a character is a decimal digit. -/
def isDigit (c : Char) : Bool := '0' ≤ c && c ≤ '9'

/-- The decimal digits of a number, without leading zeros. -/
def digits (n : Nat) : List Char :=
  if n < 10 then [digitChar n] else digits (n / 10) ++ [digitChar (n % 10)]
termination_by n
decreasing_by omega

/-- The number that decimal digits stand for. -/
def ofDigits (cs : List Char) : Nat := cs.foldl (fun n c => 10 * n + digitValue c) 0

/-- The greatest number of digits of an integer that is read or written. -/
def maxDigits : Nat := 4300

/-- Exactly `width` hexadecimal digits of a number, the lowest ones. -/
def hexDigits : Nat → Nat → List Char
  | 0, _ => []
  | width + 1, n => hexDigits width (n / 16) ++ [digitChar (n % 16)]

/-- The value of a hexadecimal digit. -/
def hexValue? (c : Char) : Option Nat :=
  if '0' ≤ c && c ≤ '9' then some (c.toNat - 0x30)
  else if 'a' ≤ c && c ≤ 'f' then some (c.toNat - 0x57)
  else if 'A' ≤ c && c ≤ 'F' then some (c.toNat - 0x37)
  else none

/-- The number that hexadecimal digits stand for. -/
def ofHexDigits? (cs : List Char) : Option Nat :=
  cs.foldlM (fun n c => (hexValue? c).map (16 * n + ·)) 0

/-- The decimal form of an integer. -/
def ofInt : Int → List Char
  | .ofNat n => digits n
  | .negSucc n => '-' :: digits (n + 1)

end JsxTagger.Decimal
