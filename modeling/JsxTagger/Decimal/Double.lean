/-!
# Double-precision numbers

A double is kept as what it is: a sign, a whole significand and a power of two. All arithmetic on it
is exact arithmetic on whole numbers. `Double.ofRatio` rounds a quotient to the nearest double, a
tie to the even significand.
-/

namespace JsxTagger.Decimal

/-- A double-precision number. -/
inductive Double where
  | nan
  | infinite (negative : Bool)
  /-- The number `significand * 2 ^ exponent`, negated if `negative`. -/
  | finite (negative : Bool) (significand : Nat) (exponent : Int)
deriving DecidableEq, Repr, Inhabited

namespace Double

/-- The number of binary digits of a significand. -/
def precision : Nat := 53

/-- The least exponent of a double. -/
def minExponent : Int := -1074

/-- The greatest exponent of a double. -/
def maxExponent : Int := 971

/-- Whether a number is zero. -/
def isZero : Double → Bool
  | .finite _ m _ => m == 0
  | _ => false

/-- Whether a number equals a natural number. -/
def isNat (x : Double) (n : Nat) : Bool :=
  match x with
  | .finite negative m e =>
    if m == 0 then n == 0
    else if negative then false
    else if 0 ≤ e then m * Nat.pow 2 e.toNat == n
    else m == n * Nat.pow 2 (-e).toNat
  | _ => false

/-- The whole number that a number equals. -/
def toInt? (x : Double) : Option Int :=
  match x with
  | .finite negative m e =>
    let sign (n : Nat) : Int := if negative then -n else n
    if 0 ≤ e then some (sign (m * Nat.pow 2 e.toNat))
    else if m % Nat.pow 2 (-e).toNat = 0 then some (sign (m / Nat.pow 2 (-e).toNat))
    else none
  | _ => none

/-- The quotient rounded to the nearest whole number, a tie to the even one. -/
def roundDiv (num den : Nat) : Nat :=
  let q := num / den
  let r := num % den
  if 2 * r < den then q
  else if den < 2 * r then q + 1
  else if q % 2 == 0 then q else q + 1

/-- The quotient `num / den` at a given binary exponent, as numerator and denominator. -/
private def scaled (num den : Nat) (e : Int) : Nat × Nat :=
  if 0 ≤ e then (num, den * Nat.pow 2 e.toNat) else (num * Nat.pow 2 (-e).toNat, den)

/-- The double nearest to the quotient of two natural numbers. -/
def ofRatio (negative : Bool) (num den : Nat) : Double :=
  if num = 0 || den = 0 then .finite negative 0 0
  else
    -- an exponent at which the quotient has about the right number of binary digits
    let guess : Int := (Nat.log2 num : Int) - (Nat.log2 den : Int) - (precision : Int)
    let fits (e : Int) : Bool :=
      let (a, b) := scaled num den e
      a / b < Nat.pow 2 precision
    let e := if fits guess then guess else if fits (guess + 1) then guess + 1 else guess + 2
    let e := max e minExponent
    let (a, b) := scaled num den e
    let m := roundDiv a b
    let (m, e) := if m == Nat.pow 2 precision then (m / 2, e + 1) else (m, e)
    if m = 0 then .finite negative 0 0
    else if maxExponent < e then .infinite negative
    else .finite negative m e

/-- The double nearest to `digits * 10 ^ exponent`. -/
def ofDecimal (negative : Bool) (digits : Nat) (exponent : Int) : Double :=
  if digits = 0 then .finite negative 0 0
  else if 0 ≤ exponent then
    -- far beyond the greatest double no power has to be computed
    if 400 < exponent then .infinite negative
    else ofRatio negative (digits * Nat.pow 10 exponent.toNat) 1
  else if exponent < -(400 + (Nat.log2 digits : Int)) then .finite negative 0 0
  else ofRatio negative digits (Nat.pow 10 (-exponent).toNat)

end Double

end JsxTagger.Decimal
