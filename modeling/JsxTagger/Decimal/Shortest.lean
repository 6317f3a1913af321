import JsxTagger.Decimal.Digits
import JsxTagger.Decimal.Double

/-!
# Shortest decimal form

The decimal with the fewest digits that reads back as a given double, and among those the one
nearest to it. All reals of an interval around a double round to it; for one digit, two digits and
so on, the two multiples of the digit's power of ten next to the double are tried, and the first
that lies in the interval wins.
-/

namespace JsxTagger.Decimal

/-- A positive decimal `digits * 10 ^ exponent`. -/
structure Scientific where
  /-- The digits as a whole number. -/
  digits : Nat
  /-- The power of ten. -/
  exponent : Int
deriving DecidableEq, Repr, Inhabited

/-- A non-negative quotient of natural numbers. -/
structure Ratio where
  /-- The numerator. -/
  num : Nat
  /-- The denominator. -/
  den : Nat

namespace Ratio

/-- `n * base ^ e` as a quotient. -/
def scale (n : Nat) (base : Nat) (e : Int) : Ratio :=
  if 0 ≤ e then ⟨n * Nat.pow base e.toNat, 1⟩ else ⟨n, Nat.pow base (-e).toNat⟩

/-- Whether one quotient is less than another. -/
def lt (a b : Ratio) : Bool := a.num * b.den < b.num * a.den

/-- Whether one quotient is at most another. -/
def le (a b : Ratio) : Bool := a.num * b.den ≤ b.num * a.den

/-- The distance between two quotients. -/
def distance (a b : Ratio) : Ratio :=
  let x := a.num * b.den
  let y := b.num * a.den
  ⟨(x - y) + (y - x), a.den * b.den⟩

end Ratio

/-- The reals that round to a double with the given significand and exponent, as lower and upper
bound. The bounds belong to the interval if the significand is even. -/
def roundingInterval (m : Nat) (e : Int) : Ratio × Ratio :=
  -- in quarters of a unit, since below a power of two the next double is half as far
  let down := if m == Nat.pow 2 (Double.precision - 1) && Double.minExponent < e then 1 else 2
  (Ratio.scale (4 * m - down) 2 (e - 2), Ratio.scale (4 * m + 2) 2 (e - 2))

/-- The power of ten of a positive quotient's leading digit. `fuel` bounds the powers tried. -/
def leadingExponent (v : Ratio) : Int :=
  if v.den ≤ v.num then ((digits (v.num / v.den)).length : Int) - 1
  else search 400 1
where
  /-- The first negative power of ten that is at most the quotient. -/
  search : Nat → Nat → Int
    | 0, k => -(k : Int)
    | fuel + 1, k => if v.den ≤ v.num * Nat.pow 10 k then -(k : Int) else search fuel (k + 1)

/-- The multiple of `10 ^ k` nearest to `v` among its two neighbours, if one of them is in the
interval. -/
def neighbour? (v lo hi : Ratio) (closed : Bool) (k : Int) : Option Nat :=
  let below :=
    if 0 ≤ k then v.num / (v.den * Nat.pow 10 k.toNat)
    else v.num * Nat.pow 10 (-k).toNat / v.den
  let inside (d : Nat) : Bool :=
    let x := Ratio.scale d 10 k
    if closed then lo.le x && x.le hi else lo.lt x && x.lt hi
  let nearer :=
    (Ratio.distance v (.scale below 10 k)).le (Ratio.distance v (.scale (below + 1) 10 k))
  match inside below && below != 0, inside (below + 1) with
  | true, true => some (if nearer then below else below + 1)
  | true, false => some below
  | false, true => some (below + 1)
  | false, false => none

/-- Drops the zeros at the end of the digits. -/
def Scientific.trim : Nat → Scientific → Scientific
  | 0, d => d
  | fuel + 1, d => if d.digits % 10 == 0 then trim fuel ⟨d.digits / 10, d.exponent + 1⟩ else d

/-- The shortest decimal that reads back as `m * 2 ^ e`. -/
def shortest (m : Nat) (e : Int) : Scientific :=
  let v := Ratio.scale m 2 e
  let (lo, hi) := roundingInterval m e
  let top := leadingExponent v
  let try_ (count : Nat) : Option Scientific :=
    let k := top + 1 - (count : Int)
    (neighbour? v lo hi (m % 2 == 0) k).map (⟨·, k⟩)
  let found := ((List.range 17).map (· + 1)).findSome? try_
  (found.getD ⟨m, e⟩).trim 400

/-- Where a decimal text changes from places to powers, and how it is written. -/
structure NumberFormat where
  /-- Numbers of at least this power of ten are written with an exponent. -/
  upper : Int
  /-- Numbers below this power of ten are written with an exponent. -/
  lower : Int
  /-- The text of positive infinity. -/
  infinity : String
  /-- The text of what is no number. -/
  notANumber : String

/-- The text of a positive decimal. -/
def NumberFormat.positive (f : NumberFormat) (d : Scientific) : List Char :=
  let ds := Decimal.digits d.digits
  let point : Int := ds.length + d.exponent
  if point - 1 < f.lower || f.upper ≤ point - 1 then
    let power := point - 1
    let fraction := if ds.length == 1 then [] else '.' :: ds.drop 1
    let sign := if power < 0 then '-' else '+'
    let size := Decimal.digits power.natAbs
    ds.take 1 ++ fraction ++ 'e' :: sign :: (if size.length == 1 then '0' :: size else size)
  else if point ≤ 0 then '0' :: '.' :: List.replicate (-point).toNat '0' ++ ds
  else
    let whole := point.toNat
    if ds.length ≤ whole then ds ++ List.replicate (whole - ds.length) '0' ++ ['.', '0']
    else ds.take whole ++ '.' :: ds.drop whole

/-- The text of a double. -/
def NumberFormat.write (f : NumberFormat) : Double → List Char
  | .nan => f.notANumber.toList
  | .infinite negative => (if negative then ['-'] else []) ++ f.infinity.toList
  | .finite negative m e =>
    (if negative then ['-'] else []) ++
      (if m == 0 then ['0', '.', '0'] else f.positive (shortest m e))

end JsxTagger.Decimal
