import Electorate.Number.Decimal

/-!
# Numbers that are compared exactly

* `Number`: an integer, a rational, an infinity, or no number at all.
* `Number.lt`, `Number.le`: order by value; what is not a number is in no relation.
* `Number.ofFloat`: the value a double stands for. Below `2 ^ 53` it is the shortest decimal that
  reads back as the double, from there on the double's own integral value. Both readings keep the
  order of the doubles, and integers are read as themselves.
* `Number.toFloat`: the nearest double.
-/

namespace Electorate

/-- A number as bounds and measurements use it. -/
inductive Number where
  /-- A whole number. -/
  | int (n : Int)
  /-- A number with a fractional part, written with a point even if the part is zero. -/
  | real (q : Rat)
  /-- Beyond all numbers, on the side that the sign tells. -/
  | infinite (negative : Bool)
  /-- Not a number. -/
  | nan
deriving DecidableEq, Repr

namespace Number

/-- Strictly smaller by value. -/
def lt : Number → Number → Bool
  | nan, _ | _, nan => false
  | infinite a, infinite b => a && !b
  | infinite a, _ => a
  | _, infinite b => !b
  | int m, int n => m < n
  | int m, real q => (m : Rat) < q
  | real p, int n => p < (n : Rat)
  | real p, real q => p < q

/-- Equal by value. -/
def same : Number → Number → Bool
  | nan, _ | _, nan => false
  | infinite a, infinite b => a == b
  | infinite _, _ | _, infinite _ => false
  | int m, int n => m == n
  | int m, real q => (m : Rat) == q
  | real p, int n => p == (n : Rat)
  | real p, real q => p == q

/-- Smaller or equal by value. -/
def le (a b : Number) : Bool := a.lt b || a.same b

/-- The value of a decimal. -/
def ofDecimal (d : Number.Decimal) : Rat :=
  let (n, m) := (d.digits * Number.tenTo d.exponent.toNat, Number.tenTo (-d.exponent).toNat)
  let q : Rat := (n : Rat) / (m : Rat)
  if d.negative then -q else q

/-- The number a double stands for. -/
def ofFloat (x : Float) : Number :=
  match Number.Binary.ofFloat? x with
  | none => if x.isNaN then nan else infinite (x < 0.0)
  | some b =>
    if b.exponent ≤ 0 then real (ofDecimal b.shortest)
    else
      let q : Rat := (b.num : Rat)
      real (if b.negative then -q else q)

/-- The nearest double. -/
def toFloat : Number → Float
  | int n => Number.nearestFloat (n < 0) n.natAbs 1
  | real q => Number.nearestFloat (q < 0) q.num.natAbs q.den
  | infinite negative => if negative then -1.0 / 0.0 else 1.0 / 0.0
  | nan => 0.0 / 0.0

end Number

end Electorate
