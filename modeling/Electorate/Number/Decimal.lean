/-!
# Doubles and decimals

Exact arithmetic between binary floating point numbers and decimal numerals.

* `Binary.ofFloat?`: a finite double as `mantissa * 2 ^ exponent`.
* `Decimal`: `digits * 10 ^ exponent`.
* `shortest`: the decimal with the fewest digits that reads back as the given double; of two such
  decimals with equally many digits the nearer one.
* `significant`: the nearest decimal with a given number of digits, a tie going to an even digit.
* `nearestFloat`, `Decimal.toFloat`: the double nearest to a quotient and to a decimal, a tie
  going to the even mantissa.
-/

namespace Electorate.Number

/-- A power of two. -/
def twoTo (k : Nat) : Nat := Nat.pow 2 k

/-- A power of ten. -/
def tenTo (k : Nat) : Nat := Nat.pow 10 k

/-- A finite double: its sign and the magnitude `mantissa * 2 ^ exponent`. -/
structure Binary where
  /-- Whether the sign bit is set. -/
  negative : Bool
  /-- The integral significand. -/
  mantissa : Nat
  /-- The power of two that scales it. -/
  exponent : Int
deriving DecidableEq, Repr

namespace Binary

/-- The parts of a finite double, `none` for infinities and for what is not a number. -/
def ofFloat? (x : Float) : Option Binary :=
  let bits : Nat := x.toBits.toNat
  let negative := bits / twoTo 63 == 1
  let biased : Nat := bits / twoTo 52 % twoTo 11
  let fraction : Nat := bits % twoTo 52
  if biased = 2047 then none
  else if biased = 0 then some ⟨negative, fraction, -1074⟩
  else some ⟨negative, fraction + twoTo 52, (biased : Int) - 1075⟩

/-- Numerator of the magnitude. -/
def num (b : Binary) : Nat := b.mantissa * twoTo b.exponent.toNat

/-- Denominator of the magnitude. -/
def den (b : Binary) : Nat := twoTo (-b.exponent).toNat

end Binary

/-- The magnitude `digits * 10 ^ exponent` with a sign. -/
structure Decimal where
  /-- Whether the numeral has a minus sign. -/
  negative : Bool
  /-- The significant digits as one number. -/
  digits : Nat
  /-- The power of ten that scales them. -/
  exponent : Int
deriving DecidableEq, Repr

/-- The greatest `e` with `10 ^ e ≤ num / den`, for positive arguments. -/
def floorLog10 (num den : Nat) : Int :=
  if den ≤ num then ((Nat.toDigits 10 (num / den)).length : Int) - 1
  else
    let inverse := den / num
    let places := (Nat.toDigits 10 inverse).length
    if inverse * num = den ∧ inverse = tenTo (places - 1) then 1 - (places : Int)
    else -(places : Int)

/-- Numerator and denominator of `num / den / 10 ^ e`. -/
def scaleDown (num den : Nat) (e : Int) : Nat × Nat :=
  (num * tenTo (-e).toNat, den * tenTo e.toNat)

/-- Rounds a quotient to the nearest natural number, a tie to the even one. -/
def roundHalfEven (num den : Nat) : Nat :=
  let q := num / den
  let twice := 2 * (num % den)
  if twice < den then q else if den < twice then q + 1 else if q % 2 = 0 then q else q + 1

/-- The double with the given sign nearest to `num / den`, a tie going to the even mantissa. -/
def nearestFloat (negative : Bool) (num den : Nat) : Float :=
  let scale : Int := max (-1074) ((num.log2 : Int) - den.log2 - 53)
  let round (e : Int) : Nat :=
    roundHalfEven (num * twoTo (-e).toNat) (den * twoTo e.toNat)
  -- The quotient at `scale` has 53 or 54 digits; one more step leaves 53 at most.
  let e := if round scale ≤ twoTo 53 then scale else scale + 1
  let mantissa := round e
  let (mantissa, e) := if mantissa = twoTo 53 then (twoTo 52, e + 1) else (mantissa, e)
  let bits : Nat :=
    if den = 0 ∨ 971 < e then 2047 * twoTo 52
    else if mantissa < twoTo 52 then mantissa
    else (e + 1075).toNat * twoTo 52 + (mantissa - twoTo 52)
  Float.ofBits (UInt64.ofNat (if negative then twoTo 63 + bits else bits))

namespace Decimal

/-- The same value without trailing zeros among its digits. -/
def trimZeros (d : Decimal) : Nat → Decimal
  | 0 => d
  | fuel + 1 =>
    if d.digits % 10 = 0 ∧ d.digits ≠ 0 then
      trimZeros ⟨d.negative, d.digits / 10, d.exponent + 1⟩ fuel
    else d

/-- The power of ten of the leading digit. -/
def leading (d : Decimal) : Int := d.exponent + ((Nat.toDigits 10 d.digits).length : Int) - 1

/-- The double nearest to the decimal. Decimals beyond the range of doubles are not expanded. -/
def toFloat (d : Decimal) : Float :=
  if d.digits = 0 ∨ d.leading < -330 then nearestFloat d.negative 0 1
  else if 310 < d.leading then nearestFloat d.negative 1 0
  else
    nearestFloat d.negative (d.digits * tenTo d.exponent.toNat) (tenTo (-d.exponent).toNat)

end Decimal

/-- The nearest decimal with `count` digits, a tie going to an even last digit. -/
def Binary.significant (b : Binary) (count : Nat) : Decimal :=
  if b.mantissa = 0 then ⟨b.negative, 0, 0⟩
  else
    let e := floorLog10 b.num b.den - count + 1
    let (n, d) := scaleDown b.num b.den e
    Decimal.trimZeros ⟨b.negative, roundHalfEven n d, e⟩ (count + 1)

/-- Whether the natural number `k` times `10 ^ e` rounds to the double `b`: it lies between the
midpoints to the neighbouring doubles, the midpoints included if the mantissa is even. -/
def Binary.attracts (b : Binary) (k : Nat) (e : Int) : Bool :=
  -- All sides are multiplied by four times the denominators.
  let lowGap := if b.mantissa = twoTo 52 ∧ -1074 < b.exponent then 1 else 2
  let unit := twoTo b.exponent.toNat
  let value := 4 * k * tenTo e.toNat * b.den
  let scale := tenTo (-e).toNat
  let low := (4 * b.mantissa - lowGap) * unit * scale
  let high := (4 * b.mantissa + 2) * unit * scale
  if b.mantissa % 2 = 0 then low ≤ value && value ≤ high else low < value && value < high

/-- The decimals with fewest digits that round to `b`, tried from `count` digits on. -/
def Binary.shortestFrom (b : Binary) (count : Nat) : Nat → Decimal
  | 0 => b.significant 17
  | fuel + 1 =>
    let e := floorLog10 b.num b.den - count + 1
    let (n, d) := scaleDown b.num b.den e
    let below := n / d
    let nearest := roundHalfEven n d
    let other := if nearest = below then below + 1 else below
    if b.attracts nearest e then Decimal.trimZeros ⟨b.negative, nearest, e⟩ 20
    else if b.attracts other e then Decimal.trimZeros ⟨b.negative, other, e⟩ 20
    else shortestFrom b (count + 1) fuel

/-- The decimal with the fewest digits that reads back as the double. -/
def Binary.shortest (b : Binary) : Decimal :=
  if b.mantissa = 0 then ⟨b.negative, 0, 0⟩ else b.shortestFrom 1 17

end Electorate.Number
