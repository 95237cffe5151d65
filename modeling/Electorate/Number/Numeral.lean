import Electorate.Number.Decimal

/-!
# Written forms of floating point numbers

* `NumeralStyle`: the choices of a layout: from which power of ten on a number is
  written with an exponent, and whether a whole number keeps one decimal place.
* `messageStyle`: shortest digits, positional from 10 ^ -4 up to below 10 ^ 16, whole numbers end
  in `.0`, exponents have a sign and at least two digits.
-/

namespace Electorate.Number

/-- How a decimal is laid out. -/
structure NumeralStyle where
  /-- Leading powers of ten below this are written with an exponent. -/
  smallest : Int
  /-- Leading powers of ten from this on are written with an exponent. -/
  largest : Int
  /-- Whether a positional whole number ends in `.0`. -/
  keepsPoint : Bool
deriving DecidableEq, Repr

/-- The layout of floating point numbers in messages and in keys. -/
def messageStyle : NumeralStyle := ⟨-4, 16, true⟩

/-- The digits of a natural number. -/
def natDigits (n : Nat) : List Char := Nat.toDigits 10 n

/-- A decimal exponent with its sign and at least two digits. -/
def exponentText (e : Int) : List Char :=
  let digits := natDigits e.natAbs
  let padded := if digits.length < 2 then '0' :: digits else digits
  'e' :: (if e < 0 then '-' else '+') :: padded

/-- The written form of a decimal without its sign. -/
def Decimal.magnitudeText (style : NumeralStyle) (d : Decimal) : List Char :=
  let digits := natDigits d.digits
  let lead := d.leading
  let whole := if style.keepsPoint then ['.', '0'] else []
  if d.digits = 0 then '0' :: whole
  else if lead < style.smallest ∨ style.largest ≤ lead then
    match digits with
    | [] => []
    | [c] => c :: exponentText lead
    | c :: rest => c :: '.' :: rest ++ exponentText lead
  else if 0 ≤ d.exponent then digits ++ List.replicate d.exponent.toNat '0' ++ whole
  else if 0 ≤ lead then
    let places := (-d.exponent).toNat
    digits.take (digits.length - places) ++ '.' :: digits.drop (digits.length - places)
  else '0' :: '.' :: List.replicate (-lead - 1).toNat '0' ++ digits

/-- The written form of a decimal. -/
def Decimal.text (style : NumeralStyle) (d : Decimal) : String :=
  let body := d.magnitudeText style
  String.ofList (if d.negative then '-' :: body else body)

/-- The written form of a double in messages: the fewest digits that read back. -/
def floatText (x : Float) : String :=
  match Binary.ofFloat? x with
  | some b => b.shortest.text messageStyle
  | none => if x.isNaN then "nan" else if x < 0.0 then "-inf" else "inf"

end Electorate.Number
