import Electorate.Number.Integer
import Electorate.Number.Decimal

/-!
# Reading floating point numbers

* `readReal`: blanks around the number, a sign, decimal digits of any script with single
  underscores between digits, a point, an exponent; or the words `inf`, `infinity` and `nan` in
  any case. The result is the double nearest to the decimal that is written.
-/

namespace Electorate.Number

open Electorate.Text

/-- A text that writes no floating point number. -/
structure RealError where
  /-- The refused text. -/
  text : String
deriving DecidableEq, Repr

/-- The wording of the refusal. -/
def RealError.message (e : RealError) : String :=
  s!"could not convert string to float: {quoted e.text}"

/-- Removes the underscores that stand between two digits, `none` if one stands elsewhere. The
first argument tells whether the character before was a digit. -/
def dropUnderscores : Bool → List Char → Option (List Char)
  | _, [] => some []
  | afterDigit, '_' :: c :: rest =>
    if afterDigit && isDigit c then (dropUnderscores true rest).map (c :: ·) else none
  | _, ['_'] => none
  | _, c :: rest => (dropUnderscores (isDigit c) rest).map (c :: ·)

/-- The longest row of digits in front, and what follows it. -/
def cutDigits (cs : List Char) : List Char × List Char :=
  (cs.takeWhile isDigit, cs.dropWhile isDigit)

/-- An exponent part that takes the whole text: empty, or `e`, a sign and digits. -/
def readExponent : List Char → Option Int
  | [] => some 0
  | c :: rest =>
    if c = 'e' ∨ c = 'E' then
      let (negative, body) := cutSign rest
      match cutDigits body with
      | ([], _) => none
      | (digits, []) =>
        let n : Int := digitsValue digits
        some (if negative then -n else n)
      | (_, _ :: _) => none
    else none

/-- A number without sign as digits and a power of ten. -/
def readMagnitude (cs : List Char) : Option (Nat × Int) :=
  let (whole, rest) := cutDigits cs
  let (places, rest) :=
    match rest with
    | '.' :: more => cutDigits more
    | _ => ([], rest)
  if whole.isEmpty && places.isEmpty then none
  else (readExponent rest).map fun e => (digitsValue (whole ++ places), e - places.length)

/-- The double that a text writes. -/
def readReal (s : String) : Except RealError Float :=
  let (negative, body) := cutSign (trimBlanks s.toList)
  let word := String.ofList (body.map Char.toLower)
  let infinity : Float := 1.0 / 0.0
  if word = "inf" ∨ word = "infinity" then .ok (if negative then -infinity else infinity)
  else if word = "nan" then .ok (0.0 / 0.0)
  else
    match (dropUnderscores false body).bind readMagnitude with
    | none => .error ⟨s⟩
    | some (digits, exponent) => .ok (Decimal.toFloat ⟨negative, digits, exponent⟩)

end Electorate.Number
