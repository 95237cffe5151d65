import Electorate.Text.Blank
import Electorate.Text.Digit
import Electorate.Text.Quoted

/-!
# Reading and writing integers

* `readInteger`: blanks around the number, a sign, decimal digits of any script and single
  underscores between digits are accepted; a number of more than 4300 digits is refused.
* `grouped`: an integer with a comma between groups of three digits.
-/

namespace Electorate.Number

open Electorate.Text

/-- Why a text is not read as an integer. -/
inductive IntegerError where
  /-- The text is no integer literal. -/
  | malformed (text : String)
  /-- The literal has more digits than are read. -/
  | tooLong (digits : Nat)
deriving DecidableEq, Repr

/-- The longest integer literal that is read. -/
def maxIntegerDigits : Nat := 4300

namespace IntegerError

/-- The wording of the refusal. -/
def message : IntegerError → String
  | malformed text => s!"invalid literal for int() with base 10: {quoted text}"
  | tooLong digits =>
    s!"Exceeds the limit ({maxIntegerDigits} digits) for integer string conversion: " ++
      s!"value has {digits} digits; use sys.set_int_max_str_digits() to increase the limit"

end IntegerError

/-- Removes single underscores that stand between two digits. `none` if another underscore or a
character that is no digit occurs, or if there is no digit at all. -/
def plainDigits : List Char → Option (List Char)
  | [] => none
  | [c] => if isDigit c then some [c] else none
  | c :: '_' :: rest => if isDigit c then (plainDigits rest).map (c :: ·) else none
  | c :: rest => if isDigit c then (plainDigits rest).map (c :: ·) else none

/-- A sign in front of a text, and what follows it. -/
def cutSign : List Char → Bool × List Char
  | '-' :: rest => (true, rest)
  | '+' :: rest => (false, rest)
  | rest => (false, rest)

/-- The integer that a text writes. -/
def readInteger (s : String) : Except IntegerError Int :=
  let (negative, body) := cutSign (trimBlanks s.toList)
  match plainDigits body with
  | none => .error (.malformed s)
  | some digits =>
    if maxIntegerDigits < digits.length then .error (.tooLong digits.length)
    else
      let magnitude : Int := digitsValue digits
      .ok (if negative then -magnitude else magnitude)

/-- The integer that a text writes, `none` if it writes none. -/
def readInteger? (s : String) : Option Int := (readInteger s).toOption

/-- Groups of three, counted from the end, of a list that is given in reverse. -/
def groupReversed : List Char → List Char
  | a :: b :: c :: d :: rest => a :: b :: c :: ',' :: groupReversed (d :: rest)
  | cs => cs

/-- An integer with a comma between groups of three digits. -/
def grouped (n : Int) : String :=
  let digits := String.ofList (groupReversed (Nat.toDigits 10 n.natAbs).reverse).reverse
  if n < 0 then "-" ++ digits else digits

end Electorate.Number
