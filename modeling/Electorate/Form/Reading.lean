import Electorate.Form.Fault
import Electorate.Number.Integer
import Electorate.Number.Real

/-!
# Reading the fields of a form

* `readWhole`: a whole number in ASCII digits. White space around it, a plus sign, leading zeros,
  single underscores and a fractional part of zeros are passed over.
* `readNumber`: a decimal number, an infinity or the word for no number, in ASCII.
* `above`, `atLeast`, `atMost`: bounds on what was read.
-/

namespace Electorate.Form

open Electorate.Text

/-- White space around a field: a blank other than the four information separators. -/
def isSpace (c : Char) : Bool := isBlank c && !(0x1c ≤ c.toNat && c.toNat ≤ 0x1f)

/-- A field without the white space around it. -/
def trimSpace (cs : List Char) : List Char :=
  ((cs.dropWhile isSpace).reverse.dropWhile isSpace).reverse

/-- A digit from 0 to 9. -/
def isPlainDigit (c : Char) : Bool := '0' ≤ c && c ≤ '9'

/-- What is left behind a zero or underscore `last`: zeros and underscores in front of another digit
are passed over, and the last of them stays where a point or the end follows. Anything else behind
a zero is refused. -/
def afterZero (last : Char) : List Char → Option (List Char)
  | [] => some [last]
  | c :: rest =>
    if c = '0' ∨ c = '_' then afterZero c rest
    else if c = '.' then some (last :: c :: rest)
    else if isPlainDigit c then some (c :: rest)
    else none

/-- A numeral without its leading zeros. A text that starts with neither a digit nor a minus sign
is refused. -/
def dropLeadingZeros : List Char → Option (List Char)
  | '0' :: rest => afterZero '0' rest
  | '-' :: rest => some ('-' :: rest)
  | c :: rest => if isPlainDigit c then some (c :: rest) else none
  | [] => none

/-- A fractional part of zeros alone is dropped. -/
def dropZeroPlaces (cs : List Char) : List Char :=
  if (cs.dropWhile (· != '.')).drop 1 |>.all (· == '0') then cs.takeWhile (· != '.') else cs

/-- Two underscores side by side. -/
def hasDoubleUnderscore : List Char → Bool
  | '_' :: '_' :: _ => true
  | _ :: rest => hasDoubleUnderscore rest
  | [] => false

/-- The text without its underscores, if it has some, none at an end and no two side by side. -/
def dropUnderscores? (cs : List Char) : Option (List Char) :=
  if cs.head? = some '_' ∨ cs.getLast? = some '_' ∨ hasDoubleUnderscore cs ∨ '_' ∉ cs then none
  else some (cs.filter (· != '_'))

/-- The numeral inside a field, if one can be there. -/
def cleanWhole (cs : List Char) : Option (List Char) :=
  let body :=
    match trimSpace cs with
    | '+' :: '-' :: _ => none
    | '+' :: rest => some rest
    | rest => some rest
  (body.bind dropLeadingZeros).map fun cs =>
    let cs := dropZeroPlaces cs
    (dropUnderscores? cs).getD cs

/-- The value of a numeral without leading zeros. -/
def readNumeral : List Char → Except FieldFault Nat
  | [] => .error .wholeSyntax
  | c :: rest =>
    if !(c :: rest).all isPlainDigit || (c == '0' && !rest.isEmpty) then .error .wholeSyntax
    else if Number.maxIntegerDigits < rest.length + 1 then .error .wholeSize
    else .ok (digitsValue (c :: rest))

/-- The whole number in a field. -/
def readWhole (s : String) : Except FieldFault Int :=
  match cleanWhole s.toList with
  | none => .error .wholeSyntax
  | some ('-' :: rest) => (readNumeral rest).map fun n => -(n : Int)
  | some cs => (readNumeral cs).map fun n => (n : Int)

/-- A number without white space and underscores, in ASCII. -/
def readPlainNumber (cs : List Char) : Option Float :=
  if cs.all fun c => 0x20 < c.toNat && c.toNat < 0x7f && c != '_' then
    (Number.readReal (String.ofList cs)).toOption
  else none

/-- The number in a field. -/
def readNumber (s : String) : Except FieldFault Float :=
  match readPlainNumber (trimSpace s.toList) with
  | some x => .ok x
  | none =>
    match (dropUnderscores? s.toList).bind readPlainNumber with
    | some x => .ok x
    | none => .error .realSyntax

/-- Refuses a number that is not above a bound. -/
def above (bound : Int) (n : Int) : Except FieldFault Int :=
  if bound < n then .ok n else .error .notAbove

/-- Refuses a number below a bound. -/
def atLeast (bound : Int) (n : Int) : Except FieldFault Int :=
  if bound ≤ n then .ok n else .error .notAtLeast

/-- Refuses a number beyond a bound. -/
def atMost (bound : Int) (n : Int) : Except FieldFault Int :=
  if n ≤ bound then .ok n else .error .notAtMost

end Electorate.Form
