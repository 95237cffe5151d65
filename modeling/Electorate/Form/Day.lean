import Electorate.Form.Reading
import Electorate.Number.Date
import Electorate.Number.Exact

/-!
# Days in form fields

A day is given as a date, as a moment at midnight, or as the number of seconds since the start of
1970 up to a midnight. Numbers beyond twenty thousand million count milliseconds.

* `readDay`: a day from a text.
* `dayOfNumber`: a day from a number.

A moment at another time of day is refused as inexact, whatever its time zone.
-/

namespace Electorate.Form

open Electorate.Text (digitsValue)

/-- The number that two digits write, if it is below a bound. -/
def pairBelow (bound : Nat) (a b : Char) : Option Nat :=
  if isPlainDigit a && isPlainDigit b && digitsValue [a, b] < bound then some (digitsValue [a, b])
  else none

/-- Whether a text is a time zone: nothing, the letter Z, or a sign with hours and minutes. -/
def isZone : List Char → Bool
  | [] => true
  | ['Z'] | ['z'] => true
  | [sign, a, b, ':', c, d] | [sign, a, b, c, d] =>
    ['+', '-', '\u2212'].contains sign && (pairBelow 24 a b).isSome && (pairBelow 60 c d).isSome
  | _ => false

/-- The fraction of a second with the time zone behind it: whether the fraction is zero in its
first six places. -/
def readFraction : List Char → Option Bool
  | c :: rest =>
    if c = '.' ∨ c = ',' then
      let places := rest.takeWhile isPlainDigit
      if places.isEmpty || !isZone (rest.dropWhile isPlainDigit) then none
      else some ((places.take 6).all (· == '0'))
    else if isZone (c :: rest) then some true else none
  | [] => some true

/-- Whether a time of day is midnight. Seconds, their fraction and the time zone may be left
out. -/
def readsMidnight : List Char → Option Bool
  | a :: b :: ':' :: c :: d :: rest => do
    let hours ← pairBelow 24 a b
    let minutes ← pairBelow 60 c d
    let whole := hours == 0 && minutes == 0
    match rest with
    | ':' :: e :: f :: rest => do
      let seconds ← pairBelow 60 e f
      return whole && seconds == 0 && (← readFraction rest)
    | ':' :: _ => none
    | rest => if isZone rest then some whole else none
  | _ => none

/-- A moment: its day and whether it is midnight. -/
def readMoment (s : String) : Option (Date × Bool) := do
  let day ← Date.ofText? (String.ofList (s.toList.take 10))
  match s.toList.drop 10 with
  | separator :: time =>
    if ['T', 't', ' ', '_'].contains separator then return (day, ← readsMidnight time) else none
  | [] => none

/-- Numbers beyond this count milliseconds. -/
def mostSeconds : Nat := 20000000000

/-- The seconds of the start of 1600. -/
def firstSecond : Int := -11676096000

/-- The last second of the year 9999. -/
def lastSecond : Int := 253402300799

/-- The number of seconds in a day. -/
def secondsPerDay : Int := 86400

/-- The day that starts a number of seconds after the start of 1970. -/
def dayOfSeconds (seconds : Int) (exact : Bool) : Except FieldFault Date :=
  if seconds < firstSecond ∨ lastSecond < seconds then .error .dateSyntax
  else if exact && seconds % secondsPerDay == 0 then
    .ok (Date.ofDay (Date.daysBefore 1970 + seconds / secondsPerDay))
  else .error .dateInexact

/-- The day that a number of seconds or milliseconds leads to, with a fraction behind it unless
`exact` is set. -/
def dayOfCount (n : Int) (exact : Bool) : Except FieldFault Date :=
  if n.natAbs ≤ mostSeconds then dayOfSeconds n exact
  else dayOfSeconds (n / 1000) (exact && n % 1000 == 0)

/-- The day that a number leads to. -/
def dayOfNumber : Number → Except FieldFault Date
  | .int n => dayOfCount n true
  | .real q => dayOfCount q.floor (q.den == 1)
  | .infinite _ | .nan => .error .dateSyntax

/-- The number that a text of digits writes, a sign before them and a point among them. -/
def readCount (s : String) : Option Number :=
  let (negative, body) := Number.cutSign s.toList
  let whole := body.takeWhile isPlainDigit
  let sign : Int := if negative then -1 else 1
  match whole, body.dropWhile isPlainDigit with
  | [], _ => none
  | whole, [] => some (.int (sign * digitsValue whole))
  | whole, '.' :: places =>
    if places.all isPlainDigit then
      let digits : Rat := sign * (digitsValue (whole ++ places) : Int)
      some (.real (digits / 10 ^ places.length))
    else none
  | _, _ => none

/-- A day from a text. -/
def readDay (s : String) : Except FieldFault Date :=
  match Date.ofText? s, readMoment s, readCount s with
  | some day, _, _ => .ok day
  | none, some (day, midnight), _ => if midnight then .ok day else .error .dateInexact
  | none, none, some n => dayOfNumber n
  | none, none, none => .error .dateSyntax

end Electorate.Form
