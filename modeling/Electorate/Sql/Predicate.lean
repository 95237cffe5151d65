import Electorate.Filter.Bracket
import Electorate.Geo.Circle
import Electorate.Number.Date
import Electorate.Sql.Column

/-!
# Conditions on voters

* `Predicate`: a condition on a row of the voter file, as SQL can test it.
* `Predicate.conj`, `Predicate.disj?`: conditions joined; a condition that always holds drops out
  of a conjunction.
* `Predicate.ofBracket`, `Predicate.ofAgeBucket`: membership in a bracket and in an age bucket.
-/

namespace Electorate.Sql

/-- How a number is compared. -/
inductive Comparison where
  | equal | atLeast | atMost | below
deriving DecidableEq, Repr

/-- A test of one number. -/
inductive NumberTest where
  | compare (c : Comparison) (bound : Number)
  | between (low high : Number)
deriving DecidableEq, Repr

/-- A column that holds a number. -/
inductive NumberColumn where
  | birthYear | score
deriving DecidableEq, Repr

/-- The column itself. -/
def NumberColumn.column : NumberColumn → Column
  | birthYear => .birthYear
  | score => .score

/-- A text that is compared: a column as it stands, or in upper case. -/
inductive TextTerm where
  | plain (c : TextColumn)
  | upper (c : TextColumn)
deriving DecidableEq, Repr

/-- A condition on a row of the voter file. -/
inductive Predicate where
  /-- Holds of every row. -/
  | always
  | equals (t : TextTerm) (value : String)
  | oneOf (t : TextTerm) (values : List String)
  | differs (c : TextColumn) (value : String)
  /-- The text matches a pattern in which percent sign and underscore are wild. -/
  | like (t : TextTerm) (pattern : String)
  /-- The column holds more than spaces. -/
  | notBlank (c : TextColumn)
  | number (c : NumberColumn) (test : NumberTest)
  /-- Some census record of the voter's tract passes all tests. -/
  | inTract (stat : CensusStat) (tests : List NumberTest)
  | isNull (c : Column)
  | isNotNull (c : Column)
  | votedBefore (day : Date)
  /-- Some voting event has this value in this field. -/
  | eventHas (field value : String)
  /-- The voter took part in an election of one of these years. -/
  | votedInYears (years : List Int)
  | moved (m : DistrictMove)
  /-- The voter's point lies in a box. -/
  | inBox (box : Geo.Box Float)
  /-- The voter's point is at most so many meters from a point. -/
  | near (longitude latitude meters : Float)
  | not (p : Predicate)
  | and (p q : Predicate)
  | or (p q : Predicate)

namespace Predicate

/-- Both conditions, one of them alone if the other always holds. -/
def both : Predicate → Predicate → Predicate
  | always, q => q
  | p, always => p
  | p, q => and p q

/-- All conditions of a list. -/
def conj : List Predicate → Predicate
  | [] => always
  | p :: ps => ps.foldl both p

/-- At least one condition of a list; `none` for the empty list. -/
def disj? : List Predicate → Option Predicate
  | [] => none
  | p :: ps => some (ps.foldl or p)

/-- Equal to one of several texts. -/
def matchText (t : TextTerm) : List String → Predicate
  | [value] => equals t value
  | values => oneOf t values

end Predicate

/-- The tests, to be passed together, that decide whether a number lies in a bracket. -/
def bracketTests (b : NumericBracket) : List NumberTest :=
  match b.maximum with
  | none => [.compare .atLeast b.minimum]
  | some top =>
    if b.closed then
      if b.minimum.same top then [.compare .equal b.minimum] else [.between b.minimum top]
    else [.compare .atLeast b.minimum, .compare .below top]

/-- Membership of a column's number in a bracket. -/
def Predicate.ofBracket (c : NumberColumn) (b : NumericBracket) : Predicate :=
  .conj ((bracketTests b).map (.number c))

/-- A birth year from the bucket's ages in a given year. -/
def Predicate.ofAgeBucket (b : AgeBucket) (year : Int) : Predicate :=
  let latest := Predicate.number .birthYear (.compare .atMost (.int (b.latestBirthYear year)))
  match b.earliestBirthYear year with
  | none => latest
  | some earliest => .and latest (.number .birthYear (.compare .atLeast (.int earliest)))

end Electorate.Sql
