import Electorate.Form.Reading
import Electorate.Number.Date
import Electorate.Number.Exact
import Electorate.Sql.Column

/-!
# Cells and rows of an answer

* `Cell`: a value in a row that the store returns.
* `Cell.readInteger`, `Cell.readFloat`: a cell as a number, fractions cut off and texts read.
* `Cell.orZero`: an empty cell, a zero and an empty text all count as zero.
* `Cell.formWhole`, `Cell.formNumber`: a cell as a field of a response, where nothing is cut off.
* `VoterRow`: a row of the voter file.
-/

namespace Electorate.Store

/-- A value in a row. -/
inductive Cell where
  | null
  | bool (b : Bool)
  | int (n : Int)
  | float (x : Float)
  | decimal (n : Number)
  | text (s : String)
  | date (d : Date)

instance : Inhabited Cell := ⟨.null⟩

/-- Why a cell or row cannot be read. -/
inductive CellError where
  | integerText (e : Number.IntegerError)
  | realText (e : Number.RealError)
  /-- No integer can be made of what is not a number. -/
  | integerOfNaN (inDecimal : Bool)
  /-- No integer can be made of an infinity. -/
  | integerOfInfinity (inDecimal : Bool)
  /-- A value of this kind is no integer. -/
  | integerOfKind (kind : String)
  /-- A value of this kind is no real number. -/
  | realOfKind (kind : String)
  /-- The integer is beyond the range of doubles. -/
  | realTooLarge
  /-- The quotient of two integers is beyond the range of doubles. -/
  | quotientTooLarge
  /-- A row has fewer cells than the two it should have. -/
  | shortRow (cells : Nat)
  /-- A row has more cells than the two it should have. -/
  | longRow
  /-- A row has no cell at the place that is read. -/
  | noCell
  /-- A number that has no place in a response. -/
  | notSendable
deriving DecidableEq, Repr

namespace CellError

/-- The wording of a fault. -/
def message : CellError → String
  | integerText e => e.message
  | realText e => e.message
  | integerOfNaN false => "cannot convert float NaN to integer"
  | integerOfNaN true => "cannot convert NaN to integer"
  | integerOfInfinity false => "cannot convert float infinity to integer"
  | integerOfInfinity true => "cannot convert Infinity to integer"
  | integerOfKind kind =>
    "int() argument must be a string, a bytes-like object or a real number, not " ++
      Text.quoted kind
  | realOfKind kind =>
    "float() argument must be a string or a real number, not " ++ Text.quoted kind
  | realTooLarge => "int too large to convert to float"
  | quotientTooLarge => "integer division result too large for a float"
  | shortRow cells => s!"not enough values to unpack (expected 2, got {cells})"
  | longRow => "too many values to unpack (expected 2)"
  | noCell => "tuple index out of range"
  | notSendable => "Out of range float values are not JSON compliant"

/-- Whether the fault lies in the value and not in its kind or size. -/
def ofValue : CellError → Bool
  | integerText _ | realText _ | integerOfNaN _ | shortRow _ | longRow | notSendable => true
  | _ => false

end CellError

/-- The integral part of a rational number. -/
def integralPart (q : Rat) : Int := Int.tdiv q.num q.den

/-- An integer as a double, refused beyond the range of doubles. -/
def floatOfInteger (n : Int) : Except CellError Float :=
  let x := Number.nearestFloat (n < 0) n.natAbs 1
  if x.isInf then .error .realTooLarge else .ok x

namespace Cell

/-- The integral part of a number. -/
def integralOf (inDecimal : Bool) : Number → Except CellError Int
  | .int n => .ok n
  | .real q => .ok (integralPart q)
  | .infinite _ => .error (.integerOfInfinity inDecimal)
  | .nan => .error (.integerOfNaN inDecimal)

/-- A double exactly. -/
def exactly (x : Float) : Number :=
  match Number.Binary.ofFloat? x with
  | none => if x.isNaN then .nan else .infinite (x < 0.0)
  | some b =>
    let q : Rat := (b.num : Rat) / (b.den : Rat)
    .real (if b.negative then -q else q)

/-- A cell as an integer, a fraction cut off and a text read. -/
def readInteger : Cell → Except CellError Int
  | null => .error (.integerOfKind "NoneType")
  | bool b => .ok (if b then 1 else 0)
  | int n => .ok n
  | float x => integralOf false (exactly x)
  | decimal n => integralOf true n
  | text s => (Number.readInteger s).mapError .integerText
  | date _ => .error (.integerOfKind "datetime.date")

/-- A cell as a double, a text read. -/
def readFloat : Cell → Except CellError Float
  | null => .error (.realOfKind "NoneType")
  | bool b => .ok (if b then 1.0 else 0.0)
  | int n => floatOfInteger n
  | float x => .ok x
  | decimal n => .ok n.toFloat
  | text s => (Number.readReal s).mapError .realText
  | date _ => .error (.realOfKind "datetime.date")

/-- Whether a cell holds nothing: no value, zero, or an empty text. -/
def isVoid : Cell → Bool
  | null => true
  | bool b => !b
  | int n => n == 0
  | float x => x == 0.0
  | decimal n => n.same (.int 0)
  | text s => s.isEmpty
  | date _ => false

/-- A cell as an integer, zero where it holds nothing. -/
def orZero (c : Cell) : Except CellError Int := if c.isVoid then .ok 0 else c.readInteger

/-- A text, empty where the cell holds none. -/
def orEmpty : Cell → String
  | text s => s
  | _ => ""

/-- The doubles between which a whole double is taken as an integer. -/
def wholeRange : Float := 9223372036854775808.0

/-- A cell as a whole-number field. -/
def formWhole : Cell → Except FieldFault Int
  | bool b => .ok (if b then 1 else 0)
  | int n => .ok n
  | text s => Form.readWhole s
  | float x =>
    match exactly x with
    | .real q =>
      if q.den ≠ 1 then .error .notWhole
      else if -wholeRange < x ∧ x < wholeRange then .ok q.num
      else .error .wholeSize
    | _ => .error .notFinite
  | decimal (.int n) => .ok n
  | decimal (.real q) => if q.den = 1 then .ok q.num else .error .notWhole
  | decimal _ => .error .notFinite
  | null | date _ => .error .wholeType

/-- A cell as a number field. -/
def formNumber : Cell → Except FieldFault Float
  | text s => Form.readNumber s
  | null | date _ => .error .realType
  | c => c.readFloat.mapError fun _ => .realType

/-- A cell as a text field. -/
def formText : Cell → Except FieldFault String
  | text s => .ok s
  | _ => .error .textType

/-- A field that may be empty. -/
def optional (read : Cell → Except FieldFault α) : Cell → Except FieldFault (Option α)
  | null => .ok none
  | c => (read c).map some

end Cell

/-- A row of an answer. -/
abbrev Row := List Cell

/-- A row of the voter file. -/
structure VoterRow where
  /-- The cell in each column. -/
  cell : Sql.Column → Cell

end Electorate.Store
