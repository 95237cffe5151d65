import Electorate.Sql.Predicate
import Electorate.Sql.Text

/-!
# Conditions as SQL text

* `Predicate.pieces`: the text of a condition. A disjunction inside a conjunction is put between
  brackets; a containment or box test is bracketed inside every other condition.
* `Predicate.render`: text and values; the condition that always holds has no text.
* `LabelCase`: labels chosen by conditions.
-/

namespace Electorate.Sql

/-- The table of voters. -/
def voterTable : String := "voter_registrations"

/-- Where a condition stands inside others. -/
inductive Place where
  /-- It is the whole condition. -/
  | top
  /-- It is a part of a conjunction. -/
  | inAnd
  /-- It is a part of a disjunction or of a negation. -/
  | inOr
deriving DecidableEq, Repr

/-- A column of the table or alias `table`. -/
def columnText (table : String) (c : Column) : String := table ++ "." ++ c.name

/-- A compared text. -/
def TextTerm.text (table : String) : TextTerm → String
  | plain c => columnText table (.text c)
  | upper c => "upper(" ++ columnText table (.text c) ++ ")"

/-- The sign of a comparison. -/
def Comparison.sign : Comparison → String
  | equal => " = "
  | atLeast => " >= "
  | atMost => " <= "
  | below => " < "

/-- A number compared with a birth year. -/
def birthYearBound : Number → Bound
  | .int n => .integer n
  | n => ⟨.number n, .float⟩

/-- A number compared with a participation score. -/
def scoreBound : Number → Bound
  | .int n => .sized n
  | n => ⟨.number n, .score⟩

/-- A number compared with a census figure. -/
def censusBound : Number → Bound
  | .int n => .sized n
  | n => ⟨.number n, .float⟩

/-- A number compared with a column. -/
def NumberColumn.bound : NumberColumn → Number → Bound
  | birthYear => birthYearBound
  | score => scoreBound

/-- A test of the number in a column. -/
def NumberTest.pieces (column : String) (bound : Number → Bound) : NumberTest → List Piece
  | compare c n => [.words (column ++ c.sign), .slot (bound n)]
  | between low high =>
    [.words (column ++ " BETWEEN "), .slot (bound low), .words " AND ", .slot (bound high)]

/-- Tests joined by `AND`. -/
def testsPieces (column : String) (bound : Number → Bound) : List NumberTest → List Piece
  | [] => []
  | [t] => t.pieces column bound
  | t :: u :: rest =>
    t.pieces column bound ++ .words " AND " :: testsPieces column bound (u :: rest)

/-- Placeholders with commas between them, numbered with the text around them. -/
def slotsBetweenCommas : List Bound → List Piece
  | [] => []
  | [b] => [.slot b]
  | b :: c :: rest => .slot b :: .words ", " :: slotsBetweenCommas (c :: rest)

/-- The identifier of the coordinate system of longitudes and latitudes. -/
def srid : Int := 4326

/-- A point column or point as a place on the globe. -/
def geography (words : List Piece) : List Piece :=
  .words "CAST(" :: words ++ [.words " AS geography(GEOMETRY,4326))"]

/-- Pieces between brackets. -/
def bracketed (pieces : List Piece) : List Piece := .words "(" :: pieces ++ [.words ")"]

/-- Pieces between brackets unless they are the whole condition. -/
def bracketedInside (place : Place) (pieces : List Piece) : List Piece :=
  if place = .top then pieces else bracketed pieces

namespace Predicate

/-- The text of a condition on the table or alias `table`. -/
def pieces (table : String) : Place → Predicate → List Piece
  | _, always => [.words "true"]
  | _, equals t value => [.words (t.text table ++ " = "), .slot (.text value)]
  | _, oneOf t values =>
    [.words (t.text table ++ " IN ("), .list (values.map Bound.text), .words ")"]
  | _, differs c value => [.words (columnText table (.text c) ++ " != "), .slot (.text value)]
  | _, like t pattern =>
    [.words (t.text table ++ " LIKE "), .slot (.text pattern), .words " ESCAPE '\\\\'"]
  | _, notBlank c =>
    [.words ("trim(" ++ columnText table (.text c) ++ ") != "), .slot (.text "")]
  | _, number c test => test.pieces (columnText table c.column) c.bound
  | _, inTract stat tests =>
    .words (columnText table (.text .censusTract) ++
        " IN (SELECT census_tracts.tract_id \nFROM census_tracts \nWHERE ") ::
      testsPieces ("census_tracts." ++ stat.name) censusBound tests ++ [.words ")"]
  | _, isNull c => [.words (columnText table c ++ " IS NULL")]
  | _, isNotNull c => [.words (columnText table c ++ " IS NOT NULL")]
  | _, votedBefore day =>
    [.words (columnText table .lastVoteDate ++ " < "), .slot ⟨.date day, .date⟩]
  | place, eventHas field value =>
    bracketedInside place
      [.words (columnText table .votingEvents ++ " @> "), .slot ⟨.event field value, .jsonb⟩]
  | _, votedInYears years =>
    .words (columnText table .electionYears ++ " && CAST(ARRAY[") ::
      slotsBetweenCommas (years.map Bound.sized) ++ [.words "] AS INTEGER[])"]
  | _, moved m => [.words (columnText table (.moved m) ++ " IS true")]
  | place, inBox box =>
    bracketedInside place <|
      .words (columnText table .geom ++ " && ST_MakeEnvelope(") ::
        slotsBetweenCommas [.float box.xmin, .float box.ymin, .float box.xmax, .float box.ymax,
          .sized srid] ++ [.words ")"]
  | _, near longitude latitude meters =>
    .words "ST_DWithin(" :: geography [.words (columnText table .geom)] ++ .words ", " ::
      geography
        [.words "ST_SetSRID(ST_MakePoint(", .slot (.float longitude), .words ", ",
          .slot (.float latitude), .words "), ", .slot (.sized srid), .words ")"] ++
      [.words ", ", .slot (.float meters), .words ")"]
  | _, not p => .words "NOT (" :: p.pieces table .inOr ++ [.words ")"]
  | _, and p q => p.pieces table .inAnd ++ .words " AND " :: q.pieces table .inAnd
  | place, or p q =>
    let both := p.pieces table .inOr ++ .words " OR " :: q.pieces table .inOr
    if place = .inAnd then bracketed both else both

/-- The text and the values of a condition; the one that always holds has neither. -/
def render (table : String) : Predicate → Rendered
  | always => ⟨"", []⟩
  | p => assemble (p.pieces table .top)

end Predicate

/-- The name by which the columns of the voter table are called. -/
def tableName : Option String → String
  | none => voterTable
  | some name => identifier name

/-- Labels, each with the condition under which it is given. The first condition that holds
counts; a row under none of them has no label. -/
structure LabelCase where
  branches : List (Predicate × String)

/-- The text of a label choice. -/
def LabelCase.pieces (table : String) (c : LabelCase) : List Piece :=
  .words "CASE" :: c.branches.flatMap (fun (p, label) =>
    .words " WHEN (" :: p.pieces table .top ++ [.words ") THEN ", .slot (.text label)]) ++
    [.words " END"]

/-- Voters labelled with the key of their age bucket in a given year. -/
def ageCase (year : Int) : LabelCase :=
  ⟨ageBuckets.map fun b => (Predicate.ofAgeBucket b year, b.key)⟩

/-- Voters labelled with the label of their participation score range. -/
def scoreCase : LabelCase :=
  ⟨scoreRanges.map fun b => (Predicate.ofBracket .score b, b.label)⟩

end Electorate.Sql
