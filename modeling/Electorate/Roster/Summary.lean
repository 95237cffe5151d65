import Electorate.Form.Checked
import Electorate.Form.Day
import Electorate.Store.Cell
import Electorate.Text.Split

/-!
# Voter summaries

* `VoterSummary`: what a list shows of a voter.
* `VoterSummary.ofRow`: a summary from a row, with all faults of the row.
* `VoterSummary.residenceAddress`: the address on one line.
-/

namespace Electorate.Roster

open Electorate.Form (Checked)
open Electorate.Sql (Column TextColumn)
open Electorate.Store
open Electorate.Text (joinWith)

/-- What a list shows of a voter. -/
structure VoterSummary where
  /-- The identifier: 32 hexadecimal digits in five groups. -/
  id : String
  registrationNumber : String
  countyName : String
  status : String
  lastName : String
  firstName : String
  middleName : Option String
  birthYear : Option Int
  gender : Option String
  race : Option String
  /-- The parts of the residence address. -/
  residence : AddressPart → Option String
  score : Option Float
  lastVoteDate : Option Date

/-- Whether a character is a hexadecimal digit. -/
def isHexDigit (c : Char) : Bool :=
  ('0' ≤ c && c ≤ '9') || ('a' ≤ c && c ≤ 'f') || ('A' ≤ c && c ≤ 'F')

/-- Thirty-two hexadecimal digits in groups of 8, 4, 4, 4 and 12, in lower case. -/
def groupedId (digits : List Char) : String :=
  let cs := digits.map Char.toLower
  joinWith "-" <| [cs.take 8, (cs.drop 8).take 4, (cs.drop 12).take 4, (cs.drop 16).take 4,
    cs.drop 20].map String.ofList

/-- The digits of an identifier that is written in groups with hyphens between them. -/
def hyphenatedId (cs : List Char) : Option (List Char) :=
  let groups := Text.splitChars '-' cs
  if groups.map List.length = [8, 4, 4, 4, 12] ∧ groups.all (·.all isHexDigit) then
    some groups.flatten
  else none

/-- The digits of an identifier: alone, in groups, in groups between braces, or in groups behind
a scheme. -/
def idDigits (cs : List Char) : Option (List Char) :=
  if cs.length = 32 ∧ cs.all isHexDigit then some cs
  else
    match cs with
    | '\x7b' :: rest => if rest.getLast? = some '\x7d' then hyphenatedId rest.dropLast else none
    | 'u' :: 'r' :: 'n' :: ':' :: 'u' :: 'u' :: 'i' :: 'd' :: ':' :: rest => hyphenatedId rest
    | _ => hyphenatedId cs

/-- A cell as an identifier. -/
def readId : Cell → Except FieldFault String
  | .text s =>
    match idDigits s.toList with
    | some digits => .ok (groupedId digits)
    | none => .error .idSyntax
  | _ => .error .idType

/-- A cell as a day. -/
def readDate : Cell → Except FieldFault Date
  | .date d => .ok d
  | .text s => Form.readDay s
  | .int n => Form.dayOfNumber (.int n)
  | .float x => Form.dayOfNumber (Cell.exactly x)
  | .decimal n => Form.dayOfNumber n
  | .null | .bool _ => .error .dateType

namespace VoterSummary

/-- The cells of an address, checked in the order of the parts. -/
def residenceOfRow (row : VoterRow) : Checked (AddressPart → Option String) :=
  let read (p : AddressPart) : Except FieldFault (Option String) :=
    Cell.optional Cell.formText (row.cell (.text (.residence p)))
  match AddressPart.all.flatMap fun p =>
      (Checked.field [(Column.text (.residence p)).name] (read p)).errors with
  | [] => .value fun p => (row.cell (.text (.residence p))).formText.toOption
  | errors => .faults errors

/-- The summary of a voter's row. -/
def ofRow (row : VoterRow) : Checked VoterSummary :=
  let required (c : TextColumn) := Checked.field [c.name] (row.cell (.text c)).formText
  let optional (c : TextColumn) :=
    Checked.field [c.name] (Cell.optional Cell.formText (row.cell (.text c)))
  mk <$> Checked.field [Column.id.name] (readId (row.cell .id)) <*>
    required .registrationNumber <*> required .countyName <*> required .status <*>
    required .lastName <*> required .firstName <*> optional .middleName <*>
    Checked.field [Column.birthYear.name]
      (Cell.optional Cell.formWhole (row.cell .birthYear)) <*>
    optional .gender <*> optional .race <*> residenceOfRow row <*>
    Checked.field [Column.score.name] (Cell.optional Cell.formNumber (row.cell .score)) <*>
    Checked.field [Column.lastVoteDate.name] (Cell.optional readDate (row.cell .lastVoteDate))

/-- The parts that are there and not empty. -/
def presentParts (v : VoterSummary) (parts : List AddressPart) : List String :=
  (parts.filterMap v.residence).filter (· != "")

/-- The residence address on one line: the street, the unit, the city and the zip code. -/
def residenceAddress (v : VoterSummary) : String :=
  let street := joinWith " " (v.presentParts
    [.streetNumber, .preDirection, .streetName, .streetType, .postDirection])
  let withUnit :=
    match v.presentParts [.aptUnitNumber] with
    | unit :: _ => street ++ " APT " ++ unit
    | [] => street
  match v.presentParts [.city, .zipcode] with
  | [] => withUnit
  | place => withUnit ++ ", " ++ joinWith ", " place

end VoterSummary

end Electorate.Roster
