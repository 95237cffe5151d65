import Electorate.Text.Blank
import Electorate.Text.Split

/-!
# Residence addresses

* `ResidentAddress`: the eight parts of a residence address. A part that is missing is empty.
* `ofParam?`: reads the eight parts, separated by commas, blanks around each part dropped.
* `toParam`: writes them with commas between them.
-/

namespace Electorate

/-- The parts of a residence address. -/
inductive AddressPart where
  | streetNumber | preDirection | streetName | streetType | postDirection | aptUnitNumber
  | city | zipcode
deriving DecidableEq, Repr

namespace AddressPart

/-- The parts in the order in which an address lists them. -/
def all : List AddressPart :=
  [streetNumber, preDirection, streetName, streetType, postDirection, aptUnitNumber, city, zipcode]

/-- The name of a part. -/
def name : AddressPart → String
  | streetNumber => "street_number"
  | preDirection => "pre_direction"
  | streetName => "street_name"
  | streetType => "street_type"
  | postDirection => "post_direction"
  | aptUnitNumber => "apt_unit_number"
  | city => "city"
  | zipcode => "zipcode"

theorem mem_all (p : AddressPart) : p ∈ all := by cases p <;> decide

end AddressPart

/-- A residence address. -/
structure ResidentAddress where
  streetNumber : String := ""
  preDirection : String := ""
  streetName : String := ""
  streetType : String := ""
  postDirection : String := ""
  aptUnitNumber : String := ""
  city : String := ""
  zipcode : String := ""
deriving DecidableEq, Repr

namespace ResidentAddress

/-- The text of a part. -/
def part (a : ResidentAddress) : AddressPart → String
  | .streetNumber => a.streetNumber
  | .preDirection => a.preDirection
  | .streetName => a.streetName
  | .streetType => a.streetType
  | .postDirection => a.postDirection
  | .aptUnitNumber => a.aptUnitNumber
  | .city => a.city
  | .zipcode => a.zipcode

/-- The address with the given parts. -/
def ofParts (f : AddressPart → String) : ResidentAddress :=
  ⟨f .streetNumber, f .preDirection, f .streetName, f .streetType, f .postDirection,
    f .aptUnitNumber, f .city, f .zipcode⟩

/-- Reads an address from its eight parts, `none` if their number is another. -/
def ofParam? (s : String) : Option ResidentAddress :=
  match (Text.splitOn ',' s).map Text.strip with
  | [a, b, c, d, e, f, g, h] => some ⟨a, b, c, d, e, f, g, h⟩
  | _ => none

/-- The parts that are not empty, in order. -/
def presentParts (a : ResidentAddress) : List (AddressPart × String) :=
  (AddressPart.all.map fun p => (p, a.part p)).filter fun (_, s) => !s.isEmpty

/-- An address is empty if all its parts are. -/
def isEmpty (a : ResidentAddress) : Bool := AddressPart.all.all fun p => (a.part p).isEmpty

/-- The parts with commas between them. -/
def toParam (a : ResidentAddress) : String :=
  Text.joinWith "," (AddressPart.all.map a.part)

theorem part_ofParts (f : AddressPart → String) (p : AddressPart) : (ofParts f).part p = f p := by
  cases p <;> rfl

end ResidentAddress

end Electorate
