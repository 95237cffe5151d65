import Electorate.Text.Quoted
import Electorate.Filter.Dimension

/-!
# Refused filters

* `FilterError`: why a filter or an option beside it is refused.
* `FilterError.message`, `FilterError.key?`, `FilterError.allowed`: what the caller is told.
-/

namespace Electorate

/-- Why a filter or an option beside it is refused. -/
inductive FilterError where
  /-- A parameter is neither a filter dimension nor an option. -/
  | unknownKey (key : String) (allowed : List String)
  /-- A registration number has a character or a length that none has. -/
  | badRegistrationNumber (value : String)
  /-- The selected values cross to more combinations than a chart takes. -/
  | tooManyCombinations (count : Nat) (limit : Int)
  /-- A series over time is asked for without a year. -/
  | noYears
  /-- Voters cannot be grouped by this name. -/
  | badGrouping (name : String) (allowed : List String)
  /-- Voters cannot be listed in the order of this name. -/
  | badSortField (name : String) (allowed : List String)
  /-- A direction other than up and down. -/
  | badSortDirection (name : String)
  /-- A field whose values are not listed. -/
  | badLookupField (name : String) (allowed : List String)
  /-- A viewport that is not four numbers. -/
  | malformedViewport (value : String)
  /-- A viewport that leaves the globe or whose corners are swapped. -/
  | viewportOutOfRange (value : String)
deriving DecidableEq, Repr

namespace FilterError

/-- Names in the order of their code points. -/
def sortNames (names : List String) : List String := names.mergeSort fun a b => decide (a ≤ b)

/-- The wording of the refusal. -/
def message : FilterError → String
  | unknownKey key _ => s!"Invalid filter key: {key}"
  | badRegistrationNumber value => s!"Invalid voter registration number: {Text.quoted value}"
  | tooManyCombinations count limit =>
    s!"Too many filter combinations ({count}); select at most {limit}"
  | noYears => "At least one election year is required"
  | badGrouping name _ => s!"Invalid groupBy: {name}"
  | badSortField name _ => s!"Invalid sortField: {name}"
  | badSortDirection name => s!"Invalid sortDirection: {name}"
  | badLookupField name _ => s!"Invalid lookup field: {name}"
  | malformedViewport value => s!"bbox must be 'xmin,ymin,xmax,ymax', got {Text.quoted value}"
  | viewportOutOfRange value => s!"bbox is out of range or inverted: {Text.quoted value}"

/-- The name of the refused parameter, if the refusal is about one. -/
def key? : FilterError → Option String
  | unknownKey key _ => some key
  | badRegistrationNumber _ => some Dimension.exactId.name
  | tooManyCombinations _ _ => none
  | noYears => some "years"
  | badGrouping _ _ => some "groupBy"
  | badSortField _ _ => some "sortField"
  | badSortDirection _ => some "sortDirection"
  | badLookupField name _ => some name
  | malformedViewport _ | viewportOutOfRange _ => some "bbox"

/-- The names that would have been accepted, in order. -/
def allowed : FilterError → List String
  | unknownKey _ names | badGrouping _ names | badSortField _ names | badLookupField _ names =>
    sortNames names
  | badSortDirection _ => ["asc", "desc"]
  | _ => []

end FilterError

end Electorate
