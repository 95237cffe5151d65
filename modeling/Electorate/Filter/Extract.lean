import Electorate.Filter.Address
import Electorate.Filter.Error
import Electorate.Filter.Spec
import Electorate.Text.Case

/-!
# Filters from request parameters

* `registrationNumber`: accepts one to twenty ASCII letters and digits, blanks around them dropped.
* `normalizeValue`: the form in which a value is selected, `none` if it selects nothing.
* `FilterSpec.ofParams`: the specification of named values in order of arrival. Every name is
  checked, repeated values of a name are kept once.
* `RawParams`, `FilterSpec.ofRaw`: the same for a mapping of names to one value or several.
-/

namespace Electorate

/-- A letter or digit of ASCII. -/
def isAsciiAlphanumeric (c : Char) : Bool := c.isAlphanum

/-- A registration number without the blanks around it. -/
def registrationNumber (value : String) : Except FilterError String :=
  let id := Text.strip value
  if 1 ≤ id.length ∧ id.length ≤ 20 ∧ id.toList.all isAsciiAlphanumeric then .ok id
  else .error (.badRegistrationNumber value)

/-- The form in which a value is selected under a name. Blank values and addresses without a part
select nothing. Values of dimensions kept in upper case are raised to it if `raiseCase` is set. -/
def normalizeValue (name value : String) (raiseCase : Bool) :
    Except FilterError (Option String) :=
  let stripped := Text.strip value
  if stripped.isEmpty then .ok none
  else
    match Dimension.ofName? name with
    | some .residentAddress =>
      .ok <| (ResidentAddress.ofParam? value).bind fun address =>
        if address.isEmpty then none else some address.toParam
    | some .exactId => (registrationNumber stripped).map some
    | some d => .ok (some (if d.foldsCase && raiseCase then Text.upper stripped else stripped))
    | none => .ok (some stripped)

namespace FilterSpec

/-- Selects one more value under a name unless it is selected already. -/
def select (spec : FilterSpec) (name value : String) : FilterSpec :=
  if ((spec.get? name).getD []).contains value then spec else spec.add name [value]

/-- Adds one parameter to a specification. -/
def addParam (allowed ignored : List String) (raiseCase : Bool) (spec : FilterSpec)
    (param : String × String) : Except FilterError FilterSpec :=
  let (name, value) := param
  if ignored.contains name then .ok spec
  else if !allowed.contains name then .error (.unknownKey name allowed)
  else
    match normalizeValue name value raiseCase with
    | .error e => .error e
    | .ok none => .ok spec
    | .ok (some v) => .ok (spec.select name v)

/-- The specification of parameters in order of arrival. Names in `ignored` are options of the
request; the first other name that is not in `allowed` is refused. -/
def ofParams (params : List (String × String)) (allowed ignored : List String)
    (raiseCase : Bool) : Except FilterError FilterSpec :=
  params.foldlM (addParam allowed ignored raiseCase) empty

end FilterSpec

/-- What a mapping of parameters gives under a name. -/
inductive GivenValues where
  | one (value : String)
  | several (values : List String)
deriving DecidableEq, Repr

/-- The values that are given, in order. -/
def GivenValues.toList : GivenValues → List String
  | one value => [value]
  | several values => values

/-- Parameters in the forms in which they are given. -/
inductive RawParams where
  /-- Names with one value each, in order of arrival. -/
  | pairs (params : List (String × String))
  /-- A mapping of names to what is given under them. -/
  | mapping (entries : List (String × GivenValues))
deriving DecidableEq, Repr

namespace RawParams

/-- The entries of a mapping as names with one value each. -/
def flatten : List (String × GivenValues) → List (String × String)
  | [] => []
  | (name, .one value) :: rest => (name, value) :: flatten rest
  | (name, .several values) :: rest => values.map (name, ·) ++ flatten rest

/-- The parameters in order of arrival. -/
def inOrder : RawParams → List (String × String)
  | pairs params => params
  | mapping entries => flatten entries

end RawParams

/-- The specification of parameters in one of their forms. -/
def FilterSpec.ofRaw (raw : RawParams) (allowed ignored : List String) (raiseCase : Bool) :
    Except FilterError FilterSpec :=
  ofParams raw.inOrder allowed ignored raiseCase

end Electorate
