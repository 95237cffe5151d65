import Electorate.Number.Exact
import Electorate.Text.Blank
import Electorate.Text.Case

/-!
# Brackets

Named ranges that a filter selects by key or by display label.

* `NumericBracket`: a range of numbers, with `contains` and `isNamedBy`.
* `scoreRanges`, `incomeBrackets`, `educationBrackets`, `unemploymentBrackets`: the tables.
* `AgeBucket`, `ageBuckets`: age ranges, with the birth years they mean in a given year.
* `raceStoreValue`: the value that the voter file keeps for a race label.
-/

namespace Electorate

/-- A named range of numbers from `minimum` to `maximum`. Without a maximum it has no upper end.
The maximum belongs to a closed range only. -/
structure NumericBracket where
  /-- The value that a request sends. -/
  key : String
  /-- The name that is displayed. -/
  label : String
  /-- The smallest number of the range. -/
  minimum : Number
  /-- The upper end of the range. -/
  maximum : Option Number
  /-- Whether the maximum belongs to the range. -/
  closed : Bool
deriving DecidableEq, Repr

namespace NumericBracket

/-- Whether a value names the bracket, by key or label, without regard to case and to blanks
around it. -/
def isNamedBy (b : NumericBracket) (value : String) : Bool :=
  let folded := Text.fold (Text.strip value)
  folded == Text.fold b.key || folded == Text.fold b.label

/-- Whether a number lies in the range. -/
def contains (b : NumericBracket) (x : Number) : Bool :=
  if x.lt b.minimum then false
  else
    match b.maximum with
    | none => true
    | some top => if b.closed then x.le top else x.lt top

end NumericBracket

/-- The first bracket of a table that a value names. -/
def findBracket? (table : List NumericBracket) (value : String) : Option NumericBracket :=
  table.find? (·.isNamedBy value)

/-- Tenths as a number with a fractional part. -/
def tenths (n : Int) : Number := .real ((n : Rat) / 10)

/-- A closed range of participation scores, given in tenths. -/
def scoreRange (key label : String) (low high : Int) : NumericBracket :=
  ⟨key, label, tenths low, some (tenths high), true⟩

/-- A range of whole numbers without its upper end. -/
def halfOpen (key label : String) (low high : Int) : NumericBracket :=
  ⟨key, label, .int low, some (.int high), false⟩

/-- Participation scores. The last range is the single score 10. -/
def scoreRanges : List NumericBracket := [
  scoreRange "needs_attention" "Needs Attention" 10 29,
  scoreRange "needs_review" "Needs Review" 30 49,
  scoreRange "participates" "Participates" 50 64,
  scoreRange "power_voter" "Power Voter" 65 99,
  scoreRange "super_power_voter" "Super Power Voter" 100 100]

/-- Median household incomes of a census tract, in dollars. -/
def incomeBrackets : List NumericBracket := [
  halfOpen "under_25k" "Under $25,000" 0 25000,
  halfOpen "25k_50k" "$25,000 - $50,000" 25000 50000,
  halfOpen "50k_75k" "$50,000 - $75,000" 50000 75000,
  halfOpen "75k_100k" "$75,000 - $100,000" 75000 100000,
  halfOpen "100k_150k" "$100,000 - $150,000" 100000 150000,
  halfOpen "150k_200k" "$150,000 - $200,000" 150000 200000,
  halfOpen "200k_300k" "$200,000 - $300,000" 200000 300000,
  ⟨"over_300k", "Over $300,000", .int 300000, none, false⟩]

/-- Shares of adults with a bachelor's degree or higher in a census tract, in percent. -/
def educationBrackets : List NumericBracket := [
  halfOpen "very_low_education" "Very Low (0-20%)" 0 20,
  halfOpen "low_education" "Low (20-35%)" 20 35,
  halfOpen "moderate_education" "Moderate (35-50%)" 35 50,
  halfOpen "high_education" "High (50-65%)" 50 65,
  halfOpen "very_high_education" "Very High (65-80%)" 65 80,
  halfOpen "extremely_high_education" "Extremely High (80-100%)" 80 100]

/-- Unemployment rates of a census tract, in percent. -/
def unemploymentBrackets : List NumericBracket := [
  halfOpen "very_low_unemployment" "Very Low (0-2%)" 0 2,
  halfOpen "low_unemployment" "Low (2-4%)" 2 4,
  halfOpen "moderate_unemployment" "Moderate (4-6%)" 4 6,
  halfOpen "above_avg_unemployment" "Above Average (6-8%)" 6 8,
  halfOpen "high_unemployment" "High (8-10%)" 8 10,
  halfOpen "very_high_unemployment" "Very High (10-15%)" 10 15,
  halfOpen "extremely_high_unemployment" "Extremely High (15%+)" 15 100]

/-- A named range of ages, both ends included. Without a maximum it has no upper end. -/
structure AgeBucket where
  /-- The value that a request sends. -/
  key : String
  /-- The youngest age. -/
  minAge : Int
  /-- The oldest age. -/
  maxAge : Option Int
deriving DecidableEq, Repr

namespace AgeBucket

/-- The latest birth year of the bucket in a given year. -/
def latestBirthYear (b : AgeBucket) (year : Int) : Int := year - b.minAge

/-- The earliest birth year of the bucket in a given year, if it has an oldest age. -/
def earliestBirthYear (b : AgeBucket) (year : Int) : Option Int := b.maxAge.map (year - ·)

end AgeBucket

/-- The ages that a filter can select. -/
def ageBuckets : List AgeBucket := [
  ⟨"18-23", 18, some 23⟩, ⟨"25-44", 25, some 44⟩, ⟨"45-64", 45, some 64⟩, ⟨"65-74", 65, some 74⟩,
  ⟨"75+", 75, none⟩]

/-- The age bucket of a key, blanks around it dropped. -/
def findAgeBucket? (value : String) : Option AgeBucket :=
  ageBuckets.find? (·.key == Text.strip value)

/-- The races whose label differs from the value that the voter file keeps. -/
def storedRaces : List (String × String) :=
  [("HISPANIC", "HISPANIC/LATINO"), ("ASIAN", "ASIAN/PACIFIC ISLANDER")]

/-- The value, in upper case, that the voter file keeps for a race label. -/
def raceStoreValue (value : String) : String :=
  let label := Text.upper (Text.strip value)
  (storedRaces.lookup label).getD label

end Electorate
