import Electorate.Json
import Electorate.Number.Date
import Electorate.Sql.Predicate
import Mathlib.Algebra.Order.Ring.Rat

/-!
# Voters as the database sees them

* `Voter`: a row of the voter file, every column of which may be empty.
* `CensusRecord`, `World`: what a condition reads beside the row. How the database writes upper
  case and how it tests places belongs to it and is not defined here: all statements hold for
  every such database.
* `Json.contains`: containment of JSON documents.
* `NumberTest.holds`: the tests of numbers. The tests of a bracket with rational ends are passed by
  the numbers that it contains (`bracketTests_hold_iff`).

Numbers are exact and have no bounds: a test is asked for its answer, not for the types that its
placeholders name. A cast to such a type would change none of the bounds that the tables have.
-/

namespace Electorate

/-- A point on the globe. -/
structure Place where
  longitude : Float
  latitude : Float

/-- A row of the voter file; `none` is an empty column. -/
structure Voter where
  text : Sql.TextColumn → Option String
  birthYear : Option Int
  score : Option Rat
  place : Option Place
  events : Option Json
  lastVote : Option Date
  /-- Years with elections that the voter took part in, perhaps repeated or empty. -/
  electionYears : Option (List (Option Int))
  moved : Sql.DistrictMove → Option Bool
deriving Inhabited

/-- The figures of a census tract in one survey. A tract has one record a survey. -/
structure CensusRecord where
  tract : String
  figure : Sql.CensusStat → Option Rat

/-- What a condition reads beside the row. -/
structure World where
  /-- Upper case as the database writes it. -/
  upper : String → String
  /-- Whether the box of a place meets a box. -/
  inBox : Geo.Box Float → Place → Bool
  /-- Whether a place is at most so many meters from a point. -/
  near : (longitude latitude meters : Float) → Place → Bool
  census : List CensusRecord
deriving Inhabited

namespace Json

/-- The value of a JSON number. -/
def number? : Json → Option Number
  | int n => some (.int n)
  | float x => some (.ofFloat x)
  | _ => none

/-- Whether two values without parts are equal. -/
def sameScalar : Json → Json → Bool
  | null, null => true
  | bool a, bool b => a == b
  | text a, text b => a == b
  | a, b =>
    match a.number?, b.number? with
    | some m, some n => m.same n
    | _, _ => false

mutual

/-- Whether a document contains another one: a list one whose items it contains in some of its own,
an object one whose members it contains in its members of the same names, and anything else its
equal alone. -/
def contains : Json → Json → Bool
  | whole, list parts =>
    match whole with
    | list items => containsItems items parts
    | _ => false
  | whole, object parts =>
    match whole with
    | object members => containsMembers members parts
    | _ => false
  | whole, part => whole.sameScalar part

/-- Whether every part is contained in some item. -/
def containsItems (items : List Json) : List Json → Bool
  | [] => true
  | part :: parts => items.any (fun item => contains item part) && containsItems items parts

/-- Whether every part is contained in the member of its name. -/
def containsMembers (members : List (String × Json)) : List (String × Json) → Bool
  | [] => true
  | (name, part) :: parts =>
    (members.lookup name).any (fun value => contains value part) && containsMembers members parts

end

/-- A document is a list of events, and one of them has the text in the field. -/
def HasEvent (events : Json) (field value : String) : Prop :=
  ∃ items, events = .list items ∧ ∃ members, Json.object members ∈ items ∧
    members.lookup field = some (.text value)

theorem sameScalar_text {whole : Json} {s : String} :
    whole.sameScalar (.text s) = true ↔ whole = .text s := by
  cases whole <;> simp [sameScalar, number?]

theorem contains_member {whole : Json} {field value : String} :
    whole.contains (.object [(field, .text value)]) = true ↔
      ∃ members, whole = .object members ∧ members.lookup field = some (.text value) := by
  cases whole <;> simp [contains, containsMembers, sameScalar_text, Option.any_eq_true]

/-- Containment of a list of one event with one field. -/
theorem contains_event {events : Json} {field value : String} :
    events.contains (.list [.object [(field, .text value)]]) = true ↔
      events.HasEvent field value := by
  cases events with
  | list items =>
    have h : (list items).contains (.list [.object [(field, .text value)]]) =
        items.any fun item => item.contains (.object [(field, .text value)]) := by
      simp only [contains, containsItems, Bool.and_true]
    simp only [h, List.any_eq_true, contains_member]
    constructor
    · rintro ⟨_, hi, members, rfl, hm⟩
      exact ⟨items, rfl, members, hi, hm⟩
    · rintro ⟨_, hl, members, hi, hm⟩
      cases hl
      exact ⟨_, hi, members, rfl, hm⟩
  | null | bool | int | float | text | object => simp [contains, HasEvent]

end Json

namespace Number

/-- Whether a number equals a bound. -/
def isBound (q : Rat) : Number → Bool
  | int n => q == (n : Rat)
  | real r => q == r
  | infinite _ | nan => false

/-- Whether a number lies below a bound. What is not a number sorts above all numbers. -/
def isBelow (q : Rat) : Number → Bool
  | int n => q < (n : Rat)
  | real r => q < r
  | infinite negative => !negative
  | nan => true

/-- The rational number that a number is. -/
def rational? : Number → Option Rat
  | int n => some n
  | real q => some q
  | infinite _ | nan => none

variable {m n : Number} {q r : Rat}

theorem isBound_iff (h : n.rational? = some r) : n.isBound q = true ↔ q = r := by
  cases n <;> cases h <;> simp [isBound]

theorem isBelow_iff (h : n.rational? = some r) : n.isBelow q = true ↔ q < r := by
  cases n <;> cases h <;> simp [isBelow]

theorem lt_iff (h : n.rational? = some r) : (real q).lt n = true ↔ q < r := by
  cases n <;> cases h <;> simp [lt]

theorem same_iff (hm : m.rational? = some q) (hn : n.rational? = some r) :
    m.same n = true ↔ q = r := by
  cases m <;> cases hm <;> cases n <;> cases hn <;> simp [same]

theorem le_iff (h : n.rational? = some r) : (real q).le n = true ↔ q ≤ r := by
  rw [le, Bool.or_eq_true, lt_iff h, same_iff rfl h, le_iff_lt_or_eq]

end Number

/-- Whether the ends of a bracket are rational. -/
def NumericBracket.isRational (b : NumericBracket) : Bool :=
  b.minimum.rational?.isSome && b.maximum.all fun top => top.rational?.isSome

/-- Whether a birth year means an age in the bucket. -/
def AgeBucket.Covers (b : AgeBucket) (year born : Int) : Prop :=
  born ≤ year - b.minAge ∧ ∀ oldest, b.maxAge = some oldest → year - oldest ≤ born

namespace Sql

/-- Whether a number stands in a relation to a bound. -/
def Comparison.holds (q : Rat) (bound : Number) : Comparison → Bool
  | equal => bound.isBound q
  | atLeast => !bound.isBelow q
  | atMost => bound.isBelow q || bound.isBound q
  | below => bound.isBelow q

/-- Whether a number passes a test. -/
def NumberTest.holds (q : Rat) : NumberTest → Bool
  | compare c bound => c.holds q bound
  | between low high => Comparison.holds q low .atLeast && Comparison.holds q high .atMost

/-- A number stands in a relation to a bound as it does to the value of the bound. -/
theorem Comparison.holds_iff {bound : Number} {q r : Rat} (h : bound.rational? = some r)
    (c : Comparison) : c.holds q bound = true ↔
      match c with
      | equal => q = r
      | atLeast => r ≤ q
      | atMost => q ≤ r
      | below => q < r := by
  have hbelow : bound.isBelow q = true ↔ q < r := Number.isBelow_iff h
  cases c with
  | equal => exact Number.isBound_iff h
  | below => exact hbelow
  | atLeast =>
    show (!bound.isBelow q) = true ↔ r ≤ q
    rw [Bool.not_eq_true', Bool.eq_false_iff, ne_eq, hbelow, not_lt]
  | atMost =>
    show (bound.isBelow q || bound.isBound q) = true ↔ q ≤ r
    rw [Bool.or_eq_true, hbelow, Number.isBound_iff h, le_iff_lt_or_eq]

theorem NumberTest.holds_between {low high : Number} {q r s : Rat} (hlow : low.rational? = some r)
    (hhigh : high.rational? = some s) :
    (between low high).holds q = true ↔ r ≤ q ∧ q ≤ s := by
  show (Comparison.holds q low .atLeast && Comparison.holds q high .atMost) = true ↔ _
  rw [Bool.and_eq_true, Comparison.holds_iff hlow, Comparison.holds_iff hhigh]

/-- The tests of a bracket are passed by the numbers that it contains. -/
theorem bracketTests_hold_iff {b : NumericBracket} (hb : b.isRational = true) (q : Rat) :
    (∀ t ∈ bracketTests b, t.holds q = true) ↔ b.contains (.real q) = true := by
  simp only [NumericBracket.isRational, Bool.and_eq_true, Option.isSome_iff_exists] at hb
  obtain ⟨⟨low, hlow⟩, hmax⟩ := hb
  have hlower : (NumberTest.compare .atLeast b.minimum).holds q = true ↔ low ≤ q :=
    Comparison.holds_iff hlow .atLeast
  -- In all forms, a number in the bracket is not below the lower end.
  have hcontains (upper : Bool) :
      (if (Number.real q).lt b.minimum then false else upper) = true ↔
        low ≤ q ∧ upper = true := by
    rw [← not_lt, ← Number.lt_iff hlow]
    cases (Number.real q).lt b.minimum <;> simp
  unfold bracketTests NumericBracket.contains
  rw [hcontains]
  cases hm : b.maximum with
  | none =>
    rw [List.forall_mem_singleton, hlower]
    exact (and_iff_left rfl).symm
  | some top =>
    rw [hm] at hmax
    obtain ⟨high, hhigh⟩ := Option.isSome_iff_exists.mp hmax
    cases hc : b.closed with
    | false =>
      have hupper : (NumberTest.compare .below top).holds q = true ↔ q < high :=
        Comparison.holds_iff hhigh .below
      simp only [Bool.false_eq_true, if_false, List.forall_mem_cons, List.not_mem_nil,
        false_imp_iff, implies_true, and_true, hlower, hupper, Number.lt_iff hhigh]
    | true =>
      simp only [if_true, Number.same_iff hlow hhigh, Number.le_iff hhigh]
      by_cases he : low = high
      · -- One test stands for both ends: no number is below the one and above the other.
        subst he
        have hequal : (NumberTest.compare .equal b.minimum).holds q = true ↔ q = low :=
          Comparison.holds_iff hlow .equal
        rw [if_pos rfl, List.forall_mem_singleton, hequal, eq_comm, le_antisymm_iff]
      · rw [if_neg he, List.forall_mem_singleton, NumberTest.holds_between hlow hhigh]

/-- A whole number against a whole upper end. -/
theorem holds_atMost {y n : Int} : Comparison.holds y (.int n) .atMost = true ↔ y ≤ n :=
  (Comparison.holds_iff rfl .atMost).trans Rat.intCast_le_intCast

/-- A whole number against a whole lower end. -/
theorem holds_atLeast {y n : Int} : Comparison.holds y (.int n) .atLeast = true ↔ n ≤ y :=
  (Comparison.holds_iff rfl .atLeast).trans Rat.intCast_le_intCast

theorem bracketTests_ne_nil (b : NumericBracket) : bracketTests b ≠ [] := by
  unfold bracketTests
  split
  · simp
  · split
    · split <;> simp
    · simp

end Sql

namespace Voter

open Sql

/-- The number in a column. -/
def number (v : Voter) : NumberColumn → Option Rat
  | .birthYear => v.birthYear.map fun year : Int => (year : Rat)
  | .score => v.score

/-- Whether a column is empty. The columns of the record itself never are. -/
def lacks (v : Voter) : Column → Bool
  | .text c => (v.text c).isNone
  | .birthYear => v.birthYear.isNone
  | .geom => v.place.isNone
  | .votingEvents => v.events.isNone
  | .lastVoteDate => v.lastVote.isNone
  | .score => v.score.isNone
  | .electionYears => v.electionYears.isNone
  | .moved m => (v.moved m).isNone
  | .id | .createdAt | .updatedAt => false

end Voter

end Electorate
