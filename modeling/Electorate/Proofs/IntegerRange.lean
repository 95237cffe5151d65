import Electorate.Proofs.FilterMeaning
import Electorate.Sql.Statement

/-!
# The integers of a statement

Birth years, years of elections and the years of a chart stand in columns of 32 bits. A statement may
name any integer for them.

* `FitsInteger`: the integers of 32 bits.
* `Predicate.integers`, `Statement.integers`: the integers that a condition or a statement names for
  such columns. `Statement.fits_or_mem_integers`, `Statement.binds_of_mem_integers`: they are what
  the text binds.
* `Dimension.Names`: the integers that the values of a dimension name.
* `FilterSpec.mem_integers_predicate_iff`: the integers of the condition of a filter.
* `FilterSpec.fits_or_unguarded`: bucket bounds fit, so that what does not is an age or an election
  year that was given.
-/

namespace Electorate.Sql

/-- An integer that a column of 32 bits can hold. -/
def FitsInteger (n : Int) : Prop := -2147483648 ≤ n ∧ n ≤ 2147483647

/-! ## Bound values -/

/-- The values that a piece binds. -/
def Piece.bounds : Piece → List Bound
  | words _ => []
  | slot b => [b]
  | list bs => bs

/-- The values that pieces bind. -/
def bounds (ps : List Piece) : List Bound := ps.flatMap Piece.bounds

section Bounds

variable {ps qs : List Piece} {b : Bound}

@[simp] theorem bounds_nil : bounds [] = [] := rfl

@[simp] theorem bounds_words (s : String) : bounds (.words s :: ps) = bounds ps := rfl

@[simp] theorem bounds_slot (b : Bound) : bounds (.slot b :: ps) = b :: bounds ps := rfl

@[simp] theorem bounds_list (bs : List Bound) : bounds (.list bs :: ps) = bs ++ bounds ps := rfl

@[simp] theorem bounds_append : bounds (ps ++ qs) = bounds ps ++ bounds qs := List.flatMap_append

@[simp] theorem bounds_slotsBetweenCommas (bs : List Bound) :
    bounds (slotsBetweenCommas bs) = bs := by
  induction bs with
  | nil => rfl
  | cons b bs ih =>
    cases bs with
    | nil => rfl
    | cons c rest => exact congrArg (b :: ·) ih

@[simp] theorem bounds_valueRows (bs : List Bound) : bounds (valueRows bs) = bs := by
  induction bs with
  | nil => rfl
  | cons b bs ih =>
    cases bs with
    | nil => rfl
    | cons c rest => exact congrArg (b :: ·) ih

@[simp] theorem bounds_bracketedInside (place : Place) :
    bounds (bracketedInside place ps) = bounds ps := by
  unfold bracketedInside
  split <;> simp [bracketed]

/-- Values inside lists are numbered behind the others, but all of them are there. -/
theorem mem_params_assemble : b ∈ (assemble ps).params ↔ b ∈ bounds ps := by
  have hparts : b ∈ bounds ps ↔ b ∈ slotBounds ps ∨ b ∈ listBounds ps := by
    induction ps with
    | nil => simp [slotBounds, listBounds]
    | cons p ps ih =>
      cases p with
      | words s => simpa [slotBounds, listBounds] using ih
      | slot a => simp [slotBounds, listBounds, ih, or_assoc]
      | list as => simp [slotBounds, listBounds, ih, or_left_comm]
  rw [hparts, assemble, List.mem_append]

end Bounds

theorem mem_bounds_flatMap {l : List α} {f : α → List Piece} {b : Bound} :
    b ∈ bounds (l.flatMap f) ↔ ∃ a ∈ l, b ∈ bounds (f a) := by
  rw [bounds, List.flatMap_assoc]
  exact List.mem_flatMap

/-- An integer that is bound by its magnitude is one of the type INTEGER only if it fits. -/
theorem fits_of_integer_eq_sized {n m : Int} (h : Bound.integer n = Bound.sized m) :
    FitsInteger n := by
  obtain ⟨hvalue, htype⟩ := Bound.mk.inj h
  obtain rfl := Value.int.inj hvalue
  have hnarrow : n.natAbs < 2147483648 := by
    by_contra hwide
    have hbig : integerType n = .bigint := if_neg hwide
    rw [hbig] at htype
    cases htype
  constructor <;> omega

/-! ## Conditions -/

/-- The integers of a test. -/
def NumberTest.integers : NumberTest → List Int
  | compare _ (.int n) => [n]
  | between (.int low) (.int high) => [low, high]
  | between (.int low) _ => [low]
  | between _ (.int high) => [high]
  | _ => []

namespace Predicate

/-- The integers that a condition names for columns of 32 bits: those that birth years are compared
with, and the elements of its lists of election years. -/
def integers : Predicate → List Int
  | number .birthYear test => test.integers
  | votedInYears years => years
  | not p => p.integers
  | and p q | or p q => p.integers ++ q.integers
  | _ => []

end Predicate

/-- A test binds what it is compared with. -/
theorem NumberTest.mem_bounds_pieces {column : String} {bound : Number → Bound} {b : Bound}
    {t : NumberTest} (h : b ∈ bounds (t.pieces column bound)) : ∃ n, b = bound n := by
  cases t with
  | compare c n => exact ⟨n, by simpa [NumberTest.pieces] using h⟩
  | between low high =>
    obtain rfl | rfl : b = bound low ∨ b = bound high := by simpa [NumberTest.pieces] using h
    · exact ⟨low, rfl⟩
    · exact ⟨high, rfl⟩

theorem mem_bounds_testsPieces {column : String} {bound : Number → Bound} {b : Bound}
    {tests : List NumberTest} (h : b ∈ bounds (testsPieces column bound tests)) :
    ∃ n, b = bound n := by
  induction tests with
  | nil => cases h
  | cons t tests ih =>
    cases tests with
    | nil => exact NumberTest.mem_bounds_pieces h
    | cons u rest =>
      rw [testsPieces, bounds_append, bounds_words, List.mem_append] at h
      exact h.elim NumberTest.mem_bounds_pieces ih

/-- Scores and census figures are compared with numbers bound by their magnitude. -/
theorem fits_of_integer_eq_bound {n : Int} {m : Number}
    (h : Bound.integer n = scoreBound m ∨ Bound.integer n = censusBound m) : FitsInteger n := by
  cases m with
  | int m => exact fits_of_integer_eq_sized (h.elim id id)
  | _ => rcases h with h | h <;> cases h

theorem NumberTest.integer_mem_bounds_iff {column : String} {n : Int} {t : NumberTest} :
    Bound.integer n ∈ bounds (t.pieces column birthYearBound) ↔ n ∈ t.integers := by
  have hbound (m : Number) : Bound.integer n = birthYearBound m ↔ m = .int n := by
    cases m <;> simp [birthYearBound, Bound.integer, eq_comm]
  cases t with
  | compare c m =>
    cases m <;> simp [NumberTest.pieces, integers, hbound, eq_comm]
  | between low high =>
    cases low <;> cases high <;> simp [NumberTest.pieces, integers, hbound, eq_comm]

namespace Predicate

/-- What the text of a condition binds as INTEGER fits, or is one of the integers of the
condition. -/
theorem fits_or_mem_integers {table : String} {place : Place} {p : Predicate} {n : Int}
    (h : Bound.integer n ∈ bounds (p.pieces table place)) : FitsInteger n ∨ n ∈ p.integers := by
  induction p generalizing place with
  | and p q ihp ihq =>
    rw [pieces, bounds_append, bounds_words, List.mem_append] at h
    rw [integers, List.mem_append]
    rcases h with h | h
    · exact (ihp h).imp_right .inl
    · exact (ihq h).imp_right .inr
  | or p q ihp ihq =>
    have hsides : Bound.integer n ∈ bounds (p.pieces table .inOr) ∨
        Bound.integer n ∈ bounds (q.pieces table .inOr) := by
      rw [pieces] at h
      split at h <;> simpa [bracketed] using h
    rw [integers, List.mem_append]
    rcases hsides with h | h
    · exact (ihp h).imp_right .inl
    · exact (ihq h).imp_right .inr
  | not p ih =>
    rw [pieces, List.cons_append, bounds_words, bounds_append, bounds_words, bounds_nil,
      List.append_nil] at h
    exact ih h
  | number c test =>
    cases c with
    | birthYear => exact .inr (NumberTest.integer_mem_bounds_iff.mp h)
    | score =>
      obtain ⟨m, hm⟩ := NumberTest.mem_bounds_pieces h
      exact .inl (fits_of_integer_eq_bound (.inl hm))
  | inTract stat tests =>
    rw [pieces, List.cons_append, bounds_words, bounds_append, bounds_words, bounds_nil,
      List.append_nil] at h
    obtain ⟨m, hm⟩ := mem_bounds_testsPieces h
    exact .inl (fits_of_integer_eq_bound (.inr hm))
  | votedInYears years =>
    rw [pieces, List.cons_append, bounds_words, bounds_append, bounds_slotsBetweenCommas,
      bounds_words, bounds_nil, List.append_nil] at h
    obtain ⟨m, -, hm⟩ := List.mem_map.mp h
    exact .inl (fits_of_integer_eq_sized hm.symm)
  | inBox box =>
    left
    have hsrid : Bound.integer n = .sized srid := by
      simpa [pieces, Bound.integer, Bound.float] using h
    exact fits_of_integer_eq_sized hsrid
  | near longitude latitude meters =>
    left
    have hsrid : Bound.integer n = .sized srid := by
      simpa [pieces, geography, Bound.integer, Bound.float] using h
    exact fits_of_integer_eq_sized hsrid
  | _ => simp [pieces, Bound.integer, Bound.text] at h

/-- The integers of a condition are bound in its text, those of a list by their magnitude. -/
theorem binds_of_mem_integers {table : String} {p : Predicate} {n : Int} (h : n ∈ p.integers)
    (place : Place) : Bound.integer n ∈ bounds (p.pieces table place) ∨
      Bound.sized n ∈ bounds (p.pieces table place) := by
  induction p generalizing place with
  | and p q ihp ihq =>
    rw [integers, List.mem_append] at h
    simp only [pieces, bounds_append, bounds_words, List.mem_append]
    rcases h with h | h
    · exact (ihp h .inAnd).imp .inl .inl
    · exact (ihq h .inAnd).imp .inr .inr
  | or p q ihp ihq =>
    have hsides (b : Bound) : b ∈ bounds ((p.or q).pieces table place) ↔
        b ∈ bounds (p.pieces table .inOr) ∨ b ∈ bounds (q.pieces table .inOr) := by
      rw [pieces]
      split <;> simp [bracketed]
    rw [integers, List.mem_append] at h
    rw [hsides, hsides]
    rcases h with h | h
    · exact (ihp h .inOr).imp .inl .inl
    · exact (ihq h .inOr).imp .inr .inr
  | not p ih =>
    rw [pieces, List.cons_append, bounds_words, bounds_append, bounds_words, bounds_nil,
      List.append_nil]
    exact ih h .inOr
  | number c test =>
    cases c with
    | birthYear => exact .inl (NumberTest.integer_mem_bounds_iff.mpr h)
    | score => cases h
  | votedInYears years =>
    right
    rw [pieces, List.cons_append, bounds_words, bounds_append, bounds_slotsBetweenCommas,
      bounds_words, bounds_nil, List.append_nil]
    exact List.mem_map_of_mem h
  | _ => cases h

end Predicate

/-! ## Statements -/

/-- The integers of the conditions of labels. -/
def LabelCase.integers (c : LabelCase) : List Int := c.branches.flatMap fun e => e.1.integers

/-- The integers of what voters are counted by. -/
def Category.integers : Category → List Int
  | column _ => []
  | label c => c.integers

namespace Statement

/-- The integers that a statement names for columns of 32 bits: those of its conditions, and the
years that it counts by. -/
def integers : Statement → List Int
  | count p | averageScore p | voters p _ _ => p.integers
  | countByYear years p => years ++ p.integers
  | countByCategory category p => category.integers ++ p.integers
  | distinctValues _ => []

end Statement

theorem mem_bounds_fromWhere {p : Predicate} {b : Bound} :
    b ∈ bounds (fromWhere p) ↔ b ∈ bounds (p.pieces voterTable .top) := Iff.rfl

theorem LabelCase.mem_bounds_pieces {c : LabelCase} {table : String} {b : Bound} :
    b ∈ bounds (c.pieces table) ↔
      ∃ e ∈ c.branches, b ∈ bounds (e.1.pieces table .top) ∨ b = .text e.2 := by
  rw [LabelCase.pieces, List.cons_append, bounds_words, bounds_append, bounds_words, bounds_nil,
    List.append_nil, mem_bounds_flatMap]
  simp

namespace Category

variable {category : Category} {n : Int}

/-- What a category binds as INTEGER fits, or is one of its integers. -/
theorem fits_or_mem_integers (h : Bound.integer n ∈ bounds category.pieces) :
    FitsInteger n ∨ n ∈ category.integers := by
  cases category with
  | column c => cases h
  | label c =>
    obtain ⟨e, he, hcondition | hlabel⟩ := LabelCase.mem_bounds_pieces.mp h
    · refine (Predicate.fits_or_mem_integers hcondition).imp_right fun hn => ?_
      exact List.mem_flatMap.mpr ⟨e, he, hn⟩
    · -- A label is a text.
      cases hlabel

/-- The integers of a category are bound in it. -/
theorem binds_of_mem_integers (h : n ∈ category.integers) :
    Bound.integer n ∈ bounds category.pieces ∨ Bound.sized n ∈ bounds category.pieces := by
  cases category with
  | column c => cases h
  | label c =>
    obtain ⟨e, he, hn⟩ := List.mem_flatMap.mp h
    have hcondition : Bound.integer n ∈ bounds (e.1.pieces voterTable .top) ∨
        Bound.sized n ∈ bounds (e.1.pieces voterTable .top) :=
      Predicate.binds_of_mem_integers hn .top
    exact hcondition.imp (fun hb => LabelCase.mem_bounds_pieces.mpr ⟨e, he, .inl hb⟩)
      fun hb => LabelCase.mem_bounds_pieces.mpr ⟨e, he, .inl hb⟩

end Category

namespace Statement

variable {s : Statement} {n : Int} {p : Predicate} {b : Bound}

/-- Counting by year binds the years and what its condition binds. -/
theorem mem_bounds_countByYear {years : List Int} : b ∈ bounds (countByYear years p).pieces ↔
    b ∈ years.map Bound.integer ∨ b ∈ bounds (p.pieces voterTable .top) := by
  simp only [pieces, List.cons_append, List.append_assoc, bounds_words, bounds_append,
    bounds_valueRows, bounds_nil, List.append_nil, List.mem_append]

/-- Counting by category binds what the category binds and what its condition binds. -/
theorem mem_bounds_countByCategory {category : Category} :
    b ∈ bounds (countByCategory category p).pieces ↔
      b ∈ bounds category.pieces ∨ b ∈ bounds (p.pieces voterTable .top) := by
  simp only [pieces, List.cons_append, List.append_assoc, bounds_words, bounds_append, bounds_nil,
    List.append_nil, List.mem_append, mem_bounds_fromWhere]

/-- A list of voters binds what its condition binds, and its limit and offset. -/
theorem mem_bounds_voters {order : List SortKey} {window : Option Window} :
    b ∈ bounds (voters p order window).pieces ↔
      b ∈ bounds (p.pieces voterTable .top) ∨ b ∈ bounds (windowPieces window) := by
  simp only [pieces, List.cons_append, bounds_words, bounds_append, List.mem_append,
    mem_bounds_fromWhere]

/-- A limit and an offset are bound by their magnitude. -/
theorem fits_of_mem_windowPieces {window : Option Window}
    (h : Bound.integer n ∈ bounds (windowPieces window)) : FitsInteger n := by
  cases window with
  | none => cases h
  | some w =>
    obtain hlimit | hoffset : Bound.integer n = .sized w.limit ∨ Bound.integer n = .sized w.offset := by
      simpa [windowPieces] using h
    · exact fits_of_integer_eq_sized hlimit
    · exact fits_of_integer_eq_sized hoffset

/-- What a statement binds as INTEGER fits, or is one of its integers. -/
theorem fits_or_mem_integers (h : Bound.integer n ∈ s.render.params) :
    FitsInteger n ∨ n ∈ s.integers := by
  rw [render, mem_params_assemble] at h
  cases s with
  | count p | averageScore p => exact Predicate.fits_or_mem_integers h
  | countByYear years p =>
    rw [integers, List.mem_append]
    obtain hyear | hcondition := mem_bounds_countByYear.mp h
    · obtain ⟨m, hm, hbound⟩ := List.mem_map.mp hyear
      obtain ⟨⟨⟩, -⟩ := Bound.mk.inj hbound
      exact .inr (.inl hm)
    · exact (Predicate.fits_or_mem_integers hcondition).imp_right .inr
  | countByCategory category p =>
    rw [integers, List.mem_append]
    obtain hcategory | hcondition := mem_bounds_countByCategory.mp h
    · exact (Category.fits_or_mem_integers hcategory).imp_right .inl
    · exact (Predicate.fits_or_mem_integers hcondition).imp_right .inr
  | distinctValues c =>
    -- The condition that a text is there names no integers.
    simp only [pieces, List.cons_append, bounds_words, bounds_append, bounds_nil, List.append_nil,
      mem_bounds_fromWhere] at h
    exact Predicate.fits_or_mem_integers h
  | voters p order window =>
    obtain hcondition | hwindow := mem_bounds_voters.mp h
    · exact Predicate.fits_or_mem_integers hcondition
    · exact .inl (fits_of_mem_windowPieces hwindow)

/-- The integers of a statement are bound in it, those of a list by their magnitude. -/
theorem binds_of_mem_integers (h : n ∈ s.integers) :
    Bound.integer n ∈ s.render.params ∨ Bound.sized n ∈ s.render.params := by
  have hcondition {p : Predicate} (hn : n ∈ p.integers) :
      Bound.integer n ∈ bounds (p.pieces voterTable .top) ∨
        Bound.sized n ∈ bounds (p.pieces voterTable .top) :=
    Predicate.binds_of_mem_integers hn .top
  rw [render, mem_params_assemble, mem_params_assemble]
  cases s with
  | count p | averageScore p => exact hcondition h
  | countByYear years p =>
    rw [mem_bounds_countByYear, mem_bounds_countByYear]
    obtain hyear | hn := List.mem_append.mp h
    · exact .inl (.inl (List.mem_map_of_mem hyear))
    · exact (hcondition hn).imp .inr .inr
  | countByCategory category p =>
    rw [mem_bounds_countByCategory, mem_bounds_countByCategory]
    obtain hcategory | hn := List.mem_append.mp h
    · exact (Category.binds_of_mem_integers hcategory).imp .inl .inl
    · exact (hcondition hn).imp .inr .inr
  | distinctValues c => cases h
  | voters p order window =>
    rw [mem_bounds_voters, mem_bounds_voters]
    exact (hcondition h).imp .inl .inl

end Statement

/-! ## Conditions that are joined -/

namespace Predicate

variable {ps : List Predicate} {n : Int}

theorem mem_integers_both {p q : Predicate} :
    n ∈ (both p q).integers ↔ n ∈ p.integers ∨ n ∈ q.integers := by
  unfold both
  split
  · simp [integers]
  · simp [integers]
  · rw [integers, List.mem_append]

theorem mem_integers_conj : n ∈ (conj ps).integers ↔ ∃ p ∈ ps, n ∈ p.integers := by
  cases ps with
  | nil => simp [conj, integers]
  | cons p ps => exact foldl_iff_exists (P := fun p => n ∈ p.integers) (fun _ _ => mem_integers_both) p ps

theorem mem_integers_disj? {d : Predicate} (h : disj? ps = some d) :
    n ∈ d.integers ↔ ∃ p ∈ ps, n ∈ p.integers := by
  cases ps with
  | nil => cases h
  | cons p ps =>
    cases h
    exact foldl_iff_exists (P := fun p => n ∈ p.integers) (fun _ _ => List.mem_append) p ps

/-- Parts without integers make a condition without integers. -/
theorem not_mem_integers_disj? {d : Predicate} (h : disj? ps = some d)
    (hps : ∀ p ∈ ps, p.integers = []) : n ∉ d.integers := by
  rw [mem_integers_disj? h]
  rintro ⟨p, hp, hn⟩
  rw [hps p hp] at hn
  cases hn

theorem integers_matchText (t : TextTerm) (values : List String) :
    (matchText t values).integers = [] := by
  unfold matchText
  split <;> rfl

theorem mem_integers_ofAgeBucket {b : AgeBucket} {year : Int} :
    n ∈ (ofAgeBucket b year).integers ↔
      n = b.latestBirthYear year ∨ b.earliestBirthYear year = some n := by
  unfold ofAgeBucket
  cases b.earliestBirthYear year <;> simp [integers, NumberTest.integers, eq_comm]

theorem integers_ofBracket_score (b : NumericBracket) : (ofBracket .score b).integers = [] := by
  rw [List.eq_nil_iff_forall_not_mem]
  intro n hn
  obtain ⟨p, hp, hn⟩ := mem_integers_conj.mp hn
  obtain ⟨t, -, rfl⟩ := List.mem_map.mp hp
  cases hn

end Predicate

end Electorate.Sql

namespace Electorate

open Electorate.Sql Electorate.Sql.Predicate

/-! ## Filters -/

theorem integers_addressPartPredicate (part : AddressPart) (value : String) :
    (addressPartPredicate part value).integers = [] := by
  cases part <;> rfl

theorem ResidentAddress.integers_predicate? {a : ResidentAddress} {p : Predicate}
    (h : a.predicate? = some p) : p.integers = [] := by
  unfold predicate? at h
  split at h
  · cases h
  · cases h
    rw [List.eq_nil_iff_forall_not_mem]
    intro n hn
    obtain ⟨q, hq, hn⟩ := mem_integers_conj.mp hn
    obtain ⟨⟨part, value⟩, -, rfl⟩ := List.mem_map.mp hq
    have hnone : (addressPartPredicate part value).integers = [] :=
      integers_addressPartPredicate part value
    exact absurd hn (hnone ▸ List.not_mem_nil)

/-- The integers that the values of a dimension name: bounds of the birth years of known age ranges
and of the first of several ages, and years of elections. -/
def Dimension.Names (year : Int) (values : List String) (n : Int) : Dimension → Prop
  | ageRange => ∃ x ∈ values, ∃ b, findAgeBucket? x = some b ∧
      (n = b.latestBirthYear year ∨ b.earliestBirthYear year = some n)
  | ageMin | ageMax => ∃ age, Number.readInteger? (values.headD "") = some age ∧ n = year - age
  | electionYear => ∃ x ∈ values, Number.readInteger? x = some n
  | _ => False

theorem mem_integers_agePredicate? {spec : FilterSpec} {test : Comparison} {year n : Int}
    {value : String} {p : Predicate} (h : agePredicate? spec test year value = some p) :
    n ∈ p.integers ↔ ∃ age, Number.readInteger? value = some age ∧ n = year - age := by
  unfold agePredicate? at h
  split at h
  · cases h
  · obtain ⟨age, hage, rfl⟩ := Option.map_eq_some_iff.mp h
    simp [integers, NumberTest.integers, hage]

/-- The condition of a dimension has the integers that its values name. -/
theorem Dimension.mem_integers_predicate? {d : Dimension} {spec : FilterSpec} {year n : Int}
    {values : List String} {p : Predicate} (h : d.predicate? spec year values = some p) :
    n ∈ p.integers ↔ d.Names year values n := by
  have hnone (hp : p.integers = []) : n ∈ p.integers ↔ False := by simp [hp]
  have hparts {ps : List Predicate} (hd : disj? ps = some p) (hps : ∀ q ∈ ps, q.integers = []) :
      n ∈ p.integers ↔ False := iff_false_intro (not_mem_integers_disj? hd hps)
  cases d
  case county | countyPrecinct | municipalPrecinct | status | statusReason | party | gender |
      race | congressionalDistrict | stateSenateDistrict | stateHouseDistrict =>
    obtain rfl := Option.some.inj h
    exact hnone (integers_matchText _ _)
  case firstName | lastName =>
    obtain rfl := Option.some.inj h
    exact hnone rfl
  case ageRange =>
    rw [mem_integers_disj? h]
    simp only [List.mem_map, List.mem_filterMap, Names]
    constructor
    · rintro ⟨-, ⟨b, ⟨x, hx, hb⟩, rfl⟩, hn⟩
      exact ⟨x, hx, b, hb, mem_integers_ofAgeBucket.mp hn⟩
    · rintro ⟨x, hx, b, hb, hn⟩
      exact ⟨_, ⟨b, ⟨x, hx, hb⟩, rfl⟩, mem_integers_ofAgeBucket.mpr hn⟩
  case ageMin | ageMax => exact mem_integers_agePredicate? h
  case scoreRange =>
    refine hparts h fun q hq => ?_
    obtain ⟨b, -, rfl⟩ := List.mem_map.mp hq
    exact integers_ofBracket_score b
  case income | education | unemployment =>
    refine hparts h fun q hq => ?_
    obtain ⟨b, -, rfl⟩ := List.mem_map.mp hq
    rfl
  case neverVoted =>
    simp only [predicate?] at h
    split at h
    · obtain rfl := Option.some.inj h
      exact hnone rfl
    · cases h
  case notVotedSinceYear =>
    simp only [predicate?] at h
    split at h
    · split at h
      · obtain rfl := Option.some.inj h
        exact hnone rfl
      · cases h
    · cases h
  case electionYear =>
    simp only [predicate?] at h
    split at h
    · cases h
    · obtain rfl := Option.some.inj h
      exact List.mem_filterMap
  case electionType | eventParty | ballotStyle =>
    refine hparts h fun q hq => ?_
    obtain ⟨x, -, rfl⟩ := List.mem_map.mp hq
    rfl
  case voterEventMethod =>
    refine hparts h fun q hq => ?_
    obtain ⟨x, -, rfl⟩ := List.mem_map.mp hq
    rfl
  case electionDate =>
    obtain ⟨attended, hattended, rfl⟩ := Option.map_eq_some_iff.mp h
    have hattends : attended.integers = [] := by
      rw [List.eq_nil_iff_forall_not_mem]
      intro m
      refine not_mem_integers_disj? hattended fun q hq => ?_
      obtain ⟨x, -, rfl⟩ := List.mem_map.mp hq
      rfl
    refine hnone ?_
    split <;> simp [integers, hattends]
  case residentAddress =>
    refine hparts h fun q hq => ?_
    obtain ⟨x, -, hx⟩ := List.mem_filterMap.mp hq
    obtain ⟨a, -, ha⟩ := Option.bind_eq_some_iff.mp hx
    exact ResidentAddress.integers_predicate? ha
  case redistrictingAffected =>
    refine hparts h fun q hq => ?_
    obtain ⟨m, -, rfl⟩ := List.mem_map.mp hq
    rfl
  case radiusFilter =>
    obtain ⟨c, -, rfl⟩ := Option.map_eq_some_iff.mp h
    exact hnone rfl
  case exactId | electionParticipation => cases h

namespace FilterSpec

variable {spec : FilterSpec} {year n : Int}

/-- The integers of the condition of a filter: those that the values of its dimensions name, where
these mean something. A registration number that is asked for leaves none. -/
theorem mem_integers_predicate_iff : n ∈ (spec.predicate year).integers ↔
    spec.exactId? = none ∧ ∃ (d : Dimension) (values : List String),
      spec.get? d.name = some values ∧ d.Constrains spec values ∧ d.Names year values n := by
  cases hid : spec.exactId? with
  | some id =>
    simp [predicate, constraints, hid, conj, integers]
  | none =>
    rw [predicate, mem_integers_conj]
    simp only [true_and]
    constructor
    · rintro ⟨p, hp, hn⟩
      obtain ⟨c, hc, rfl⟩ := List.mem_map.mp hp
      obtain ⟨values, hget, hp⟩ := (mem_constraints_iff hid).mp hc
      have hconstrains := (c.dimension.isSome_predicate?_iff (ne_nil_of_get? hget)).mp
        (Option.isSome_of_eq_some hp)
      exact ⟨c.dimension, values, hget, hconstrains,
        (Dimension.mem_integers_predicate? hp).mp hn⟩
    · rintro ⟨d, values, hget, hconstrains, hn⟩
      obtain ⟨p, hp⟩ := Option.isSome_iff_exists.mp
        ((d.isSome_predicate?_iff (ne_nil_of_get? hget)).mpr hconstrains)
      have hc : (⟨d, p⟩ : Constraint) ∈ spec.constraints year :=
        (mem_constraints_iff hid).mpr ⟨values, hget, hp⟩
      exact ⟨p, List.mem_map_of_mem hc, (Dimension.mem_integers_predicate? hp).mpr hn⟩

end FilterSpec

/-! ## Four-digit years -/

/-- A year of four digits. -/
def IsYear (year : Int) : Prop := 1000 ≤ year ∧ year ≤ 9999

/-- The bounds of the birth years of an age range fit. -/
theorem AgeBucket.fits {b : AgeBucket} {year n : Int} (hb : b ∈ ageBuckets) (hyear : IsYear year)
    (hn : n = b.latestBirthYear year ∨ b.earliestBirthYear year = some n) : FitsInteger n := by
  have hages : ∀ b ∈ ageBuckets,
      (0 ≤ b.minAge ∧ b.minAge ≤ 100) ∧ ∀ age ∈ b.maxAge, 0 ≤ age ∧ age ≤ 100 := by decide
  obtain ⟨hmin, hmax⟩ := hages b hb
  obtain ⟨hlow, hhigh⟩ := hyear
  rcases hn with rfl | hn
  · unfold latestBirthYear FitsInteger
    omega
  · obtain ⟨age, hage, rfl⟩ := Option.map_eq_some_iff.mp hn
    obtain ⟨hpos, hle⟩ := hmax age hage
    unfold FitsInteger
    omega

/-- The labels of age ranges are given by conditions whose integers fit. -/
theorem fits_of_mem_ageCase {year n : Int} (hyear : IsYear year)
    (hn : n ∈ (ageCase year).integers) : FitsInteger n := by
  obtain ⟨e, he, hn⟩ := List.mem_flatMap.mp hn
  obtain ⟨b, hb, rfl⟩ := List.mem_map.mp he
  exact b.fits hb hyear (mem_integers_ofAgeBucket.mp hn)

theorem integers_scoreCase : scoreCase.integers = [] := by
  rw [List.eq_nil_iff_forall_not_mem]
  intro n hn
  obtain ⟨e, he, hn⟩ := List.mem_flatMap.mp hn
  obtain ⟨b, -, rfl⟩ := List.mem_map.mp he
  rw [integers_ofBracket_score] at hn
  cases hn

namespace FilterSpec

/-- An integer that a filter takes over from its values without a check: a birth year from the first
of several ages, or a year of an election. -/
def Unguarded (spec : FilterSpec) (year n : Int) : Prop :=
  ∃ d ∈ [Dimension.ageMin, .ageMax, .electionYear], ∃ values,
    spec.get? d.name = some values ∧ d.Names year values n

/-- What does not fit was taken over without a check. -/
theorem fits_or_unguarded {spec : FilterSpec} {year n : Int} (hyear : IsYear year)
    (h : n ∈ (spec.predicate year).integers) : FitsInteger n ∨ spec.Unguarded year n := by
  obtain ⟨-, d, values, hget, -, hn⟩ := mem_integers_predicate_iff.mp h
  cases d
  case ageRange =>
    obtain ⟨x, -, b, hb, hn⟩ := hn
    exact .inl (b.fits (List.mem_of_find?_eq_some hb) hyear hn)
  case ageMin | ageMax | electionYear => exact .inr ⟨_, by simp, values, hget, hn⟩
  all_goals cases hn

end FilterSpec

end Electorate
