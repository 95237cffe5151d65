import Electorate.Proofs.CircleFaults
import Electorate.Proofs.FilterMeaning
import Electorate.Proofs.IntegersAsked
import Electorate.Proofs.Traversal

/-!
# Faults of filters

A filter is made a list of conditions by steps of which many have no result for some values: the
first of no values, the integer of a text that is none, the first of January of the year 0, a
conjunction of no conditions. Here each of these steps is refused where it has no result, and a
refusal is caught in two places only, where an integer and where a circle is read.

* `caught`: what is read from a text of any form.
* `Dimension.compile`: the condition of a dimension, step by step.
* `Dimension.compile_eq`: for a dimension with a value these steps have no fault and give the
  condition of the dimension.
* `FilterSpec.compile_eq`: so do the steps for all dimensions of a filter, and the conditions stand
  in the order of the filter, at most one for each dimension.
-/

namespace Electorate

open Electorate.Sql

/-- Whether a fault tells of the text that was read rather than of the steps taken. -/
def CompileFault.isBadValue : CompileFault → Bool
  | notAnInteger _ | badCircle _ | noYear _ | outsideDomain | wrongCount _ => true
  | noValue | divisionByZero | unknownWord _ | emptyConjunction | emptyDisjunction => false

namespace Steps

/-! ## Steps -/

/-- What is read from a text, if anything is. Faults of another kind go on. -/
def caught (x : Except CompileFault α) : Except CompileFault (Option α) :=
  match x with
  | .ok a => .ok (some a)
  | .error e => if e.isBadValue then .ok none else .error e

/-- The first of several values, refused where there are none. -/
def firstOf : List α → Except CompileFault α
  | [] => .error .noValue
  | a :: _ => .ok a

/-- The integer that a text writes, blanks around it dropped. -/
def integerOf (s : String) : Except CompileFault Int :=
  (Number.readInteger (Text.strip s)).mapError .notAnInteger

/-- The first day of a year, refused outside the calendar. -/
def newYearOf (year : Int) : Except CompileFault Date :=
  if 1 ≤ year ∧ year ≤ 9999 then .ok (.newYear year.toNat) else .error (.noYear year)

/-- The district move that a word means, refused for other words. -/
def moveOf (word : String) : Except CompileFault DistrictMove :=
  match movesNamed word with
  | [m] => .ok m
  | _ => .error (.unknownWord word)

/-- The address with eight parts. -/
def addressOf : List String → Except CompileFault ResidentAddress
  | [a, b, c, d, e, f, g, h] => .ok ⟨a, b, c, d, e, f, g, h⟩
  | parts => .error (.wrongCount parts.length)

/-- All of several conditions, refused where there are none. -/
def allOf : List Predicate → Except CompileFault Predicate
  | [] => .error .emptyConjunction
  | ps => .ok (.conj ps)

/-- One of several conditions, refused where there are none. -/
def oneOf : List Predicate → Except CompileFault Predicate
  | [] => .error .emptyDisjunction
  | p :: ps => .ok (ps.foldl .or p)

/-- One of several conditions, if there are any; one that is alone stands for itself. -/
def anyOf (ps : List Predicate) : Except CompileFault (Option Predicate) :=
  if ps.isEmpty then .ok none
  else if ps.length = 1 then some <$> firstOf ps
  else some <$> oneOf ps

/-- Equal to one of several texts. -/
def matchAny (t : TextTerm) (values : List String) : Except CompileFault Predicate :=
  if values.length = 1 then .equals t <$> firstOf values else .ok (.oneOf t values)

/-- Equal to one of several texts, without regard to case. -/
def matchAnyFolded (c : TextColumn) (values : List String) : Except CompileFault Predicate :=
  matchAny (.upper c) (distinct (values.map Text.upper))

/-! ## Dimensions, step by step -/

/-- The condition on a birth year that the first of several ages gives. -/
def ageStepwise (spec : FilterSpec) (test : Comparison) (year : Int) (values : List String) :
    Except CompileFault (Option Predicate) := do
  if spec.has Dimension.ageRange.name then return none
  let age ← caught (integerOf (← firstOf values))
  return age.map fun age => .number .birthYear (.compare test (.int (year - age)))

/-- The condition that no vote is younger than a year. -/
def notVotedSinceStepwise (values : List String) : Except CompileFault (Option Predicate) := do
  match ← caught (integerOf (← firstOf values)) with
  | none => return none
  | some since =>
    if ¬(1 ≤ since ∧ since ≤ 9999) then return none
    return some (.or (.isNull .lastVoteDate) (.votedBefore (← newYearOf since)))

/-- The condition that a voter took part in the elections of some years. -/
def electionYearStepwise (values : List String) : Except CompileFault (Option Predicate) := do
  let years := (← values.mapM fun value => caught (integerOf value)).reduceOption
  if years.isEmpty then return none
  return some (.votedInYears years)

/-- The address that a text lists the parts of. -/
def parseAddressStepwise (s : String) : Except CompileFault (Option ResidentAddress) :=
  let parts := Text.splitOn ',' s
  if parts.length ≠ 8 then .ok none else some <$> addressOf (parts.map Text.strip)

/-- The condition that a voter lives at an address. -/
def livesAtStepwise (a : ResidentAddress) : Except CompileFault (Option Predicate) :=
  if a.isEmpty then .ok none
  else some <$> allOf (a.presentParts.map fun (part, value) => addressPartPredicate part value)

/-- The condition that a voter lives at one of several addresses. -/
def residentAddressStepwise (values : List String) : Except CompileFault (Option Predicate) := do
  let clauses ← values.mapM fun value => do
    match ← parseAddressStepwise value with
    | none => return none
    | some address => livesAtStepwise address
  anyOf clauses.reduceOption

/-- The condition that a census figure of the voter's tract lies in one of several brackets. -/
def tractStepwise (stat : CensusStat) (table : List NumericBracket) (values : List String) :
    Except CompileFault (Option Predicate) :=
  anyOf ((values.filterMap (findBracket? table)).map fun b => .inTract stat (bracketTests b))

/-- The condition that some voting event has one of the values in a field. -/
def eventStepwise (field : String) (values : List String) : Except CompileFault (Option Predicate) :=
  anyOf (values.map (.eventHas field))

/-- The condition that a voter was moved to another district. -/
def movedStepwise (values : List String) : Except CompileFault (Option Predicate) := do
  let words := values.map fun v => Text.lowerAscii (Text.strip v)
  let moves ← if words.contains "any" then .ok allMoves
    else distinct <$> (words.filter fun word => !(movesNamed word).isEmpty).mapM moveOf
  anyOf (moves.map .moved)

/-- The condition that a voter lives within a circle. What the text of the circle does wrong is
caught, and what the condition of the circle does wrong is not. -/
def withinStepwise (values : List String) : Except CompileFault (Option Predicate) := do
  match ← caught (Circle.parseStepwise (← firstOf values)) with
  | none => return none
  | some c =>
    let box ← c.boxStepwise
    return some (.conj [.isNotNull .geom, .inBox box,
      .near c.longitude.toFloat c.latitude.toFloat c.radiusMeters])

end Steps

open Steps

/-- The condition that a dimension of a filter puts on a voter, step by step. -/
def Dimension.compile (d : Dimension) (spec : FilterSpec) (year : Int) (values : List String) :
    Except CompileFault (Option Predicate) :=
  match d with
  | .county => some <$> matchAnyFolded .countyName values
  | .congressionalDistrict => some <$> matchAny (.plain .congressionalDistrict) values
  | .stateSenateDistrict => some <$> matchAny (.plain .stateSenateDistrict) values
  | .stateHouseDistrict => some <$> matchAny (.plain .stateHouseDistrict) values
  | .countyPrecinct => some <$> matchAnyFolded .countyPrecinct values
  | .municipalPrecinct => some <$> matchAnyFolded .municipalPrecinct values
  | .status => some <$> matchAnyFolded .status values
  | .statusReason => some <$> matchAnyFolded .statusReason values
  | .party => some <$> matchAnyFolded .lastPartyVoted values
  | .gender => some <$> matchAnyFolded .gender values
  | .race => some <$> matchAnyFolded .race (values.map raceStoreValue)
  | .firstName => (some <| startsWith .firstName ·) <$> firstOf values
  | .lastName => (some <| startsWith .lastName ·) <$> firstOf values
  | .ageRange => anyOf ((values.filterMap findAgeBucket?).map (Predicate.ofAgeBucket · year))
  | .ageMin => ageStepwise spec .atMost year values
  | .ageMax => ageStepwise spec .atLeast year values
  | .scoreRange =>
    anyOf ((values.filterMap (findBracket? scoreRanges)).map (Predicate.ofBracket .score))
  | .income => tractStepwise .medianIncome incomeBrackets values
  | .education => tractStepwise .bachelorsShare educationBrackets values
  | .unemployment => tractStepwise .unemploymentRate unemploymentBrackets values
  | .neverVoted => do
    if Text.lowerAscii (Text.strip (← firstOf values)) ≠ "true" then return none
    return some (.isNull .lastVoteDate)
  | .notVotedSinceYear => notVotedSinceStepwise values
  | .electionYear => electionYearStepwise values
  | .electionType => eventStepwise "election_type" (values.map Text.upper)
  | .ballotStyle => eventStepwise "ballot_style" values
  | .eventParty => eventStepwise "party" (values.map Text.upper)
  | .voterEventMethod =>
    let methods := distinct (values.map fun v => Text.lowerAscii (Text.strip v))
    anyOf ((methods.filter (eventMethods.contains ·)).map (.eventHas · "Y"))
  | .electionDate => do
    match ← eventStepwise "election_date" values with
    | none => return none
    | some attended =>
      return some (if spec.asksSatOut then .or (.isNull .votingEvents) (.not attended) else attended)
  | .residentAddress => residentAddressStepwise values
  | .redistrictingAffected => movedStepwise values
  | .radiusFilter => withinStepwise values
  | .exactId | .electionParticipation => .ok none

/-! ## The steps have no fault -/

section

variable {values : List String} {spec : FilterSpec} {year : Int}

namespace Steps

theorem ok_bind (a : α) (f : α → Except ε β) : (Except.ok a >>= f) = f a := rfl

theorem anyOf_eq (ps : List Predicate) : anyOf ps = .ok (Predicate.disj? ps) := by
  match ps with
  | [] => rfl
  | [_] => rfl
  | _ :: _ :: _ => rfl

theorem matchAny_eq (t : TextTerm) (values : List String) :
    matchAny t values = .ok (.matchText t values) := by
  match values with
  | [] => rfl
  | [_] => rfl
  | _ :: _ :: _ => rfl

theorem matchAnyFolded_eq (c : TextColumn) (values : List String) :
    matchAnyFolded c values = .ok (matchFolded c values) := matchAny_eq _ _

theorem firstOf_eq (hv : values ≠ []) : firstOf values = .ok (values.headD "") := by
  cases values with
  | nil => exact absurd rfl hv
  | cons v rest => rfl

/-- What is caught where an integer is read is that the text writes none. -/
theorem caught_integerOf (s : String) : caught (integerOf s) = .ok (Number.readInteger? s) := by
  rw [← Number.readInteger?_strip, integerOf, Number.readInteger?]
  cases Number.readInteger (Text.strip s) <;> rfl

theorem caught_parseStepwise (s : String) :
    caught (Circle.parseStepwise s) = .ok (Circle.ofParam s).toOption := by
  rw [Circle.parseStepwise_eq]
  cases Circle.ofParam s <;> rfl

theorem newYearOf_eq {since : Int} (h : 1 ≤ since ∧ since ≤ 9999) :
    newYearOf since = .ok (.newYear since.toNat) := if_pos h

/-- A step that has no fault for any value of a list has none for the list. -/
theorem mapM_eq_ok {f : α → Except ε β} {g : α → β} {l : List α} (h : ∀ a ∈ l, f a = .ok (g a)) :
    l.mapM f = .ok (l.map g) := by
  induction l with
  | nil => rfl
  | cons a l ih =>
    rw [List.mapM_cons, h a List.mem_cons_self, ih fun b hb => h b (List.mem_cons_of_mem a hb)]
    rfl

theorem reduceOption_map_eq (f : α → Option β) (l : List α) :
    (l.map f).reduceOption = l.filterMap f :=
  List.filterMap_map

theorem ageStepwise_eq (test : Comparison) (hv : values ≠ []) :
    ageStepwise spec test year values = .ok (agePredicate? spec test year (values.headD "")) := by
  unfold ageStepwise agePredicate?
  cases spec.has Dimension.ageRange.name with
  | true => rfl
  | false =>
    rw [firstOf_eq hv, ok_bind, caught_integerOf, ok_bind]
    rfl

theorem notVotedSinceStepwise_eq (hv : values ≠ []) : notVotedSinceStepwise values =
    .ok (Dimension.notVotedSinceYear.predicate? spec year values) := by
  unfold notVotedSinceStepwise
  rw [firstOf_eq hv, ok_bind, caught_integerOf, ok_bind]
  cases hread : Number.readInteger? (values.headD "") with
  | none =>
    simp only [Dimension.predicate?, hread]
    rfl
  | some since =>
    simp only [Dimension.predicate?, hread]
    -- The calendar is asked for the years that it has, and for no others.
    by_cases hyear : 1 ≤ since ∧ since ≤ 9999
    · rw [if_neg (not_not.mpr hyear), if_pos hyear, newYearOf_eq hyear]
      rfl
    · rw [if_pos hyear, if_neg hyear]
      rfl

theorem electionYearStepwise_eq : electionYearStepwise values =
    .ok (Dimension.electionYear.predicate? spec year values) := by
  unfold electionYearStepwise
  rw [mapM_eq_ok fun value _ => caught_integerOf value, ok_bind, reduceOption_map_eq]
  cases hyears : values.filterMap Number.readInteger? with
  | nil =>
    simp only [Dimension.predicate?, hyears]
    rfl
  | cons y years =>
    simp only [Dimension.predicate?, hyears]
    rfl

theorem parseAddressStepwise_eq (s : String) :
    parseAddressStepwise s = .ok (ResidentAddress.ofParam? s) := by
  unfold parseAddressStepwise ResidentAddress.ofParam?
  dsimp only
  rw [← List.length_map (f := Text.strip)]
  match (Text.splitOn ',' s).map Text.strip with
  | [_, _, _, _, _, _, _, _] => rfl
  | [] | [_] | [_, _] | [_, _, _] | [_, _, _, _] | [_, _, _, _, _] | [_, _, _, _, _, _]
  | [_, _, _, _, _, _, _] => rfl
  | _ :: _ :: _ :: _ :: _ :: _ :: _ :: _ :: _ :: rest =>
    rw [if_pos (by simp)]

/-- An address that is not empty has a part that is not. -/
theorem livesAtStepwise_eq (a : ResidentAddress) : livesAtStepwise a = .ok a.predicate? := by
  unfold livesAtStepwise ResidentAddress.predicate?
  cases hempty : a.isEmpty with
  | true => rfl
  | false =>
    have hpresent : a.presentParts ≠ [] := by
      obtain ⟨part, -, hpart⟩ := List.all_eq_false.mp hempty
      exact List.ne_nil_of_mem (mem_presentParts.mpr
        ⟨rfl, fun hnone => hpart (String.isEmpty_iff.mpr hnone)⟩)
    cases hparts : a.presentParts with
    | nil => exact absurd hparts hpresent
    | cons part parts => rfl

theorem residentAddressStepwise_eq : residentAddressStepwise values =
    .ok (Dimension.residentAddress.predicate? spec year values) := by
  unfold residentAddressStepwise
  have hclause (value : String) : (do
      match ← parseAddressStepwise value with
      | none => return none
      | some address => livesAtStepwise address) =
      Except.ok ((ResidentAddress.ofParam? value).bind (·.predicate?)) := by
    rw [parseAddressStepwise_eq, ok_bind]
    cases ResidentAddress.ofParam? value with
    | none => rfl
    | some a => exact livesAtStepwise_eq a
  rw [mapM_eq_ok fun value _ => hclause value, ok_bind, anyOf_eq, reduceOption_map_eq]
  rfl

theorem movesNamed_cases (word : String) : movesNamed word = [] ∨ ∃ m, movesNamed word = [m] := by
  unfold movesNamed
  split
  · exact .inr ⟨_, rfl⟩
  · exact .inr ⟨_, rfl⟩
  · exact .inr ⟨_, rfl⟩
  · exact .inr ⟨_, rfl⟩
  · exact .inl rfl

/-- The words that mean a move are looked up, and no others. -/
theorem mapM_moveOf (words : List String) :
    (words.filter fun word => !(movesNamed word).isEmpty).mapM moveOf =
      .ok (words.flatMap movesNamed) := by
  induction words with
  | nil => rfl
  | cons word words ih =>
    obtain hnone | ⟨m, hone⟩ := movesNamed_cases word
    · rw [List.filter_cons_of_neg (by simp [hnone]), ih, List.flatMap_cons, hnone, List.nil_append]
    · have hmove : moveOf word = .ok m := by
        rw [moveOf, hone]
      rw [List.filter_cons_of_pos (by simp [hone]), List.mapM_cons, hmove, ok_bind, ih, ok_bind,
        List.flatMap_cons, hone]
      rfl

theorem movedStepwise_eq : movedStepwise values =
    .ok (Dimension.redistrictingAffected.predicate? spec year values) := by
  unfold movedStepwise
  dsimp only
  rw [mapM_moveOf]
  simp only [Dimension.predicate?]
  cases (values.map fun v => Text.lowerAscii (Text.strip v)).contains "any" with
  | true =>
    rw [if_pos rfl, if_pos rfl, ok_bind]
    exact anyOf_eq _
  | false =>
    rw [if_neg Bool.false_ne_true, if_neg Bool.false_ne_true]
    exact anyOf_eq _

theorem withinStepwise_eq (hv : values ≠ []) : withinStepwise values =
    .ok (Dimension.radiusFilter.predicate? spec year values) := by
  unfold withinStepwise
  rw [firstOf_eq hv, ok_bind, caught_parseStepwise, ok_bind]
  cases hread : Circle.ofParam (values.headD "") with
  | error e =>
    simp only [Dimension.predicate?, hread]
    rfl
  | ok c =>
    simp only [Dimension.predicate?, hread, Except.toOption, Circle.boxStepwise_eq hread]
    rfl

end Steps

/-- The steps for a dimension with a value have no fault, and what they give is its condition. -/
theorem Dimension.compile_eq (d : Dimension) (hv : values ≠ []) :
    d.compile spec year values = .ok (d.predicate? spec year values) := by
  -- That there is a value is needed where the first one is read, and nowhere else.
  cases d
  case county | countyPrecinct | municipalPrecinct | status | statusReason | party | gender | race =>
    simp only [compile, matchAnyFolded_eq]
    rfl
  case congressionalDistrict | stateSenateDistrict | stateHouseDistrict =>
    simp only [compile, matchAny_eq]
    rfl
  case firstName | lastName =>
    simp only [compile, firstOf_eq hv]
    rfl
  case ageMin | ageMax => exact ageStepwise_eq _ hv
  case neverVoted =>
    simp only [compile, firstOf_eq hv, ok_bind, predicate?]
    by_cases hword : Text.lowerAscii (Text.strip (values.headD "")) = "true"
    · rw [if_neg (not_not.mpr hword), if_pos hword]
      rfl
    · rw [if_pos hword, if_neg hword]
      rfl
  case ageRange | scoreRange | income | education | unemployment | electionType | ballotStyle
    | eventParty | voterEventMethod => exact anyOf_eq _
  case notVotedSinceYear => exact notVotedSinceStepwise_eq hv
  case electionYear => exact electionYearStepwise_eq
  case electionDate =>
    simp only [compile, eventStepwise, anyOf_eq, ok_bind, predicate?, eventHasAny]
    cases Predicate.disj? (values.map (.eventHas "election_date")) <;> rfl
  case residentAddress => exact residentAddressStepwise_eq
  case redistrictingAffected => exact movedStepwise_eq
  case radiusFilter => exact withinStepwise_eq hv
  case exactId | electionParticipation => rfl

/-! ## Filters -/

namespace FilterSpec

/-- The constraint of one entry of a filter, step by step. Names of no dimension have none. -/
def compileEntry (spec : FilterSpec) (year : Int) (entry : String × List String) :
    Except CompileFault (Option Constraint) :=
  match Dimension.ofName? entry.1 with
  | none => .ok none
  | some d => Option.map (Constraint.mk d) <$> d.compile spec year entry.2

/-- The constraints of a filter, step by step. -/
def compile (spec : FilterSpec) (year : Int) : Except CompileFault (List Constraint) :=
  match spec.exactId? with
  | some id => .ok [⟨.exactId, .equals (.plain .registrationNumber) id⟩]
  | none => List.reduceOption <$> spec.entries.mapM (spec.compileEntry year)

theorem compileEntry_eq {entry : String × List String} (hentry : entry ∈ spec.entries) :
    spec.compileEntry year entry = .ok ((Dimension.ofName? entry.1).bind fun d =>
      (d.predicate? spec year entry.2).map fun p => ⟨d, p⟩) := by
  unfold compileEntry
  cases Dimension.ofName? entry.1 with
  | none => rfl
  | some d =>
    simp only [d.compile_eq (spec.values_ne_nil entry hentry)]
    rfl

theorem map_filterMap_sublist {g : α → Option β} {f : β → γ} {h : α → γ} {l : List α}
    (hg : ∀ a ∈ l, ∀ b, g a = some b → f b = h a) :
    ((l.filterMap g).map f).Sublist (l.map h) := by
  induction l with
  | nil => exact .slnil
  | cons a l ih =>
    have hrest := ih fun b hb => hg b (List.mem_cons_of_mem a hb)
    cases ha : g a with
    | none =>
      rw [List.filterMap_cons_none ha]
      exact hrest.cons _
    | some b =>
      rw [List.filterMap_cons_some ha, List.map_cons, hg a List.mem_cons_self b ha]
      exact hrest.cons_cons _

/-- The dimensions with a condition stand in the order of the filter. -/
theorem names_constraints_sublist (hid : spec.exactId? = none) :
    ((spec.constraints year).map fun c => c.dimension.name).Sublist spec.names := by
  unfold constraints
  simp only [hid]
  refine map_filterMap_sublist fun entry _ c hc => ?_
  obtain ⟨d, hd, hp⟩ := Option.bind_eq_some_iff.mp hc
  obtain ⟨p, -, rfl⟩ := Option.map_eq_some_iff.mp hp
  exact Dimension.ofName?_eq_some_iff.mp hd

/-- No dimension has two conditions. -/
theorem nodup_constraints (hid : spec.exactId? = none) :
    ((spec.constraints year).map Constraint.dimension).Nodup := by
  have hnames : (((spec.constraints year).map Constraint.dimension).map Dimension.name).Nodup := by
    rw [List.map_map]
    exact spec.names_nodup.sublist (names_constraints_sublist hid)
  exact hnames.of_map _

/-- Every filter is compiled without a fault, whatever its names and values are, and what comes out
are its constraints: the registration number alone where one is asked for, and otherwise at most one
condition for each dimension, in the order of the filter, for the dimensions whose values mean
something. The conditions name columns and no table, so they are the same for every alias. -/
theorem compile_eq_constraints (spec : FilterSpec) (year : Int) :
    spec.compile year = .ok (spec.constraints year) ∧
      ((∃ id, spec.exactId? = some id ∧
          spec.constraints year = [⟨.exactId, .equals (.plain .registrationNumber) id⟩]) ∨
        (spec.exactId? = none ∧
          ((spec.constraints year).map fun c => c.dimension.name).Sublist spec.names ∧
          ((spec.constraints year).map Constraint.dimension).Nodup ∧
          ∀ d, (∃ c ∈ spec.constraints year, c.dimension = d) ↔
            ∃ values, spec.get? d.name = some values ∧ d.Constrains spec values)) := by
  cases hid : spec.exactId? with
  | some id =>
    have hconstraints : spec.constraints year =
        [⟨.exactId, .equals (.plain .registrationNumber) id⟩] := by
      simp only [constraints, hid]
    refine ⟨?_, .inl ⟨id, rfl, hconstraints⟩⟩
    simp only [compile, hid, hconstraints]
  | none =>
    refine ⟨?_, .inr ⟨rfl, names_constraints_sublist hid, nodup_constraints hid,
      exists_constraint_iff hid⟩⟩
    simp only [compile, constraints, hid, mapM_eq_ok fun entry he => compileEntry_eq he]
    exact congrArg Except.ok (reduceOption_map_eq _ _)

end FilterSpec

end

end Electorate
