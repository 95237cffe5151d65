import Electorate.Proofs.FilterSpec
import Electorate.Proofs.Meaning

/-!
# The meaning of filters

What a filter asks of a voter, dimension by dimension, and that its condition in SQL asks no more
and no less.

* `Dimension.Constrains`: the values of the dimension mean something.
* `Dimension.Holds`: what they mean, said of the row and the tables beside it.
* `Means`: a condition that is there exactly where values mean something, and then selects the rows
  that they mean. Each way to build the condition of a dimension has one lemma of this form.
* `Dimension.means_predicate?`: the condition of each dimension means what the dimension does.
* `FilterSpec.eval_predicate_eq_yes_iff`: a filter is true of a row exactly if all dimensions that
  constrain hold of it.
-/

namespace Electorate

open Electorate.Sql Electorate.Sql.Predicate

/-- A value as a word: blanks around it dropped, in lower case. -/
def Text.word (s : String) : String := lowerAscii (strip s)

/-! ## What can be said of a row -/

namespace Voter

variable (v : Voter) (w : World)

/-- The column has one of the values. -/
def HasText (c : TextColumn) (values : List String) : Prop := ∃ s, v.text c = some s ∧ s ∈ values

/-- The column has one of the values, upper case on both sides. -/
def HasFolded (c : TextColumn) (values : List String) : Prop :=
  ∃ s, v.text c = some s ∧ ∃ x ∈ values, w.upper s = Text.upper x

/-- The column starts with a text, upper case on both sides. -/
def Starts (c : TextColumn) (stem : String) : Prop :=
  ∃ s, v.text c = some s ∧ (Text.upper stem).toList <+: (w.upper s).toList

/-- An event of the voter has the text in the field. -/
def HasEvent (field value : String) : Prop :=
  ∃ events, v.events = some events ∧ events.HasEvent field value

/-- Some record of the voter's tract has a figure in the bracket. -/
def InTract (stat : CensusStat) (b : NumericBracket) : Prop :=
  ∃ r ∈ w.census, v.text .censusTract = some r.tract ∧
    ∃ q, r.figure stat = some q ∧ b.contains (.real q) = true

/-- One part of the residence is as given: the street name starts with the text, house number and
postal code are the text, and the others are its equal in upper case. -/
def ResidesAt (part : AddressPart) (value : String) : Prop :=
  match part with
  | .streetName => v.Starts w (.residence part) value
  | .streetNumber | .zipcode => v.text (.residence part) = some value
  | _ => ∃ s, v.text (.residence part) = some s ∧ w.upper s = Text.upper value

/-- All parts of the address that are not empty are as given. -/
def LivesAt (a : ResidentAddress) : Prop :=
  ∀ part, a.part part ≠ "" → v.ResidesAt w part (a.part part)

/-- The voter has a place, and it lies in the circle. -/
def Within (c : Circle) : Prop :=
  ∃ p, v.place = some p ∧ w.inBox c.boundingBox p = true ∧
    w.near c.longitude.toFloat c.latitude.toFloat c.radiusMeters p = true

end Voter

/-- A word means a district move: `any` means all of them. -/
def MeansMove (word : String) (m : DistrictMove) : Prop := word = "any" ∨ m ∈ movesNamed word

/-! ## What a dimension asks -/

namespace Dimension

/-- The values of a dimension mean something, so that it constrains. A range of ages takes the place
of single ages. -/
def Constrains (d : Dimension) (spec : FilterSpec) (values : List String) : Prop :=
  let first := values.headD ""
  match d with
  | .ageRange => ∃ x ∈ values, (findAgeBucket? x).isSome
  | .ageMin | .ageMax => spec.has Dimension.ageRange.name = false ∧
      (Number.readInteger? first).isSome
  | .scoreRange => ∃ x ∈ values, (findBracket? scoreRanges x).isSome
  | .income => ∃ x ∈ values, (findBracket? incomeBrackets x).isSome
  | .education => ∃ x ∈ values, (findBracket? educationBrackets x).isSome
  | .unemployment => ∃ x ∈ values, (findBracket? unemploymentBrackets x).isSome
  | .neverVoted => Text.word first = "true"
  | .notVotedSinceYear => ∃ since, Number.readInteger? first = some since ∧
      1 ≤ since ∧ since ≤ 9999
  | .electionYear => ∃ x ∈ values, (Number.readInteger? x).isSome
  | .voterEventMethod => ∃ x ∈ values, Text.word x ∈ eventMethods
  | .residentAddress => ∃ x ∈ values, ∃ a, ResidentAddress.ofParam? x = some a ∧
      a.isEmpty = false
  | .redistrictingAffected => ∃ x ∈ values, ∃ m, MeansMove (Text.word x) m
  | .radiusFilter => ∃ c, Circle.ofParam first = .ok c
  | .exactId | .electionParticipation => False
  | _ => True

/-- What the values of a dimension ask of a row. -/
def Holds (d : Dimension) (w : World) (v : Voter) (year : Int) (spec : FilterSpec)
    (values : List String) : Prop :=
  let first := values.headD ""
  match d with
  | .county => v.HasFolded w .countyName values
  | .congressionalDistrict => v.HasText .congressionalDistrict values
  | .stateSenateDistrict => v.HasText .stateSenateDistrict values
  | .stateHouseDistrict => v.HasText .stateHouseDistrict values
  | .countyPrecinct => v.HasFolded w .countyPrecinct values
  | .municipalPrecinct => v.HasFolded w .municipalPrecinct values
  | .status => v.HasFolded w .status values
  | .statusReason => v.HasFolded w .statusReason values
  | .party => v.HasFolded w .lastPartyVoted values
  | .gender => v.HasFolded w .gender values
  | .race => v.HasFolded w .race (values.map raceStoreValue)
  | .firstName => v.Starts w .firstName first
  | .lastName => v.Starts w .lastName first
  | .ageRange => ∃ x ∈ values, ∃ b, findAgeBucket? x = some b ∧
      ∃ born, v.birthYear = some born ∧ b.Covers year born
  | .ageMin => ∃ age, Number.readInteger? first = some age ∧
      ∃ born, v.birthYear = some born ∧ born ≤ year - age
  | .ageMax => ∃ age, Number.readInteger? first = some age ∧
      ∃ born, v.birthYear = some born ∧ year - age ≤ born
  | .scoreRange => ∃ x ∈ values, ∃ b, findBracket? scoreRanges x = some b ∧
      ∃ q, v.score = some q ∧ b.contains (.real q) = true
  | .income => ∃ x ∈ values, ∃ b, findBracket? incomeBrackets x = some b ∧
      v.InTract w .medianIncome b
  | .education => ∃ x ∈ values, ∃ b, findBracket? educationBrackets x = some b ∧
      v.InTract w .bachelorsShare b
  | .unemployment => ∃ x ∈ values, ∃ b, findBracket? unemploymentBrackets x = some b ∧
      v.InTract w .unemploymentRate b
  | .neverVoted => v.lastVote = none
  | .notVotedSinceYear => v.lastVote = none ∨ ∃ since, Number.readInteger? first = some since ∧
      ∃ day, v.lastVote = some day ∧ day.before (.newYear since.toNat) = true
  | .electionYear => ∃ own, v.electionYears = some own ∧
      ∃ x ∈ values, ∃ n, Number.readInteger? x = some n ∧ some n ∈ own
  | .electionType => ∃ x ∈ values, v.HasEvent "election_type" (Text.upper x)
  | .ballotStyle => ∃ x ∈ values, v.HasEvent "ballot_style" x
  | .eventParty => ∃ x ∈ values, v.HasEvent "party" (Text.upper x)
  | .voterEventMethod => ∃ x ∈ values, Text.word x ∈ eventMethods ∧
      v.HasEvent (Text.word x) "Y"
  | .electionDate =>
    if spec.asksSatOut then ∀ x ∈ values, ¬v.HasEvent "election_date" x
    else ∃ x ∈ values, v.HasEvent "election_date" x
  | .residentAddress => ∃ x ∈ values, ∃ a, ResidentAddress.ofParam? x = some a ∧
      a.isEmpty = false ∧ v.LivesAt w a
  | .redistrictingAffected => ∃ x ∈ values, ∃ m, MeansMove (Text.word x) m ∧
      v.moved m = some true
  | .radiusFilter => ∃ c, Circle.ofParam first = .ok c ∧ v.Within w c
  | .exactId | .electionParticipation => True

end Dimension

/-! ## Conditions that mean something -/

/-- A condition is there exactly if `C` holds, and then selects the row exactly if `H` holds. -/
structure Means (w : World) (v : Voter) (o : Option Predicate) (C H : Prop) : Prop where
  isSome_iff : o.isSome ↔ C
  selects_iff : ∀ p, o = some p → (Selects w v p ↔ H)

namespace Means

variable {w : World} {v : Voter} {C H : Prop}

theorem of_selects {p : Predicate} (h : Selects w v p ↔ H) : Means w v (some p) True H where
  isSome_iff := by simp
  selects_iff := by rintro _ ⟨⟩; exact h

/-- A disjunction over a list of conditions. -/
theorem disj? {ps : List Predicate} (hC : (∃ p, p ∈ ps) ↔ C)
    (hH : (∃ p ∈ ps, Selects w v p) ↔ H) : Means w v (disj? ps) C H where
  isSome_iff := by
    rw [← hC, Option.isSome_iff_ne_none, ne_eq, disj?_eq_none, List.eq_nil_iff_forall_not_mem]
    exact Classical.not_forall_not
  selects_iff := fun _ hp => (selects_disj? hp).trans hH

theorem congr {o : Option Predicate} {C' H' : Prop} (h : Means w v o C H) (hC : C ↔ C')
    (hH : H ↔ H') : Means w v o C' H' where
  isSome_iff := h.isSome_iff.trans hC
  selects_iff := fun p hp => (h.selects_iff p hp).trans hH

/-- A disjunction over a list that is known by its members. -/
theorem disj?_map {l : List α} {p : α → Predicate} {R K : α → Prop} (hl : ∀ a, a ∈ l ↔ R a)
    (h : ∀ a, R a → (Selects w v (p a) ↔ K a)) :
    Means w v (Predicate.disj? (l.map p)) (∃ a, R a) (∃ a, R a ∧ K a) := by
  apply disj?
  · constructor
    · rintro ⟨_, hp⟩
      obtain ⟨a, ha, rfl⟩ := List.mem_map.mp hp
      exact ⟨a, (hl a).mp ha⟩
    · rintro ⟨a, ha⟩
      exact ⟨p a, List.mem_map.mpr ⟨a, (hl a).mpr ha, rfl⟩⟩
  · constructor
    · rintro ⟨_, hp, hs⟩
      obtain ⟨a, ha, rfl⟩ := List.mem_map.mp hp
      have hR : R a := (hl a).mp ha
      exact ⟨a, hR, (h a hR).mp hs⟩
    · rintro ⟨a, ha, hk⟩
      have hmem : p a ∈ l.map p := List.mem_map.mpr ⟨a, (hl a).mpr ha, rfl⟩
      exact ⟨p a, hmem, (h a ha).mpr hk⟩

/-- A disjunction over the values that can be read. -/
theorem disj?_read {values : List String} {read : String → Option α} {p : α → Predicate}
    {K : α → Prop} (h : ∀ x a, read x = some a → (Selects w v (p a) ↔ K a)) :
    Means w v (Predicate.disj? ((values.filterMap read).map p))
      (∃ x ∈ values, (read x).isSome) (∃ x ∈ values, ∃ a, read x = some a ∧ K a) := by
  have hm := disj?_map (w := w) (v := v) (K := K) (p := p) (fun _ => List.mem_filterMap)
    (l := values.filterMap read) fun a ⟨x, _, hr⟩ => h x a hr
  refine hm.congr ?_ ?_
  · constructor
    · rintro ⟨a, x, hx, hr⟩
      exact ⟨x, hx, Option.isSome_of_eq_some hr⟩
    · rintro ⟨x, hx, hr⟩
      obtain ⟨a, ha⟩ := Option.isSome_iff_exists.mp hr
      exact ⟨a, x, hx, ha⟩
  · constructor
    · rintro ⟨a, ⟨x, hx, hr⟩, hk⟩
      exact ⟨x, hx, a, hr, hk⟩
    · rintro ⟨x, hx, a, hr, hk⟩
      exact ⟨a, ⟨x, hx, hr⟩, hk⟩

end Means

/-! ## The dimensions -/

section

variable {w : World} {v : Voter} {spec : FilterSpec} {year : Int} {values : List String}

theorem isRational_of_findBracket? {table : List NumericBracket}
    (h : ∀ b ∈ table, b.isRational = true) {x : String} {b : NumericBracket}
    (hb : findBracket? table x = some b) : b.isRational = true :=
  h b (List.mem_of_find?_eq_some hb)

theorem means_tractPredicate {stat : CensusStat} {table : List NumericBracket}
    (h : ∀ b ∈ table, b.isRational = true) :
    Means w v (tractPredicate stat table values)
      (∃ x ∈ values, (findBracket? table x).isSome)
      (∃ x ∈ values, ∃ b, findBracket? table x = some b ∧ v.InTract w stat b) :=
  Means.disj?_read fun _ _ hb => selects_inTract (isRational_of_findBracket? h hb)

/-- The first of several ages as a bound on the birth year. -/
theorem means_agePredicate? {test : Comparison} {first : String} {K : Int → Int → Prop}
    (h : ∀ born bound : Int, test.holds born (.int bound) = true ↔ K born bound) :
    Means w v (agePredicate? spec test year first)
      (spec.has Dimension.ageRange.name = false ∧ (Number.readInteger? first).isSome)
      (∃ age, Number.readInteger? first = some age ∧
        ∃ born, v.birthYear = some born ∧ K born (year - age)) := by
  unfold agePredicate?
  cases spec.has Dimension.ageRange.name with
  | true => exact ⟨by simp, by simp⟩
  | false =>
    refine ⟨by simp, ?_⟩
    intro p hp
    obtain ⟨age, ha, rfl⟩ := Option.map_eq_some_iff.mp hp
    simp only [selects_birthYear, h, ha, Option.some.injEq, exists_eq_left']

theorem means_eventHasAny {field : String} (hv : values ≠ []) (f : String → String) :
    Means w v (eventHasAny field (values.map f)) True
      (∃ x ∈ values, v.HasEvent field (f x)) := by
  apply Means.disj?
  · simpa using List.exists_mem_of_ne_nil values hv
  · simp only [List.map_map, List.mem_map, Function.comp_apply, exists_exists_and_eq_and,
      selects_eventHas]
    exact Iff.rfl

theorem means_eventHasAny_self {field : String} (hv : values ≠ []) :
    Means w v (eventHasAny field values) True (∃ x ∈ values, v.HasEvent field x) := by
  have h : Means w v (eventHasAny field (values.map id)) _ _ := means_eventHasAny hv id
  rwa [List.map_id] at h

/-- Sitting an election out is the negation of the whole disjunction. -/
theorem means_electionDate (hv : values ≠ []) :
    Means w v (Dimension.electionDate.predicate? spec year values) True
      (Dimension.electionDate.Holds w v year spec values) := by
  have hm : Means w v (eventHasAny "election_date" values) _ _ := means_eventHasAny_self hv
  obtain ⟨attended, ha⟩ := Option.isSome_iff_exists.mp (hm.isSome_iff.mpr trivial)
  unfold Dimension.predicate? Dimension.Holds
  simp only [ha, Option.map_some]
  apply Means.of_selects
  cases spec.asksSatOut with
  | false => exact hm.selects_iff attended ha
  | true =>
    -- A voter without events is selected by the first side, all others by the negation.
    simp only [if_true, selects_or, selects_isNull, selects_not, rejects_disj? ha,
      List.forall_mem_map, rejects_eventHas, Voter.lacks, Voter.HasEvent]
    cases v.events with
    | none => simp
    | some events => simp

theorem means_voterEventMethod :
    Means w v (Dimension.voterEventMethod.predicate? spec year values)
      (Dimension.voterEventMethod.Constrains spec values)
      (Dimension.voterEventMethod.Holds w v year spec values) := by
  have hl (word : String) :
      word ∈ (distinct (values.map Text.word)).filter (eventMethods.contains ·) ↔
        (∃ x ∈ values, Text.word x = word) ∧ word ∈ eventMethods := by
    simp only [List.mem_filter, mem_distinct, List.mem_map, List.contains_iff_mem]
  refine (Means.disj?_map hl fun word _ => selects_eventHas).congr ?_ ?_
  · constructor
    · rintro ⟨_, ⟨x, hx, rfl⟩, hm⟩
      exact ⟨x, hx, hm⟩
    · rintro ⟨x, hx, hm⟩
      exact ⟨_, ⟨x, hx, rfl⟩, hm⟩
  · constructor
    · rintro ⟨_, ⟨⟨x, hx, rfl⟩, hm⟩, he⟩
      exact ⟨x, hx, hm, he⟩
    · rintro ⟨x, hx, hm, he⟩
      exact ⟨_, ⟨⟨x, hx, rfl⟩, hm⟩, he⟩

/-! ### First values -/

theorem means_neverVoted :
    Means w v (Dimension.neverVoted.predicate? spec year values)
      (Dimension.neverVoted.Constrains spec values)
      (Dimension.neverVoted.Holds w v year spec values) := by
  unfold Dimension.predicate? Dimension.Constrains Dimension.Holds Text.word
  dsimp only
  generalize Text.lowerAscii (Text.strip (values.headD "")) = word
  by_cases h : word = "true"
  · have hs : Selects w v (.isNull .lastVoteDate) ↔ v.lastVote = none := by
      simp [selects_isNull, Voter.lacks]
    rw [if_pos h]
    exact (Means.of_selects hs).congr (by simp [h]) Iff.rfl
  · rw [if_neg h]
    exact ⟨by simp [h], by simp⟩

theorem means_notVotedSinceYear :
    Means w v (Dimension.notVotedSinceYear.predicate? spec year values)
      (Dimension.notVotedSinceYear.Constrains spec values)
      (Dimension.notVotedSinceYear.Holds w v year spec values) := by
  unfold Dimension.predicate? Dimension.Constrains Dimension.Holds
  dsimp only
  cases Number.readInteger? (values.headD "") with
  | none => exact ⟨by simp, by simp⟩
  | some since =>
    dsimp only
    split
    -- A year in the calendar has a first day, with which the last vote is compared.
    · next h =>
      have hs : Selects w v (.or (.isNull .lastVoteDate) (.votedBefore (.newYear since.toNat))) ↔
          v.lastVote = none ∨
            ∃ day, v.lastVote = some day ∧ day.before (.newYear since.toNat) = true := by
        simp [selects_or, selects_isNull, selects_votedBefore, Voter.lacks]
      exact (Means.of_selects hs).congr (by simp [h]) (by simp)
    · next h => exact ⟨by simpa using h, by simp⟩

theorem means_electionYear :
    Means w v (Dimension.electionYear.predicate? spec year values)
      (Dimension.electionYear.Constrains spec values)
      (Dimension.electionYear.Holds w v year spec values) := by
  have hy : Dimension.electionYear.predicate? spec year values =
      if values.filterMap Number.readInteger? = [] then none
      else some (.votedInYears (values.filterMap Number.readInteger?)) := by
    unfold Dimension.predicate?
    cases values.filterMap Number.readInteger? <;> rfl
  rw [hy]
  constructor
  · simp [Dimension.Constrains, Option.isSome_iff_ne_none]
  · intro p hp
    split at hp
    · cases hp
    · cases hp
      simp only [selects_votedInYears, Dimension.Holds, List.mem_filterMap]
      refine exists_congr fun own => and_congr_right fun _ => ?_
      constructor
      · rintro ⟨n, ⟨x, hx, hn⟩, hm⟩
        exact ⟨x, hx, n, hn, hm⟩
      · rintro ⟨x, hx, n, hn, hm⟩
        exact ⟨n, ⟨x, hx, hn⟩, hm⟩

theorem means_radiusFilter :
    Means w v (Dimension.radiusFilter.predicate? spec year values)
      (Dimension.radiusFilter.Constrains spec values)
      (Dimension.radiusFilter.Holds w v year spec values) := by
  unfold Dimension.predicate? Dimension.Constrains Dimension.Holds
  dsimp only
  cases Circle.ofParam (values.headD "") with
  | error e => exact ⟨by simp [Except.toOption], by simp [Except.toOption]⟩
  | ok c => exact (Means.of_selects selects_circle).congr (by simp) (by simp [Voter.Within])

/-! ### Addresses -/

theorem selects_addressPartPredicate {part : AddressPart} {value : String} :
    Selects w v (addressPartPredicate part value) ↔ v.ResidesAt w part value := by
  cases part
  case streetName => exact selects_startsWith
  case streetNumber | zipcode => exact selects_equals
  all_goals exact selects_equals.trans Option.map_eq_some_iff

theorem mem_presentParts {a : ResidentAddress} {part : AddressPart} {s : String} :
    (part, s) ∈ a.presentParts ↔ a.part part = s ∧ s ≠ "" := by
  unfold ResidentAddress.presentParts
  simp [List.mem_filter, AddressPart.mem_all]

theorem selects_address {a : ResidentAddress} {p : Predicate} (h : a.predicate? = some p) :
    Selects w v p ↔ v.LivesAt w a := by
  unfold ResidentAddress.predicate? at h
  split at h
  · cases h
  · cases h
    simp only [selects_conj, List.forall_mem_map, Voter.LivesAt]
    constructor
    · intro hs part hp
      exact selects_addressPartPredicate.mp (hs (part, _) (mem_presentParts.mpr ⟨rfl, hp⟩))
    · rintro hl ⟨part, s⟩ hm
      obtain ⟨rfl, hp⟩ := mem_presentParts.mp hm
      exact selects_addressPartPredicate.mpr (hl part hp)

theorem isSome_address {a : ResidentAddress} : a.predicate?.isSome ↔ a.isEmpty = false := by
  unfold ResidentAddress.predicate?
  cases a.isEmpty <;> simp

theorem means_residentAddress :
    Means w v (Dimension.residentAddress.predicate? spec year values)
      (Dimension.residentAddress.Constrains spec values)
      (Dimension.residentAddress.Holds w v year spec values) := by
  have h : Means w v (disj? ((values.filterMap fun x =>
      (ResidentAddress.ofParam? x).bind (·.predicate?)).map id)) _ _ :=
    Means.disj?_read fun _ _ _ => Iff.rfl
  rw [List.map_id] at h
  refine h.congr ?_ ?_
  · simp only [Option.isSome_bind, Option.any_eq_true, isSome_address]
    exact Iff.rfl
  · constructor
    · rintro ⟨x, hx, p, hp, hs⟩
      obtain ⟨a, ha, hp⟩ := Option.bind_eq_some_iff.mp hp
      have he : a.isEmpty = false := isSome_address.mp (Option.isSome_of_eq_some hp)
      exact ⟨x, hx, a, ha, he, (selects_address hp).mp hs⟩
    · rintro ⟨x, hx, a, ha, he, hl⟩
      obtain ⟨p, hp⟩ := Option.isSome_iff_exists.mp (isSome_address.mpr he)
      have hread : (ResidentAddress.ofParam? x).bind (·.predicate?) = some p := by
        rw [ha, Option.bind_some, hp]
      exact ⟨x, hx, p, hread, (selects_address hp).mpr hl⟩

/-! ### District moves -/

theorem mem_moves {m : DistrictMove} :
    m ∈ (if (values.map Text.word).contains "any" then allMoves
      else distinct ((values.map Text.word).flatMap movesNamed)) ↔
        ∃ x ∈ values, MeansMove (Text.word x) m := by
  unfold MeansMove
  split
  · next h =>
    obtain ⟨x, hx, he⟩ := List.mem_map.mp (List.contains_iff_mem.mp h)
    have hm : m ∈ allMoves := by cases m <;> decide
    exact ⟨fun _ => ⟨x, hx, .inl he⟩, fun _ => hm⟩
  · next h =>
    simp only [List.contains_iff_mem, List.mem_map, not_exists, not_and] at h
    simp only [mem_distinct, List.mem_flatMap, List.mem_map, exists_exists_and_eq_and]
    constructor
    · rintro ⟨x, hx, hm⟩
      exact ⟨x, hx, .inr hm⟩
    · rintro ⟨x, hx, he | hm⟩
      · exact absurd he (h x hx)
      · exact ⟨x, hx, hm⟩

theorem means_redistrictingAffected :
    Means w v (Dimension.redistrictingAffected.predicate? spec year values)
      (Dimension.redistrictingAffected.Constrains spec values)
      (Dimension.redistrictingAffected.Holds w v year spec values) := by
  refine (Means.disj?_map (fun _ => mem_moves) fun m _ => selects_moved).congr ?_ ?_
  · constructor
    · rintro ⟨m, x, hx, hm⟩
      exact ⟨x, hx, m, hm⟩
    · rintro ⟨x, hx, m, hm⟩
      exact ⟨m, x, hx, hm⟩
  · constructor
    · rintro ⟨m, ⟨x, hx, hm⟩, hs⟩
      exact ⟨x, hx, m, hm, hs⟩
    · rintro ⟨x, hx, m, hm, hs⟩
      exact ⟨m, ⟨x, hx, hm⟩, hs⟩

/-- The condition of each dimension means what the dimension does. -/
theorem Dimension.means_predicate? (d : Dimension) (hv : values ≠ []) :
    Means w v (d.predicate? spec year values) (d.Constrains spec values)
      (d.Holds w v year spec values) := by
  cases d
  case county | countyPrecinct | municipalPrecinct | status | statusReason | party | gender |
      race => exact Means.of_selects selects_matchFolded
  case congressionalDistrict | stateSenateDistrict | stateHouseDistrict =>
    exact Means.of_selects selects_matchText
  case firstName | lastName => exact Means.of_selects selects_startsWith
  case ageRange => exact Means.disj?_read fun _ _ _ => selects_ofAgeBucket
  case ageMin => exact means_agePredicate? fun _ _ => holds_atMost
  case ageMax => exact means_agePredicate? fun _ _ => holds_atLeast
  case scoreRange =>
    exact Means.disj?_read fun _ _ hb =>
      selects_ofBracket (isRational_of_findBracket? (by decide) hb)
  case income | education | unemployment => exact means_tractPredicate (by decide)
  case neverVoted => exact means_neverVoted
  case notVotedSinceYear => exact means_notVotedSinceYear
  case electionYear => exact means_electionYear
  case electionType | eventParty => exact means_eventHasAny hv Text.upper
  case ballotStyle => exact means_eventHasAny_self hv
  case voterEventMethod => exact means_voterEventMethod
  case electionDate => exact means_electionDate hv
  case residentAddress => exact means_residentAddress
  case redistrictingAffected => exact means_redistrictingAffected
  case radiusFilter => exact means_radiusFilter
  case exactId | electionParticipation =>
    exact ⟨by simp [predicate?, Constrains], by simp [predicate?]⟩

/-- Whether the values mean something depends neither on the row nor on the year. -/
theorem Dimension.isSome_predicate?_iff (d : Dimension) (hv : values ≠ []) :
    (d.predicate? spec year values).isSome ↔ d.Constrains spec values :=
  (d.means_predicate? (w := default) (v := default) hv).isSome_iff

/-! ## Filters -/

namespace FilterSpec

/-- A constraint of a filter is the condition of a dimension that the filter has. -/
theorem mem_constraints_iff (hid : spec.exactId? = none) {c : Constraint} :
    c ∈ spec.constraints year ↔ ∃ values, spec.get? c.dimension.name = some values ∧
      c.dimension.predicate? spec year values = some c.predicate := by
  unfold constraints
  simp only [hid, List.mem_filterMap, Option.bind_eq_some_iff, Option.map_eq_some_iff,
    Dimension.ofName?_eq_some_iff, Prod.exists]
  constructor
  · rintro ⟨name, values, he, d, hd, p, hp, rfl⟩
    exact ⟨values, get?_eq_some_iff.mpr (hd ▸ he), hp⟩
  · rintro ⟨values, hg, hp⟩
    exact ⟨_, values, get?_eq_some_iff.mp hg, c.dimension, rfl, c.predicate, hp, rfl⟩

/-- The dimensions with a condition are those that constrain. -/
theorem exists_constraint_iff (hid : spec.exactId? = none) (d : Dimension) :
    (∃ c ∈ spec.constraints year, c.dimension = d) ↔
      ∃ values, spec.get? d.name = some values ∧ d.Constrains spec values := by
  constructor
  · rintro ⟨c, hc, rfl⟩
    obtain ⟨values, hg, hp⟩ := (mem_constraints_iff hid).mp hc
    exact ⟨values, hg, (c.dimension.isSome_predicate?_iff (ne_nil_of_get? hg)).mp
      (Option.isSome_of_eq_some hp)⟩
  · rintro ⟨values, hg, hC⟩
    obtain ⟨p, hp⟩ := Option.isSome_iff_exists.mp
      ((d.isSome_predicate?_iff (ne_nil_of_get? hg)).mpr hC)
    exact ⟨⟨d, p⟩, (mem_constraints_iff hid).mpr ⟨values, hg, hp⟩, rfl⟩

/-- Every dimension that constrains holds of the row. -/
def Holds (spec : FilterSpec) (w : World) (v : Voter) (year : Int) : Prop :=
  ∀ d values, spec.get? d.name = some values → Dimension.Constrains d spec values →
    d.Holds w v year spec values

theorem selects_predicate_iff (hid : spec.exactId? = none) :
    Selects w v (spec.predicate year) ↔ spec.Holds w v year := by
  unfold predicate
  rw [selects_conj, List.forall_mem_map]
  constructor
  · intro h d values hg hC
    have hm : Means w v (d.predicate? spec year values) _ _ :=
      d.means_predicate? (ne_nil_of_get? hg)
    obtain ⟨p, hp⟩ := Option.isSome_iff_exists.mp (hm.isSome_iff.mpr hC)
    exact (hm.selects_iff p hp).mp (h ⟨d, p⟩ ((mem_constraints_iff hid).mpr ⟨values, hg, hp⟩))
  · intro h c hc
    obtain ⟨values, hg, hp⟩ := (mem_constraints_iff hid).mp hc
    have hm : Means w v (c.dimension.predicate? spec year values) _ _ :=
      c.dimension.means_predicate? (ne_nil_of_get? hg)
    exact (hm.selects_iff _ hp).mpr (h _ _ hg (hm.isSome_iff.mp (Option.isSome_of_eq_some hp)))

/-- A filter without a registration number is true of a row exactly if every dimension that
constrains holds of it, and the dimensions that constrain are those whose values mean something. -/
theorem eval_predicate_eq_yes_iff (spec : FilterSpec) (hid : spec.exactId? = none) (w : World)
    (v : Voter) (year : Int) :
    ((spec.predicate year).eval w v = .yes ↔
      ∀ d values, spec.get? d.name = some values → Dimension.Constrains d spec values →
        d.Holds w v year spec values) ∧
    ∀ d, (∃ c ∈ spec.constraints year, c.dimension = d) ↔
      ∃ values, spec.get? d.name = some values ∧ d.Constrains spec values :=
  ⟨selects_predicate_iff hid, exists_constraint_iff hid⟩

/-- The filter of voters who never voted, with an age that cannot be read, on an empty row. -/
theorem eval_predicate_neverVoted :
    (ofPairs [("ageMin", ["old"]), ("neverVoted", [" True "])]).exactId? = none ∧
    ((ofPairs [("ageMin", ["old"]), ("neverVoted", [" True "])]).predicate 2024).eval
      default default = .yes ∧
    Dimension.neverVoted.Holds default default 2024
      (ofPairs [("ageMin", ["old"]), ("neverVoted", [" True "])]) [" True "] := by
  have hid : (ofPairs [("ageMin", ["old"]), ("neverVoted", [" True "])]).exactId? = none := by
    decide
  have hy : ((ofPairs [("ageMin", ["old"]), ("neverVoted", [" True "])]).predicate 2024).eval
      default default = .yes := by decide
  have hm := (eval_predicate_eq_yes_iff _ hid default default 2024).1.mp hy
  exact ⟨hid, hy, hm .neverVoted _ (by decide) (show Text.word " True " = "true" by decide)⟩

end FilterSpec

end

end Electorate
