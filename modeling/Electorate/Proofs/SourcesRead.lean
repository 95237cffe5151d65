import Electorate.Proofs.FilterMeaning

/-!
# What conditions read

A dimension is marked with the sources that its condition reads beside the plain columns of a voter.
The marks are a table of their own: what a condition reads is said by the condition.

* `Predicate.columns`, `Predicate.readsTracts`: the columns of a voter that a condition reads, and
  whether it looks up census tracts. `Predicate.eval_congr`: it is decided by these.
* `Source.IsReadBy`: a condition reads a source. `isReadBy_conj`, `isReadBy_disj?`: conditions that
  are joined read what their parts read.
* `Dimension.readsExactly`: the condition of a dimension reads the sources of the dimension and no
  others.
* `FilterSpec.sources_truthful`: the marks of all constraints of a filter are true.
-/

namespace Electorate

open Electorate.Sql Electorate.Sql.Predicate

/-! ## Columns -/

namespace Sql

/-- The column of a text that is compared. -/
def TextTerm.column : TextTerm → Column
  | plain c | upper c => .text c

namespace Predicate

/-- The columns of a voter that a condition reads, in the order in which it is written. -/
def columns : Predicate → List Column
  | always => []
  | equals t _ | oneOf t _ | like t _ => [t.column]
  | differs c _ | notBlank c => [.text c]
  | number c _ => [c.column]
  | inTract _ _ => [.text .censusTract]
  | isNull c | isNotNull c => [c]
  | votedBefore _ => [.lastVoteDate]
  | eventHas _ _ => [.votingEvents]
  | votedInYears _ => [.electionYears]
  | moved m => [.moved m]
  | inBox _ | near _ _ _ => [.geom]
  | not p => p.columns
  | and p q | or p q => p.columns ++ q.columns

/-- Whether a condition looks up the table of census tracts. -/
def readsTracts : Predicate → Bool
  | inTract _ _ => true
  | not p => p.readsTracts
  | and p q | or p q => p.readsTracts || q.readsTracts
  | _ => false

end Predicate

/-- The source that a column belongs to; plain columns belong to none. -/
def Column.sources : Column → List Source
  | geom => [.spatial]
  | votingEvents => [.votingEvents]
  | lastVoteDate | electionYears => [.derivedHistory]
  | _ => []

end Sql

/-- Two rows have the same in a column. -/
def Voter.SameIn (v v' : Voter) : Column → Prop
  | .text c => v.text c = v'.text c
  | .birthYear => v.birthYear = v'.birthYear
  | .geom => v.place = v'.place
  | .votingEvents => v.events = v'.events
  | .lastVoteDate => v.lastVote = v'.lastVote
  | .score => v.score = v'.score
  | .electionYears => v.electionYears = v'.electionYears
  | .moved m => v.moved m = v'.moved m
  | .id | .createdAt | .updatedAt => True

theorem Voter.SameIn.lacks_eq {v v' : Voter} {c : Column} (h : v.SameIn v' c) :
    v.lacks c = v'.lacks c := by
  cases c
  case id | createdAt | updatedAt => rfl
  all_goals exact congrArg Option.isNone h

theorem Voter.SameIn.eval_eq {w w' : World} {v v' : Voter} {t : TextTerm} (hw : w.upper = w'.upper)
    (h : v.SameIn v' t.column) : t.eval w v = t.eval w' v' := by
  cases t with
  | plain c => exact h
  | upper c =>
    show (v.text c).map w.upper = (v'.text c).map w'.upper
    rw [show v.text c = v'.text c from h, hw]

theorem Voter.SameIn.number_eq {v v' : Voter} {c : NumberColumn} (h : v.SameIn v' c.column) :
    v.number c = v'.number c := by
  cases c with
  | birthYear => exact congrArg (Option.map _) h
  | score => exact h

namespace Sql.Predicate

/-- A condition is decided by the columns that it reads, and by the census records if it looks them
up. -/
theorem eval_congr {p : Predicate} {w : World} {census : List CensusRecord} {v v' : Voter}
    (hcensus : p.readsTracts = true → census = w.census) (hv : ∀ c ∈ p.columns, v'.SameIn v c) :
    p.eval { w with census } v' = p.eval w v := by
  have hfirst {c : Column} {cs : List Column} (h : ∀ d ∈ c :: cs, v'.SameIn v d) :
      v'.SameIn v c := h c List.mem_cons_self
  induction p with
  | always => rfl
  | equals t value => exact congrArg (Truth.ofTest (· == value)) ((hfirst hv).eval_eq rfl)
  | oneOf t values =>
    exact congrArg (fun o => Truth.any (values.map fun value => .ofTest (· == value) o))
      ((hfirst hv).eval_eq rfl)
  | differs c value => exact congrArg (Truth.ofTest (· != value)) (hfirst hv)
  | like t pattern => exact congrArg (Truth.ofTest (Like.fits pattern)) ((hfirst hv).eval_eq rfl)
  | notBlank c =>
    exact congrArg (Truth.ofTest fun s => s.toList.any (· != ' ')) (hfirst hv)
  | number c test => exact congrArg (Truth.ofTest fun q => test.holds q) (hfirst hv).number_eq
  | inTract stat tests =>
    have htract : v'.text .censusTract = v.text .censusTract := hfirst hv
    show Truth.any ((census.filter fun r => passes tests (r.figure stat) = .yes).map fun r =>
      .ofTest (· == r.tract) (v'.text .censusTract)) = _
    rw [hcensus rfl, htract]
    rfl
  | isNull c => exact congrArg Truth.ofBool (hfirst hv).lacks_eq
  | isNotNull c => exact congrArg (fun b => Truth.ofBool !b) (hfirst hv).lacks_eq
  | votedBefore day => exact congrArg (Truth.ofTest fun d => d.before day) (hfirst hv)
  | eventHas field value =>
    exact congrArg (Truth.ofTest fun events =>
      events.contains (.list [.object [(field, .text value)]])) (hfirst hv)
  | votedInYears years =>
    exact congrArg (Truth.ofTest fun own => years.any fun year => own.contains (some year))
      (hfirst hv)
  | moved m => exact congrArg (fun o => Truth.ofBool (o == some true)) (hfirst hv)
  | inBox box => exact congrArg (Truth.ofTest (w.inBox box)) (hfirst hv)
  | near longitude latitude meters =>
    exact congrArg (Truth.ofTest (w.near longitude latitude meters)) (hfirst hv)
  | not p ih => exact congrArg Truth.not (ih hcensus hv)
  | and p q ihp ihq =>
    exact congrArg₂ Truth.and
      (ihp (fun h => hcensus (Bool.or_inl h)) fun c hc => hv c (List.mem_append_left _ hc))
      (ihq (fun h => hcensus (Bool.or_inr h)) fun c hc => hv c (List.mem_append_right _ hc))
  | or p q ihp ihq =>
    exact congrArg₂ Truth.or
      (ihp (fun h => hcensus (Bool.or_inl h)) fun c hc => hv c (List.mem_append_left _ hc))
      (ihq (fun h => hcensus (Bool.or_inr h)) fun c hc => hv c (List.mem_append_right _ hc))

end Sql.Predicate

/-! ## Sources -/

/-- A condition reads a source: it looks up census tracts, or it reads a column of the source. -/
def Source.IsReadBy (s : Source) (p : Predicate) : Prop :=
  (s = .census ∧ p.readsTracts = true) ∨ ∃ c ∈ p.columns, s ∈ c.sources

section

variable {s : Source} {p q : Predicate} {ps : List Predicate} {sources : List Source}

theorem not_isReadBy_always : ¬s.IsReadBy always := by
  rintro (⟨-, h⟩ | ⟨c, hc, -⟩)
  · cases h
  · cases hc

theorem isReadBy_and : s.IsReadBy (p.and q) ↔ s.IsReadBy p ∨ s.IsReadBy q := by
  have hcolumns : (p.and q).columns = p.columns ++ q.columns := rfl
  have htracts : (p.and q).readsTracts = (p.readsTracts || q.readsTracts) := rfl
  simp only [Source.IsReadBy, hcolumns, htracts, List.mem_append, Bool.or_eq_true, or_and_right,
    exists_or, and_or_left, or_or_or_comm]

/-- A disjunction reads what a conjunction of the same conditions does. -/
theorem isReadBy_or : s.IsReadBy (p.or q) ↔ s.IsReadBy p ∨ s.IsReadBy q := isReadBy_and

theorem isReadBy_both : s.IsReadBy (p.both q) ↔ s.IsReadBy p ∨ s.IsReadBy q := by
  unfold both
  split
  · simp only [not_isReadBy_always, false_or]
  · simp only [not_isReadBy_always, or_false]
  · exact isReadBy_and

theorem isReadBy_conj : s.IsReadBy (conj ps) ↔ ∃ p ∈ ps, s.IsReadBy p := by
  cases ps with
  | nil => simp [conj, not_isReadBy_always]
  | cons p ps => exact foldl_iff_exists (fun _ _ => isReadBy_both) p ps

theorem isReadBy_disj? (h : disj? ps = some p) : s.IsReadBy p ↔ ∃ q ∈ ps, s.IsReadBy q := by
  cases ps with
  | nil => cases h
  | cons q ps =>
    cases h
    exact foldl_iff_exists (fun _ _ => isReadBy_or) q ps

/-- The sources that a condition reads are the given ones. -/
def ReadsExactly (p : Predicate) (sources : List Source) : Prop :=
  ∀ s, Source.IsReadBy s p ↔ s ∈ sources

/-- What reads what several conditions read, reads what all of these read alike. -/
theorem ReadsExactly.of_joined (hjoin : ∀ s, Source.IsReadBy s q ↔ ∃ p ∈ ps, s.IsReadBy p)
    (hnil : ps = [] → sources = []) (h : ∀ p ∈ ps, ReadsExactly p sources) :
    ReadsExactly q sources := by
  intro s
  rw [hjoin]
  constructor
  · rintro ⟨p, hp, hs⟩
    exact (h p hp s).mp hs
  · intro hs
    have hne : ps ≠ [] := fun he => List.not_mem_nil (hnil he ▸ hs)
    obtain ⟨p, hp⟩ := List.exists_mem_of_ne_nil ps hne
    exact ⟨p, hp, (h p hp s).mpr hs⟩

theorem ReadsExactly.conj (hnil : ps = [] → sources = [])
    (h : ∀ p ∈ ps, ReadsExactly p sources) : ReadsExactly (Predicate.conj ps) sources :=
  .of_joined (fun _ => isReadBy_conj) hnil h

theorem ReadsExactly.disj? (hd : Predicate.disj? ps = some p)
    (h : ∀ q ∈ ps, ReadsExactly q sources) : ReadsExactly p sources := by
  refine .of_joined (fun _ => isReadBy_disj? hd) ?_ h
  rintro rfl
  cases hd

theorem ReadsExactly.or (hp : ReadsExactly p sources) (hq : ReadsExactly q sources) :
    ReadsExactly (p.or q) sources := by
  intro s
  rw [isReadBy_or, hp s, hq s, or_self]

theorem ReadsExactly.and (hp : ReadsExactly p sources) (hq : ReadsExactly q sources) :
    ReadsExactly (p.and q) sources := hp.or hq

/-- A condition on one column. -/
theorem readsExactly_of_columns {c : Column} (hc : p.columns = [c]) (ht : p.readsTracts = false) :
    ReadsExactly p c.sources := by
  intro s
  simp [Source.IsReadBy, hc, ht]

theorem readsExactly_text {c : TextColumn} (hc : p.columns = [.text c])
    (ht : p.readsTracts = false) : ReadsExactly p [] := readsExactly_of_columns hc ht

theorem readsExactly_equals (t : TextTerm) (value : String) :
    ReadsExactly (.equals t value) [] := by
  cases t <;> exact readsExactly_text rfl rfl

theorem readsExactly_matchText (t : TextTerm) (values : List String) :
    ReadsExactly (matchText t values) [] := by
  unfold matchText
  split <;> cases t <;> exact readsExactly_text rfl rfl

theorem readsExactly_startsWith (c : TextColumn) (stem : String) :
    ReadsExactly (startsWith c stem) [] := readsExactly_text rfl rfl

theorem readsExactly_number (c : NumberColumn) (test : NumberTest) :
    ReadsExactly (.number c test) [] := by
  cases c
  · exact readsExactly_of_columns (c := .birthYear) rfl rfl
  · exact readsExactly_of_columns (c := .score) rfl rfl

theorem readsExactly_inTract (stat : CensusStat) (tests : List NumberTest) :
    ReadsExactly (.inTract stat tests) [.census] := by
  intro s
  have hcolumns : (inTract stat tests).columns = [.text .censusTract] := rfl
  have htracts : (inTract stat tests).readsTracts = true := rfl
  simp [Source.IsReadBy, hcolumns, htracts, Column.sources]

theorem readsExactly_eventHas (field value : String) :
    ReadsExactly (.eventHas field value) [.votingEvents] :=
  readsExactly_of_columns (c := .votingEvents) rfl rfl

theorem readsExactly_eventHasAny {field : String} {values : List String}
    (h : eventHasAny field values = some p) : ReadsExactly p [.votingEvents] :=
  .disj? h <| List.forall_mem_map.mpr fun _ _ => readsExactly_eventHas _ _

theorem readsExactly_ofBracket (c : NumberColumn) (b : NumericBracket) :
    ReadsExactly (ofBracket c b) [] := by
  exact .conj (fun _ => rfl) <| List.forall_mem_map.mpr fun _ _ => readsExactly_number _ _

theorem readsExactly_ofAgeBucket (b : AgeBucket) (year : Int) :
    ReadsExactly (ofAgeBucket b year) [] := by
  unfold ofAgeBucket
  dsimp only
  split
  · exact readsExactly_number _ _
  · exact .and (readsExactly_number _ _) (readsExactly_number _ _)

theorem readsExactly_addressPart (part : AddressPart) (value : String) :
    ReadsExactly (addressPartPredicate part value) [] := by
  cases part
  case streetName => exact readsExactly_startsWith _ _
  all_goals exact readsExactly_equals _ _

theorem readsExactly_address {a : ResidentAddress} (h : a.predicate? = some p) :
    ReadsExactly p [] := by
  unfold ResidentAddress.predicate? at h
  split at h
  · cases h
  · cases h
    exact .conj (fun _ => rfl) <| List.forall_mem_map.mpr fun _ _ => readsExactly_addressPart _ _

theorem readsExactly_circle (c : Circle) : ReadsExactly c.predicate [.spatial] := by
  have hplace {q : Predicate} (hc : q.columns = [.geom]) (ht : q.readsTracts = false) :
      ReadsExactly q [.spatial] := readsExactly_of_columns hc ht
  refine .conj nofun ?_
  simp only [List.forall_mem_cons, List.not_mem_nil, false_imp_iff, implies_true, and_true]
  exact ⟨hplace rfl rfl, hplace rfl rfl, hplace rfl rfl⟩

theorem readsExactly_isNull_lastVote : ReadsExactly (.isNull .lastVoteDate) [.derivedHistory] :=
  readsExactly_of_columns (c := .lastVoteDate) rfl rfl

variable {spec : FilterSpec} {year : Int} {values : List String}

theorem readsExactly_agePredicate? {test : Comparison} {value : String}
    (h : agePredicate? spec test year value = some p) : ReadsExactly p [] := by
  unfold agePredicate? at h
  split at h
  · cases h
  · obtain ⟨age, -, rfl⟩ := Option.map_eq_some_iff.mp h
    exact readsExactly_number _ _

/-- The condition of a dimension reads the sources of the dimension and no others. -/
theorem Dimension.readsExactly {d : Dimension} (h : d.predicate? spec year values = some p) :
    ReadsExactly p d.sources := by
  cases d
  case county | countyPrecinct | municipalPrecinct | status | statusReason | party | gender | race
    | congressionalDistrict | stateSenateDistrict | stateHouseDistrict =>
    cases h
    exact readsExactly_matchText _ _
  case firstName | lastName =>
    cases h
    exact readsExactly_startsWith _ _
  case ageRange => exact .disj? h <| List.forall_mem_map.mpr fun _ _ => readsExactly_ofAgeBucket _ _
  case ageMin | ageMax => exact readsExactly_agePredicate? h
  case scoreRange => exact .disj? h <| List.forall_mem_map.mpr fun _ _ => readsExactly_ofBracket _ _
  case income | education | unemployment =>
    exact .disj? h <| List.forall_mem_map.mpr fun _ _ => readsExactly_inTract _ _
  case neverVoted =>
    simp only [predicate?] at h
    split at h
    · cases h
      exact readsExactly_isNull_lastVote
    · cases h
  case notVotedSinceYear =>
    simp only [predicate?] at h
    split at h
    · obtain ⟨-, h⟩ := Option.ite_none_right_eq_some.mp h
      cases h
      exact .or readsExactly_isNull_lastVote (readsExactly_of_columns (c := .lastVoteDate) rfl rfl)
    · cases h
  case electionYear =>
    simp only [predicate?] at h
    split at h
    · cases h
    · cases h
      exact readsExactly_of_columns (c := .electionYears) rfl rfl
  case electionType | ballotStyle | eventParty => exact readsExactly_eventHasAny h
  case voterEventMethod =>
    exact .disj? h <| List.forall_mem_map.mpr fun _ _ => readsExactly_eventHas _ _
  case electionDate =>
    obtain ⟨attended, hattended, rfl⟩ := Option.map_eq_some_iff.mp h
    have hread := readsExactly_eventHasAny hattended
    split
    · exact .or (readsExactly_of_columns (c := .votingEvents) rfl rfl) hread
    · exact hread
  case residentAddress =>
    refine .disj? h fun q hq => ?_
    obtain ⟨value, -, hvalue⟩ := List.mem_filterMap.mp hq
    obtain ⟨a, -, ha⟩ := Option.bind_eq_some_iff.mp hvalue
    exact readsExactly_address ha
  case redistrictingAffected =>
    exact .disj? h <| List.forall_mem_map.mpr fun m _ =>
      readsExactly_of_columns (c := .moved m) rfl rfl
  case radiusFilter =>
    obtain ⟨c, -, rfl⟩ := Option.map_eq_some_iff.mp h
    exact readsExactly_circle c
  case exactId | electionParticipation => cases h

/-- The condition of a constraint reads the sources of its dimension and no others. -/
theorem FilterSpec.readsExactly_of_mem_constraints {c : Constraint}
    (hc : c ∈ spec.constraints year) : ReadsExactly c.predicate c.dimension.sources := by
  cases hid : spec.exactId? with
  | some id =>
    obtain rfl : c = ⟨.exactId, .equals (.plain .registrationNumber) id⟩ := by
      simpa [constraints, hid] using hc
    exact readsExactly_equals _ _
  | none =>
    obtain ⟨values, -, hp⟩ := (mem_constraints_iff hid).mp hc
    exact Dimension.readsExactly hp

end

/-! ## Marks -/

section

variable {p : Predicate}

theorem Source.isReadBy_census : Source.census.IsReadBy p ↔ p.readsTracts = true := by
  have hno (c : Column) : Source.census ∉ c.sources := by cases c <;> simp [Column.sources]
  simp [IsReadBy, hno]

theorem Source.isReadBy_spatial : Source.spatial.IsReadBy p ↔ .geom ∈ p.columns := by
  have hcolumn (c : Column) : Source.spatial ∈ c.sources ↔ c = .geom := by
    cases c <;> simp [Column.sources]
  simp [IsReadBy, hcolumn]

theorem Source.isReadBy_votingEvents :
    Source.votingEvents.IsReadBy p ↔ .votingEvents ∈ p.columns := by
  have hcolumn (c : Column) : Source.votingEvents ∈ c.sources ↔ c = .votingEvents := by
    cases c <;> simp [Column.sources]
  simp [IsReadBy, hcolumn]

theorem Source.isReadBy_derivedHistory : Source.derivedHistory.IsReadBy p ↔
    .electionYears ∈ p.columns ∨ .lastVoteDate ∈ p.columns := by
  have hcolumn (c : Column) :
      Source.derivedHistory ∈ c.sources ↔ c = .electionYears ∨ c = .lastVoteDate := by
    cases c <;> simp [Column.sources]
  simp [IsReadBy, hcolumn, and_or_left, exists_or]

end

/-- No dimension reads both what is recorded of votes and what is derived from them. -/
theorem Dimension.not_both_histories (d : Dimension) :
    ¬(.votingEvents ∈ d.sources ∧ .derivedHistory ∈ d.sources) := by
  cases d <;> decide

/-- The marks of a constraint are true: each stands for what the condition reads, and the condition
is decided by the plain columns and by what is marked. -/
structure TruthfulSources (c : Constraint) : Prop where
  census_iff : .census ∈ c.dimension.sources ↔ c.predicate.readsTracts = true
  spatial_iff : .spatial ∈ c.dimension.sources ↔ .geom ∈ c.predicate.columns
  votingEvents_iff : .votingEvents ∈ c.dimension.sources ↔ .votingEvents ∈ c.predicate.columns
  derivedHistory_iff : .derivedHistory ∈ c.dimension.sources ↔
    .electionYears ∈ c.predicate.columns ∨ .lastVoteDate ∈ c.predicate.columns
  unmixed : ¬(.votingEvents ∈ c.predicate.columns ∧
    (.electionYears ∈ c.predicate.columns ∨ .lastVoteDate ∈ c.predicate.columns))
  /-- Rows that agree in plain columns and in what is marked are told apart by nothing. -/
  eval_eq : ∀ (w : World) (census : List CensusRecord) (v v' : Voter),
    (.census ∈ c.dimension.sources → census = w.census) →
    (∀ column : Column, column.sources ⊆ c.dimension.sources → v'.SameIn v column) →
    c.predicate.eval { w with census } v' = c.predicate.eval w v

/-- The marks of every constraint of a filter are true. -/
theorem FilterSpec.sources_truthful {spec : FilterSpec} {year : Int} {c : Constraint}
    (hc : c ∈ spec.constraints year) : TruthfulSources c := by
  have hread := readsExactly_of_mem_constraints hc
  have hevents : .votingEvents ∈ c.dimension.sources ↔ .votingEvents ∈ c.predicate.columns :=
    (hread _).symm.trans Source.isReadBy_votingEvents
  have hhistory : .derivedHistory ∈ c.dimension.sources ↔
      .electionYears ∈ c.predicate.columns ∨ .lastVoteDate ∈ c.predicate.columns :=
    (hread _).symm.trans Source.isReadBy_derivedHistory
  have hcensus : .census ∈ c.dimension.sources ↔ c.predicate.readsTracts = true :=
    (hread _).symm.trans Source.isReadBy_census
  refine ⟨hcensus, (hread _).symm.trans Source.isReadBy_spatial, hevents, hhistory, ?_, ?_⟩
  · rw [← hevents, ← hhistory]
    exact c.dimension.not_both_histories
  · intro w census v v' hrecords hsame
    refine eval_congr (fun htracts => hrecords (hcensus.mpr htracts)) fun column hcolumn => ?_
    exact hsame column fun s hs => (hread s).mp (.inr ⟨column, hcolumn, hs⟩)

/-- Whether a voter sat an election out is read in the events that are recorded, so that the derived
day of the last vote does not matter. -/
theorem FilterSpec.sources_truthful_satOut :
    ∃ p : Predicate, (⟨.electionDate, p⟩ : Constraint) ∈
        (ofPairs [("electionDate", ["2020-11-03"]),
          ("electionParticipation", ["satOut"])]).constraints 2024 ∧
      .votingEvents ∈ p.columns ∧
      p.eval default { (default : Voter) with lastVote := some (.newYear 2021) } =
        p.eval default default := by
  have hc : (⟨.electionDate,
      .or (.isNull .votingEvents) (.not (.eventHas "election_date" "2020-11-03"))⟩ : Constraint) ∈
      (ofPairs [("electionDate", ["2020-11-03"]),
        ("electionParticipation", ["satOut"])]).constraints 2024 := List.mem_singleton_self _
  have h := sources_truthful hc
  refine ⟨_, hc, h.votingEvents_iff.mp (by decide), ?_⟩
  refine h.eval_eq default _ default _ (fun _ => rfl) fun column hplain => ?_
  cases column
  case lastVoteDate =>
    have hmark : Source.derivedHistory ∈ Dimension.electionDate.sources :=
      hplain List.mem_cons_self
    exact absurd hmark (by decide)
  case id | createdAt | updatedAt => trivial
  all_goals exact rfl

end Electorate
