import Electorate.Proofs.Alternatives

/-!
# Voters who turned out and voters who sat out

A filter of election dates asks for the voters who took part in one of the elections, or for those
who sat out all of them. Between them they have every voter that the rest of the filter asks for,
also voters without a history, and no voter twice.

* `IsSatOut`: the spellings of the word that asks for voters who sat out.
* `FilterSpec.asksSatOut_iff`: only the first value counts.
* `Voter.Attends`: what is asked of the elections.
* `FilterSpec.attendance`: the dimensions that ask it, and `FilterSpec.holds_iff_attends`, what a
  filter asks beside them.
* `FilterSpec.turnout_partition`: who is selected by either of two filters that differ in this word.
-/

namespace Electorate

open Electorate.Sql Electorate.Sql.Predicate

/-- A spelling of the word: its letters in any case, with any blanks around them. -/
def IsSatOut (x : String) : Prop := Text.word x = Text.word "satOut"

/-- The voter took part in one of the elections, or sat out all of them. -/
def Voter.Attends (v : Voter) (satOut : Bool) (dates : List String) : Prop :=
  if satOut then ∀ date ∈ dates, ¬v.HasEvent "election_date" date
  else ∃ date ∈ dates, v.HasEvent "election_date" date

namespace FilterSpec

variable {w : World} {v : Voter} {year : Int} {spec a c : FilterSpec} {dates : List String}

theorem asksSatOut_iff : spec.asksSatOut = true ↔
    ∃ x, spec.first? Dimension.electionParticipation.name = some x ∧ IsSatOut x := by
  have hword : Text.word "satOut" = "satout" := by decide
  unfold asksSatOut IsSatOut
  rw [beq_iff_eq, hword]
  cases spec.first? Dimension.electionParticipation.name with
  | none => simpa using by decide
  | some x => simp [Text.word]

/-- The dimensions that say which elections are meant, and whether they are sat out. -/
def attendance : List String :=
  [Dimension.electionDate.name, Dimension.electionParticipation.name]

theorem mem_attendance_iff {d : Dimension} :
    d.name ∈ attendance ↔ d = .electionDate ∨ d = .electionParticipation := by
  simp only [attendance, List.mem_cons, List.not_mem_nil, or_false]
  constructor
  · exact Or.imp Dimension.name_injective Dimension.name_injective
  · rintro (rfl | rfl)
    · exact .inl rfl
    · exact .inr rfl

/-- A filter of election dates asks what it asks without them, and what it asks of the elections. -/
theorem holds_iff_attends {satOut : Bool} (hsat : c.asksSatOut = satOut)
    (hsame : ∀ name, name ≠ Dimension.electionParticipation.name → c.get? name = a.get? name)
    (hdates : a.get? Dimension.electionDate.name = some dates) :
    c.Holds w v year ↔ (a.without attendance).Holds w v year ∧ v.Attends satOut dates := by
  have hcdates : c.get? Dimension.electionDate.name = some dates :=
    (hsame _ (by decide)).trans hdates
  have hrest (d : Dimension) (hd : d.name ∉ attendance) :
      (a.without attendance).get? d.name = c.get? d.name := by
    rw [get?_without, if_neg hd, hsame]
    exact fun hname => hd (mem_attendance_iff.mpr (.inr (Dimension.name_injective hname)))
  have hages : (a.without attendance).has Dimension.ageRange.name =
      c.has Dimension.ageRange.name := by
    rw [Bool.eq_iff_iff, has_iff, has_iff, hrest .ageRange (by decide)]
  have hasked (d : Dimension) (hd : d = .electionDate) :
      d.Holds w v year c dates ↔ v.Attends satOut dates := by
    subst hd
    simp only [Dimension.Holds, hsat, Voter.Attends]
  have hnot (d : Dimension) (hd : d.name ∉ attendance) : d ≠ .electionDate :=
    fun he => hd (mem_attendance_iff.mpr (.inl he))
  constructor
  · intro h
    refine ⟨fun d values hget hC => ?_, ?_⟩
    · have hd : d.name ∉ attendance := by
        intro hmem
        rw [get?_without, if_pos hmem] at hget
        cases hget
      rw [hrest d hd] at hget
      rw [Dimension.constrains_congr hages] at hC
      exact (Dimension.holds_congr_of_ne (hnot d hd) _ _).mp (h d values hget hC)
    · have hmeant : Dimension.electionDate.Constrains c dates := trivial
      -- The dimension is made a variable, so that what it asks is not computed.
      generalize hd : Dimension.electionDate = d at hcdates hmeant
      exact (hasked d hd.symm).mp (h d dates hcdates hmeant)
  · rintro ⟨h, hattends⟩ d values hget hC
    by_cases hd : d.name ∈ attendance
    · rcases mem_attendance_iff.mp hd with hdate | hword
      · rw [hdate, hcdates] at hget
        obtain rfl := Option.some.inj hget
        exact (hasked d hdate).mpr hattends
      · subst hword
        exact hC.elim
    · rw [← hrest d hd] at hget
      rw [← Dimension.constrains_congr hages] at hC
      exact (Dimension.holds_congr_of_ne (hnot d hd) _ _).mp (h d values hget hC)

/-- Two filters of the same election dates differ in that one asks for voters who sat out, in any
spelling, and the other one does not. The first selects, of the voters whom the rest of the filter
asks for, those without an event of one of the dates, and the second all others of them. -/
theorem turnout_partition (a b : FilterSpec) {dates : List String} (hid : a.exactId? = none)
    (hdates : a.get? Dimension.electionDate.name = some dates)
    (hsame : ∀ name, name ≠ Dimension.electionParticipation.name → b.get? name = a.get? name)
    (hout : ∃ x, a.first? Dimension.electionParticipation.name = some x ∧ IsSatOut x)
    (hin : ∀ x, b.first? Dimension.electionParticipation.name = some x → ¬IsSatOut x)
    (w : World) (v : Voter) (year : Int) :
    ((a.predicate year).eval w v = .yes ↔
      ((a.without attendance).predicate year).eval w v = .yes ∧
        ∀ date ∈ dates, ¬v.HasEvent "election_date" date) ∧
    ((b.predicate year).eval w v = .yes ↔
      ((a.without attendance).predicate year).eval w v = .yes ∧
        ∃ date ∈ dates, v.HasEvent "election_date" date) ∧
    (((a.without attendance).predicate year).eval w v = .yes →
      ((a.predicate year).eval w v = .yes ↔ ¬(b.predicate year).eval w v = .yes)) := by
  have hrestId : (a.without attendance).exactId? = none :=
    (exactId?_congr (by rw [get?_without, if_neg (by decide)])).trans hid
  have hrest : ((a.without attendance).predicate year).eval w v = .yes ↔
      (a.without attendance).Holds w v year := selects_predicate_iff hrestId
  have hsatOut : (a.predicate year).eval w v = .yes ↔
      ((a.without attendance).predicate year).eval w v = .yes ∧
        ∀ date ∈ dates, ¬v.HasEvent "election_date" date := by
    refine (selects_predicate_iff hid).trans ?_
    rw [holds_iff_attends (asksSatOut_iff.mpr hout) (fun _ _ => rfl) hdates, hrest]
    exact Iff.rfl
  have hturnedOut : (b.predicate year).eval w v = .yes ↔
      ((a.without attendance).predicate year).eval w v = .yes ∧
        ∃ date ∈ dates, v.HasEvent "election_date" date := by
    have hnot : b.asksSatOut = false := by
      refine Bool.eq_false_iff.mpr fun h => ?_
      obtain ⟨x, hx, hspelled⟩ := asksSatOut_iff.mp h
      exact hin x hx hspelled
    have hbid : b.exactId? = none := (exactId?_congr (hsame _ (by decide))).trans hid
    refine (selects_predicate_iff hbid).trans ?_
    rw [holds_iff_attends hnot hsame hdates, hrest]
    exact Iff.rfl
  refine ⟨hsatOut, hturnedOut, fun hselected => ?_⟩
  rw [hsatOut, hturnedOut]
  simp [hselected]

/-- Voters of a county in two elections, turned out or not. -/
def countyTurnout (participation : String) : FilterSpec :=
  ofPairs [("electionDate", ["2020-11-03", "2022-11-08"]), ("county", ["Fulton"]),
    ("electionParticipation", [participation])]

/-- A voter of the county without a history sat both elections out. -/
theorem turnout_partition_noHistory :
    (countyTurnout " SATout ").exactId? = none ∧ IsSatOut " SATout " ∧ ¬IsSatOut "voted" ∧
    ((countyTurnout " SATout ").predicate 2024).eval { (default : World) with upper := Text.upper }
      { (default : Voter) with text := fun _ => some "Fulton" } = .yes ∧
    ¬((countyTurnout "voted").predicate 2024).eval { (default : World) with upper := Text.upper }
      { (default : Voter) with text := fun _ => some "Fulton" } = .yes := by
  have hid : (countyTurnout " SATout ").exactId? = none := by decide
  have hspelled : IsSatOut " SATout " := by
    show Text.word " SATout " = Text.word "satOut"
    decide
  have hother : ¬IsSatOut "voted" := by
    show ¬Text.word "voted" = Text.word "satOut"
    decide
  have hsame : ∀ name, name ≠ Dimension.electionParticipation.name →
      (countyTurnout "voted").get? name = (countyTurnout " SATout ").get? name := by
    intro name hname
    show List.lookup name [("electionDate", _), ("county", _), ("electionParticipation", _)] =
      List.lookup name [("electionDate", _), ("county", _), ("electionParticipation", _)]
    have hlast : name ≠ "electionParticipation" := hname
    simp only [lookup_cons_eq, if_neg hlast]
  have hrest : (((countyTurnout " SATout ").without attendance).predicate 2024).eval
      { (default : World) with upper := Text.upper }
      { (default : Voter) with text := fun _ => some "Fulton" } = .yes := by decide
  have h := turnout_partition (countyTurnout " SATout ") (countyTurnout "voted") hid rfl hsame
    ⟨_, rfl, hspelled⟩ (by rintro x ⟨⟩; exact hother)
    { (default : World) with upper := Text.upper }
    { (default : Voter) with text := fun _ => some "Fulton" } 2024
  have hnone : ∀ date ∈ ["2020-11-03", "2022-11-08"], ¬Voter.HasEvent
      { (default : Voter) with text := fun _ => some "Fulton" } "election_date" date := by
    rintro date - ⟨events, hevents, -⟩
    cases hevents
  have hsatOut := h.1.mpr ⟨hrest, hnone⟩
  exact ⟨hid, hspelled, hother, hsatOut, (h.2.2 hrest).mp hsatOut⟩

end FilterSpec

end Electorate
