import Electorate.Proofs.Alternatives

/-!
# Voters who have not voted

A filter asks for the voters who never voted, or for those who have not voted since a year. The
first are among the second whatever the year is, and a later year asks for more voters.

* `Date.before_newYear_mono`: a day before one year is before every later one.
* `Voter.NotVotedSince`: no vote since the first day of a year; `Voter.NotVotedSince.mono`,
  `Voter.gained_iff`: what a later year adds.
* `FilterSpec.selects_neverVoted_iff`, `FilterSpec.selects_notVotedSince_iff`: whom the two filters
  select. A text that is no year from 1 to 9999 asks for nothing.
* `FilterSpec.notVoted_nested`: how the filters lie in one another.
-/

namespace Electorate

open Electorate.Sql Electorate.Sql.Predicate

theorem Date.before_newYear_mono {d : Date} {a b : Nat} (hab : a ≤ b)
    (h : d.before (newYear a) = true) : d.before (newYear b) = true := by
  unfold before newYear at h ⊢
  simp only [Bool.or_eq_true, Bool.and_eq_true, decide_eq_true_eq, beq_iff_eq] at h ⊢
  omega

namespace Voter

variable {v : Voter} {a b : Int}

/-- Every vote of the voter that is known is from before the first day of the year. -/
def NotVotedSince (v : Voter) (year : Int) : Prop :=
  ∀ day, v.lastVote = some day → day.before (.newYear year.toNat) = true

theorem notVotedSince_of_none (h : v.lastVote = none) : v.NotVotedSince a := by
  intro day hday
  rw [h] at hday
  cases hday

theorem NotVotedSince.mono (hab : a ≤ b) (h : v.NotVotedSince a) : v.NotVotedSince b :=
  fun day hday => Date.before_newYear_mono (Int.toNat_le_toNat hab) (h day hday)

/-- A year asks, beside the voters of an earlier one, for those whose last vote is in between. -/
theorem gained_iff : v.NotVotedSince b ∧ ¬v.NotVotedSince a ↔
    ∃ day, v.lastVote = some day ∧ day.before (.newYear a.toNat) = false ∧
      day.before (.newYear b.toNat) = true := by
  -- The last vote is one day, so that what is said of all known votes is said of it.
  have hone {day : Date} (hlast : v.lastVote = some day) (year : Int) :
      v.NotVotedSince year ↔ day.before (.newYear year.toNat) = true := by
    refine ⟨fun h => h day hlast, fun h other hother => ?_⟩
    obtain rfl := Option.some.inj (hlast.symm.trans hother)
    exact h
  constructor
  · rintro ⟨hb, ha⟩
    cases hlast : v.lastVote with
    | none => exact absurd (notVotedSince_of_none hlast) ha
    | some day =>
      rw [hone hlast] at ha hb
      exact ⟨day, rfl, Bool.eq_false_iff.mpr ha, hb⟩
  · rintro ⟨day, hlast, ha, hb⟩
    rw [hone hlast, hone hlast]
    exact ⟨hb, Bool.eq_false_iff.mp ha⟩

end Voter

namespace FilterSpec

variable {w : World} {v : Voter} {year : Int} {x s : String}

theorem selects_neverVoted_iff (hx : Text.word x = "true") :
    Selects w v ((single .neverVoted [x]).predicate year) ↔ v.lastVote = none := by
  rw [selects_single_iff (by decide) (List.cons_ne_nil x [])]
  exact ⟨fun h => h hx, fun h _ => h⟩

/-- The filter asks for the voters without a vote since the year that its text names, and for all
voters if the text names none. -/
theorem selects_notVotedSince_iff :
    Selects w v ((single .notVotedSinceYear [s]).predicate year) ↔
      ∀ since, Number.readInteger? s = some since → 1 ≤ since → since ≤ 9999 →
        v.NotVotedSince since := by
  rw [selects_single_iff (by decide) (List.cons_ne_nil s [])]
  constructor
  · intro h since hread hfirst hlast
    rcases h ⟨since, hread, hfirst, hlast⟩ with hnone | ⟨other, hother, day, hday, hbefore⟩
    · exact Voter.notVotedSince_of_none hnone
    · intro d hd
      obtain rfl := Option.some.inj (hread.symm.trans hother)
      obtain rfl := Option.some.inj (hday.symm.trans hd)
      exact hbefore
  · rintro h ⟨since, hread, hfirst, hlast⟩
    cases hvote : v.lastVote with
    | none => exact .inl hvote
    | some day => exact .inr ⟨since, hread, day, hvote, h since hread hfirst hlast day hvote⟩

/-- A text that names a year asks for the voters without a vote since then. -/
theorem selects_notVotedSince_of_read {since : Int} (hread : Number.readInteger? s = some since)
    (hfirst : 1 ≤ since) (hlast : since ≤ 9999) :
    Selects w v ((single .notVotedSinceYear [s]).predicate year) ↔ v.NotVotedSince since := by
  rw [selects_notVotedSince_iff]
  constructor
  · exact fun h => h since hread hfirst hlast
  · intro h other hother _ _
    exact Option.some.inj (hread.symm.trans hother) ▸ h

/-- The voters who never voted are those without a last vote, and they are among the voters who
have not voted since a year, whatever text stands for the year. Of two years, the later one asks for
the voters of the earlier one and for those whose last vote is between the first days of the two. -/
theorem notVoted_nested (w : World) (v : Voter) (year : Int) :
    (∀ x, Text.word x = "true" →
      (((single .neverVoted [x]).predicate year).eval w v = .yes ↔ v.lastVote = none) ∧
      ∀ s, ((single .neverVoted [x]).predicate year).eval w v = .yes →
        ((single .notVotedSinceYear [s]).predicate year).eval w v = .yes) ∧
    ∀ s t a b, Number.readInteger? s = some a → Number.readInteger? t = some b →
      1 ≤ a → a ≤ b → b ≤ 9999 →
      (((single .notVotedSinceYear [s]).predicate year).eval w v = .yes →
        ((single .notVotedSinceYear [t]).predicate year).eval w v = .yes) ∧
      ((((single .notVotedSinceYear [t]).predicate year).eval w v = .yes ∧
          ¬((single .notVotedSinceYear [s]).predicate year).eval w v = .yes) ↔
        ∃ day, v.lastVote = some day ∧ day.before (.newYear a.toNat) = false ∧
          day.before (.newYear b.toNat) = true) := by
  refine ⟨fun x hx => ⟨selects_neverVoted_iff hx, fun s h => ?_⟩, ?_⟩
  · have hnone := (selects_neverVoted_iff hx).mp h
    exact selects_notVotedSince_iff.mpr fun _ _ _ _ => Voter.notVotedSince_of_none hnone
  · intro s t a b hs ht hfirst hab hlast
    have hearlier : ((single .notVotedSinceYear [s]).predicate year).eval w v = .yes ↔
        v.NotVotedSince a := selects_notVotedSince_of_read hs hfirst (hab.trans hlast)
    have hlater : ((single .notVotedSinceYear [t]).predicate year).eval w v = .yes ↔
        v.NotVotedSince b := selects_notVotedSince_of_read ht (hfirst.trans hab) hlast
    rw [hearlier, hlater]
    exact ⟨Voter.NotVotedSince.mono hab, Voter.gained_iff⟩

/-- A voter whose last vote was on the first day of 2020 has not voted since 2021, but has since
2020. A voter without a vote is selected also where the text is no year. -/
theorem notVoted_nested_newYear :
    Text.word " TRUE " = "true" ∧
    ((single .neverVoted [" TRUE "]).predicate 2024).eval default default = .yes ∧
    ((single .notVotedSinceYear ["20x0"]).predicate 2024).eval default default = .yes ∧
    Number.readInteger? "2020" = some 2020 ∧ Number.readInteger? " 2_021" = some 2021 ∧
    ((single .notVotedSinceYear [" 2_021"]).predicate 2024).eval default
      { (default : Voter) with lastVote := some ⟨2020, 1, 1⟩ } = .yes ∧
    ¬((single .notVotedSinceYear ["2020"]).predicate 2024).eval default
      { (default : Voter) with lastVote := some ⟨2020, 1, 1⟩ } = .yes := by
  have hword : Text.word " TRUE " = "true" := by decide
  have hnever := (notVoted_nested default default 2024).1 " TRUE " hword
  have hnone : ((single .neverVoted [" TRUE "]).predicate 2024).eval default default = .yes :=
    hnever.1.mpr rfl
  have hearlier : Number.readInteger? "2020" = some 2020 := by decide
  have hlater : Number.readInteger? " 2_021" = some 2021 := by decide
  have hyears := (notVoted_nested default
    { (default : Voter) with lastVote := some ⟨2020, 1, 1⟩ } 2024).2 _ _ _ _ hearlier hlater
    (by decide) (by decide) (by decide)
  have hgained := hyears.2.mpr ⟨⟨2020, 1, 1⟩, rfl, by decide, by decide⟩
  exact ⟨hword, hnone, hnever.2 "20x0" hnone, hearlier, hlater, hgained⟩

end FilterSpec

end Electorate
