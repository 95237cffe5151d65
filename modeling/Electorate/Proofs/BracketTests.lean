import Electorate.Proofs.BracketTables
import Electorate.Proofs.Meaning

/-!
# Brackets as tests of columns

A bracket has two readings: the program asks whether it contains a number, and the database tests a
column by an equation, by a lower end, by both ends, or by a lower end and a smaller than. Which of
these it is depends on the ends of the bracket, which may be equal or in the wrong order.

* `NumericBracket.Judges`: what a bracket says of a number that may be missing.
* `NumericBracket.judges_ofTest`: a test of whether the bracket contains the number says so.
* `NumericBracket.tested_as_contained`: so do the tests of every bracket with rational ends, for the
  columns of a voter and for the figures of a census tract.
-/

namespace Electorate.NumericBracket

open Electorate.Sql Electorate.Sql.Predicate

/-- What a bracket says of a number that may be missing: yes if it contains the number, in whichever
way the number is written, no if it does not, and nothing where there is no number. -/
structure Judges (b : NumericBracket) (o : Option Rat) (t : Truth) : Prop where
  yes_iff : ∀ (n : Number) (q : Rat), n.rational? = some q → o = some q →
    (t = .yes ↔ b.contains n = true)
  no_iff : ∀ (n : Number) (q : Rat), n.rational? = some q → o = some q →
    (t = .no ↔ b.contains n = false)
  unknown_iff : t = .unknown ↔ o = none

theorem judges_ofTest (b : NumericBracket) (o : Option Rat) :
    b.Judges o (.ofTest (fun q => b.contains (.real q)) o) where
  yes_iff := by
    rintro n q hn rfl
    rw [b.contains_congr hn]
    exact Truth.ofBool_eq_yes
  no_iff := by
    rintro n q hn rfl
    rw [b.contains_congr hn]
    exact Truth.ofBool_eq_no
  unknown_iff := by
    cases o with
    | none => exact ⟨fun _ => rfl, fun _ => rfl⟩
    | some q => cases h : b.contains (.real q) <;> simp [Truth.ofTest, Truth.ofBool, h]

/-- A bracket with rational ends, in whichever order they stand, is tested as it contains: the
condition on a column of a voter and the one on a figure of a census tract are true of the numbers
in the bracket, false of all others, and unknown where there is none. -/
theorem tested_as_contained {b : NumericBracket} (hb : b.isRational = true) :
    (∀ (w : World) (v : Voter) (c : NumberColumn),
      b.Judges (v.number c) ((ofBracket c b).eval w v)) ∧
    ∀ (r : CensusRecord) (stat : CensusStat),
      b.Judges (r.figure stat) (passes (bracketTests b) (r.figure stat)) := by
  refine ⟨fun w v c => ?_, fun r stat => ?_⟩
  · rw [eval_ofBracket hb]
    exact b.judges_ofTest _
  · rw [passes_bracketTests hb]
    exact b.judges_ofTest _

/-- The single score 10, which a voter without a score is neither in nor out of, and a bracket whose
ends stand in the wrong order. -/
theorem tested_as_contained_ends :
    isRational ⟨"top", "Top", .int 10, some (.int 10), true⟩ = true ∧
    (ofBracket .score ⟨"top", "Top", .int 10, some (.int 10), true⟩).eval default
      { (default : Voter) with score := some 10 } = .yes ∧
    (ofBracket .score ⟨"top", "Top", .int 10, some (.int 10), true⟩).eval default default =
      .unknown ∧
    isRational ⟨"turned", "Turned", .int 5, some (.int 3), true⟩ = true ∧
    (ofBracket .score ⟨"turned", "Turned", .int 5, some (.int 3), true⟩).eval default
      { (default : Voter) with score := some 4 } = .no := by
  have htop : isRational ⟨"top", "Top", .int 10, some (.int 10), true⟩ = true := rfl
  have hturned : isRational ⟨"turned", "Turned", .int 5, some (.int 3), true⟩ = true := rfl
  refine ⟨htop, ?_, ?_, hturned, ?_⟩
  · exact (((tested_as_contained htop).1 _ _ _).yes_iff (.int 10) 10 rfl rfl).mpr (by decide)
  · exact ((tested_as_contained htop).1 _ _ _).unknown_iff.mpr rfl
  · exact (((tested_as_contained hturned).1 _ _ _).no_iff (.int 4) 4 rfl rfl).mpr (by decide)

end Electorate.NumericBracket
