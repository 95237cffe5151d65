import Electorate.Chart.Ratio
import Electorate.Proofs.NearestDouble

/-!
# Shares of whole numbers

* `IsShare`: a share is the double nearest to the exact quotient, and missing exactly where there is
  no total or a total of zero.
* `share_cases`: shares are that, or the quotient is beyond all doubles.
-/

namespace Electorate.Chart

open Electorate.Number (IsNearest greatestDouble nearestFloat signed)

/-- The quotient of two whole numbers as a double. -/
def wholeQuotient (m t : Int) : Float := nearestFloat ((m < 0) != (t < 0)) m.natAbs t.natAbs

theorem share_whole (m : Int) {t : Int} (ht : t ≠ 0) :
    share (some (.whole m)) (some (.whole t)) =
      if (wholeQuotient m t).isInf then .error .quotientTooLarge
      else .ok (some (wholeQuotient m t)) := by
  have htotal : isZero (.whole t) = false := beq_false_of_ne ht
  have hnumber : (if isZero (.whole m) then Measure.whole 0 else .whole m) = .whole m := by
    by_cases hm : m = 0
    · subst hm
      rfl
    · rw [isZero, beq_false_of_ne hm]
      rfl
  have hquotient : quotient (.whole m) (.whole t) =
      if (wholeQuotient m t).isInf then .error .quotientTooLarge else .ok (wholeQuotient m t) := by
    rw [quotient, wholeQuotient]
  simp only [share, htotal, hnumber, hquotient, Bool.false_eq_true, if_false]
  cases (wholeQuotient m t).isInf <;> rfl

theorem signed_natAbs (n : Int) : signed (n < 0) n.natAbs = n := by
  by_cases hn : n < 0
  · rw [decide_eq_true hn, signed, if_pos rfl, Nat.cast_natAbs, abs_of_neg hn, Int.cast_neg, neg_neg]
  · rw [decide_eq_false hn, signed, if_neg Bool.false_ne_true, Nat.cast_natAbs,
      abs_of_nonneg (not_lt.1 hn)]

theorem signed_div_signed (a b : Bool) (p q : Rat) :
    signed a p / signed b q = signed (a != b) (p / q) := by
  cases a <;> cases b <;> simp [signed, neg_div, div_neg]

/-- The signs and the magnitudes give the exact quotient. -/
theorem signed_natAbs_div (m t : Int) :
    signed ((m < 0) != (t < 0)) ((m.natAbs : Rat) / t.natAbs) = m / t := by
  rw [← signed_div_signed, signed_natAbs, signed_natAbs]

/-- What a share is. There is none exactly where there is no total or a total of zero. -/
inductive IsShare (total : Option Int) (m : Int) : Option Float → Prop where
  | missing (h : total = none ∨ total = some 0) : IsShare total m none
  | nearest {t : Int} {x : Float} (ht : total = some t) (hne : t ≠ 0) (hx : IsNearest x (m / t)) :
    IsShare total m (some x)

/-- The quotient is beyond all doubles. -/
def Beyond (total : Option Int) (m : Int) : Prop :=
  ∃ t, total = some t ∧ t ≠ 0 ∧ greatestDouble * t.natAbs < m.natAbs

theorem IsShare.isFinite {total : Option Int} {m : Int} {v : Option Float} (h : IsShare total m v) :
    ∀ x ∈ v, x.isFinite = true := by
  intro x hx
  cases h with
  | missing => cases hx
  | nearest _ _ hnearest =>
    obtain rfl := Option.some.inj hx
    exact hnearest.isFinite

theorem wholeQuotient_cases (m : Int) {t : Int} (ht : t ≠ 0) :
    ((wholeQuotient m t).isFinite = true ∧ IsNearest (wholeQuotient m t) (m / t)) ∨
      ((wholeQuotient m t).isInf = true ∧ greatestDouble * t.natAbs < m.natAbs) := by
  have hden : 0 < t.natAbs := Int.natAbs_pos.2 ht
  obtain hinf | hfinite : (wholeQuotient m t).isInf = true ∨
      (wholeQuotient m t).isFinite = true := Number.isInf_or_isFinite_nearestFloat ..
  · refine .inr ⟨hinf, not_le.1 fun hle => ?_⟩
    exact Number.not_isInf_of_isFinite (Number.isFinite_nearestFloat_of_le _ hden hle) hinf
  · refine .inl ⟨hfinite, ?_⟩
    rw [← signed_natAbs_div]
    exact Number.isNearest_nearestFloat _ _ hden hfinite

/-- There is a share, or none where there should be none, or the quotient is beyond all doubles. -/
theorem share_cases (m : Int) (total : Option Int) :
    (∃ v, share (some (.whole m)) (total.map .whole) = .ok v ∧ IsShare total m v) ∨
      (share (some (.whole m)) (total.map .whole) = .error .quotientTooLarge ∧ Beyond total m) := by
  cases total with
  | none => exact .inl ⟨none, rfl, .missing (.inl rfl)⟩
  | some t =>
    by_cases ht : t = 0
    · subst ht
      exact .inl ⟨none, rfl, .missing (.inr rfl)⟩
    · rw [Option.map_some, share_whole m ht]
      obtain ⟨hfinite, hnearest⟩ | ⟨hinf, hbeyond⟩ := wholeQuotient_cases m ht
      · exact .inl ⟨_, if_neg (Number.not_isInf_of_isFinite hfinite), .nearest rfl ht hnearest⟩
      · exact .inr ⟨if_pos hinf, t, rfl, ht, hbeyond⟩

end Electorate.Chart
