/-!
# Lists without repetitions

* `distinct`: the values of a list, each at the place of its first occurrence.
-/

namespace Electorate

/-- A list without its repetitions, each value at its first place. -/
def distinct [DecidableEq α] : List α → List α
  | [] => []
  | x :: xs => x :: (distinct xs).filter (· ≠ x)

theorem mem_distinct [DecidableEq α] {x : α} {l : List α} : x ∈ distinct l ↔ x ∈ l := by
  induction l with
  | nil => simp [distinct]
  | cons y ys ih => by_cases h : x = y <;> simp [distinct, ih, h]

theorem nodup_distinct [DecidableEq α] (l : List α) : (distinct l).Nodup := by
  induction l with
  | nil => simp [distinct]
  | cons y ys ih => exact List.nodup_cons.2 ⟨by simp, List.Pairwise.filter _ ih⟩

theorem head?_distinct [DecidableEq α] (l : List α) : (distinct l).head? = l.head? := by
  cases l <;> rfl

/-- A list without repetitions stays as it is. -/
theorem distinct_eq_self [DecidableEq α] {l : List α} (h : l.Nodup) : distinct l = l := by
  induction l with
  | nil => rfl
  | cons x xs ih =>
    obtain ⟨hx, hxs⟩ := List.nodup_cons.1 h
    rw [distinct, ih hxs]
    congr 1
    refine List.filter_eq_self.2 fun y hy => decide_eq_true ?_
    rintro rfl
    exact hx hy

/-- One more value stands last, unless it is there already. -/
theorem distinct_append_singleton [DecidableEq α] (l : List α) (x : α) :
    distinct (l ++ [x]) = if x ∈ l then distinct l else distinct l ++ [x] := by
  induction l with
  | nil => simp [distinct]
  | cons y ys ih =>
    rw [List.cons_append, distinct, ih, distinct]
    by_cases hxy : x = y
    · subst hxy
      by_cases hx : x ∈ ys <;> simp [hx]
    · by_cases hx : x ∈ ys <;> simp [hx, hxy]

/-- What a list keeps of its values does not depend on when repetitions are dropped. -/
theorem filter_distinct [DecidableEq α] (p : α → Bool) (l : List α) :
    (distinct l).filter p = distinct (l.filter p) := by
  induction l with
  | nil => rfl
  | cons x xs ih =>
    have hcomm : ((distinct xs).filter (· ≠ x)).filter p = (distinct (xs.filter p)).filter (· ≠ x) := by
      rw [← ih, List.filter_filter, List.filter_filter]
      exact List.filter_congr fun y _ => Bool.and_comm ..
    by_cases hx : p x = true
    · rw [distinct, List.filter_cons_of_pos hx, List.filter_cons_of_pos hx, distinct, hcomm]
    · rw [distinct, List.filter_cons_of_neg hx, List.filter_cons_of_neg hx, hcomm,
        List.filter_eq_self]
      intro y hy
      refine decide_eq_true ?_
      rintro rfl
      exact hx (List.mem_filter.1 (mem_distinct.1 hy)).2

/-- Repetitions may be dropped before the values are mapped as well. -/
theorem distinct_map_distinct [DecidableEq α] [DecidableEq β] (f : α → β) (l : List α) :
    distinct ((distinct l).map f) = distinct (l.map f) := by
  induction l with
  | nil => rfl
  | cons x xs ih =>
    -- A value that differs from the first one under `f` differs from it.
    have hfilter : (((distinct xs).filter (· ≠ x)).map f).filter (· ≠ f x) =
        ((distinct xs).map f).filter (· ≠ f x) := by
      rw [List.filter_map, List.filter_map, List.filter_filter]
      congr 1
      refine List.filter_congr fun y _ => ?_
      by_cases hy : y = x <;> simp [hy]
    rw [distinct, List.map_cons, List.map_cons, distinct, distinct, filter_distinct, hfilter,
      ← filter_distinct, ih]

/-- A value that is repeated in front of others stands once in front of them. -/
theorem distinct_map_const_append [DecidableEq α] {x : α} {l : List β} (hl : l ≠ [])
    {rest : List α} (h : x ∉ rest) :
    distinct (l.map (fun _ => x) ++ rest) = x :: distinct rest := by
  obtain ⟨y, ys, rfl⟩ := List.exists_cons_of_ne_nil hl
  have hothers : (ys.map (fun _ => x) ++ rest).filter (· ≠ x) = rest := by
    rw [List.filter_append, List.filter_eq_nil_iff.2 (by simp), List.nil_append,
      List.filter_eq_self]
    intro z hz
    refine decide_eq_true ?_
    rintro rfl
    exact h hz
  rw [List.map_cons, List.cons_append, distinct, filter_distinct, hothers]

/-- The values stand in the order of their first occurrences. -/
theorem pairwise_idxOf_distinct [DecidableEq α] (l : List α) :
    (distinct l).Pairwise fun a b => l.idxOf a < l.idxOf b := by
  induction l with
  | nil => exact .nil
  | cons x xs ih =>
    have hidx {y : α} (hy : y ∈ (distinct xs).filter (· ≠ x)) :
        (x :: xs).idxOf y = xs.idxOf y + 1 := by
      have hne : y ≠ x := of_decide_eq_true (List.mem_filter.1 hy).2
      rw [List.idxOf_cons, beq_false_of_ne hne.symm]
      rfl
    refine List.pairwise_cons.2 ⟨fun y hy => ?_, (ih.filter _).imp_of_mem fun ha hb hlt => ?_⟩
    · rw [hidx hy, List.idxOf_cons_self]
      exact Nat.succ_pos _
    · rw [hidx ha, hidx hb]
      exact Nat.succ_lt_succ hlt

end Electorate
