import Electorate.Entries
import Mathlib.Data.List.Nodup

/-!
# Entry lists

What is found in a list of entries, in which the first entry of a key counts.

* `lookup_cons_eq`: what is found behind one more entry.
* `lookup_eq_some_iff`, `lookup_reverse`, `lookup_filter_fst`: keys that occur once, and entries
  that are kept by their keys.
* `Entries.lookup_change`, `Entries.lookup_put`: what is found after a change.
* `Entries.lookup_foldl_put`: of several values that are put for a key the last one counts.
* `Entries.foldl_put`: entries of new keys stand as they were put.
-/

namespace Electorate

section Lookup

variable {κ : Type} [BEq κ] [LawfulBEq κ] [DecidableEq κ]

theorem lookup_cons_eq (k k' : κ) (a : α) (l : List (κ × α)) :
    ((k', a) :: l).lookup k = if k = k' then some a else l.lookup k := by
  rw [List.lookup_cons]
  by_cases h : k = k'
  · simp [h]
  · simp [h, beq_false_of_ne h]

/-- Where no key occurs twice, what is found is an entry. -/
theorem lookup_eq_some_iff {l : List (κ × α)} (h : (l.map Prod.fst).Nodup) {k : κ} {a : α} :
    l.lookup k = some a ↔ (k, a) ∈ l := by
  induction l with
  | nil => simp
  | cons e l ih =>
    obtain ⟨k', a'⟩ := e
    obtain ⟨hk, hl⟩ := List.nodup_cons.mp h
    rw [lookup_cons_eq]
    by_cases he : k = k'
    · subst he
      have hn : (k, a) ∉ l := fun hm => hk (List.mem_map.mpr ⟨_, hm, rfl⟩)
      simp [hn, eq_comm]
    · simp [he, ih hl]

/-- Where no key occurs twice, it does not matter from which end entries are looked up. -/
theorem lookup_reverse {l : List (κ × α)} (h : (l.map Prod.fst).Nodup) (k : κ) :
    l.reverse.lookup k = l.lookup k := by
  have hreverse : (l.reverse.map Prod.fst).Nodup := by
    rw [List.map_reverse]
    exact List.nodup_reverse.mpr h
  refine Option.ext fun a => ?_
  rw [lookup_eq_some_iff hreverse, lookup_eq_some_iff h, List.mem_reverse]

theorem lookup_filter_fst {l : List (κ × α)} (keep : κ → Bool) (k : κ) :
    (l.filter fun e => keep e.1).lookup k = if keep k then l.lookup k else none := by
  induction l with
  | nil => simp
  | cons e l ih =>
    obtain ⟨k', a⟩ := e
    by_cases he : k = k'
    · subst he
      cases hk : keep k <;> simp [hk, ih]
    · cases hk : keep k' <;> simp [lookup_cons_eq, hk, he, ih]

namespace Entries

/-- The value of a key is changed. Without one there is the first value. -/
theorem lookup_change (key : κ) (first : α) (f : α → α) (l : List (κ × α)) (k : κ) :
    (change key first f l).lookup k =
      if k = key then some ((l.lookup key).elim first f) else l.lookup k := by
  induction l with
  | nil => rw [change, lookup_cons_eq]; rfl
  | cons e l ih =>
    obtain ⟨m, b⟩ := e
    rw [change]
    by_cases hm : m = key
    · subst hm
      rw [if_pos rfl, lookup_cons_eq, lookup_cons_eq, lookup_cons_eq, if_pos rfl]
      split <;> rfl
    · rw [if_neg hm, lookup_cons_eq, ih, lookup_cons_eq, lookup_cons_eq, if_neg (Ne.symm hm)]
      -- The head is no entry of the key, so that it answers for its own key as before.
      by_cases hk : k = m
      · rw [if_pos hk, if_pos hk, if_neg (hk ▸ hm)]
      · rw [if_neg hk, if_neg hk]

theorem lookup_put (key : κ) (a : α) (l : List (κ × α)) (k : κ) :
    (put key a l).lookup k = if k = key then some a else l.lookup k := by
  rw [put, lookup_change]
  cases l.lookup key <;> rfl

/-- Of several values that are put for a key the last one counts. -/
theorem lookup_foldl_put (es l : List (κ × α)) (k : κ) :
    (es.foldl (fun l e => put e.1 e.2 l) l).lookup k = (es.reverse.lookup k).or (l.lookup k) := by
  induction es generalizing l with
  | nil => rfl
  | cons e es ih =>
    obtain ⟨m, b⟩ := e
    rw [List.foldl_cons, ih, lookup_put, List.reverse_cons, List.lookup_append, Option.or_assoc,
      lookup_cons_eq]
    congr 1
    split <;> rfl

end Entries

end Lookup

namespace Entries

variable {κ : Type} [DecidableEq κ]

theorem put_of_not_mem {key : κ} {a : α} {l : List (κ × α)} (h : key ∉ l.map Prod.fst) :
    put key a l = l ++ [(key, a)] := by
  induction l with
  | nil => rfl
  | cons e l ih =>
    obtain ⟨m, b⟩ := e
    rw [List.map_cons, List.mem_cons, not_or] at h
    obtain ⟨hne, hrest⟩ := h
    rw [put, change, if_neg (Ne.symm hne)]
    exact congrArg ((m, b) :: ·) (ih hrest)

/-- Values of keys that are new are put behind those that are there. -/
theorem foldl_put {l done : List (κ × α)} (h : ((done ++ l).map Prod.fst).Nodup) :
    l.foldl (fun l e => put e.1 e.2 l) done = done ++ l := by
  induction l generalizing done with
  | nil => rw [List.append_nil]; rfl
  | cons e l ih =>
    have hnew : e.1 ∉ done.map Prod.fst := by
      rw [List.map_append, List.nodup_append] at h
      exact fun hm => h.2.2 e.1 hm e.1 (by simp) rfl
    rw [List.foldl_cons, put_of_not_mem hnew, ih (by simpa using h), List.append_assoc,
      List.singleton_append]

end Entries

end Electorate
