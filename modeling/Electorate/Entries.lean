/-!
# Entry lists

What is kept by name is a list of entries in the order in which the names first came: the values of
a filter, the counts of years, the options of a connection, the requests of clients.

* `Entries.change`: changes the value of a key at its place. A new key comes last.
* `Entries.put`: puts a value for a key, whatever it had before.
* `Entries.keys_change`, `Entries.keys_put`: keys keep their places, and none comes twice.
-/

namespace Electorate.Entries

variable {κ α : Type} [DecidableEq κ]

/-- Changes the value of a key at its place. A key without a value gets the first one, in a new last
entry. -/
def change (key : κ) (first : α) (f : α → α) : List (κ × α) → List (κ × α)
  | [] => [(key, first)]
  | (k, a) :: rest =>
    if k = key then (k, f a) :: rest else (k, a) :: change key first f rest

/-- Puts a value in place of that of a key, or in a new last entry. -/
def put (key : κ) (a : α) (l : List (κ × α)) : List (κ × α) := change key a (fun _ => a) l

theorem keys_change (key : κ) (first : α) (f : α → α) (l : List (κ × α)) :
    (change key first f l).map Prod.fst =
      if key ∈ l.map Prod.fst then l.map Prod.fst else l.map Prod.fst ++ [key] := by
  induction l with
  | nil => simp [change]
  | cons e rest ih =>
    obtain ⟨k, a⟩ := e
    by_cases h : k = key
    · simp [change, h]
    · have hne : ¬key = k := fun he => h he.symm
      simp only [change, h, if_false, List.map_cons, ih, List.mem_cons, hne, false_or]
      split <;> simp

theorem keys_put (key : κ) (a : α) (l : List (κ × α)) :
    (put key a l).map Prod.fst =
      if key ∈ l.map Prod.fst then l.map Prod.fst else l.map Prod.fst ++ [key] :=
  keys_change key a _ l

theorem nodup_change {key : κ} {first : α} {f : α → α} {l : List (κ × α)}
    (h : (l.map Prod.fst).Nodup) : ((change key first f l).map Prod.fst).Nodup := by
  rw [keys_change]
  split
  · exact h
  · next hnew =>
    -- The new key is none of those that are there.
    refine List.nodup_append.2 ⟨h, by simp, ?_⟩
    intro a ha b hb
    obtain rfl := List.mem_singleton.1 hb
    exact fun he => hnew (he ▸ ha)

theorem nodup_put {key : κ} {a : α} {l : List (κ × α)} (h : (l.map Prod.fst).Nodup) :
    ((put key a l).map Prod.fst).Nodup := nodup_change h

/-- What holds of the first value and is kept by the change holds of all values afterwards. -/
theorem forall_change {P : α → Prop} {key : κ} {first : α} {f : α → α} {l : List (κ × α)}
    (hfirst : P first) (hf : ∀ a, P a → P (f a)) (h : ∀ e ∈ l, P e.2) :
    ∀ e ∈ change key first f l, P e.2 := by
  induction l with
  | nil => simpa [change] using hfirst
  | cons e rest ih =>
    obtain ⟨k, a⟩ := e
    have ha : P a := h (k, a) List.mem_cons_self
    have hrest : ∀ e ∈ rest, P e.2 := fun e he => h e (List.mem_cons_of_mem _ he)
    intro e he
    by_cases hk : k = key
    · rw [change, if_pos hk, List.mem_cons] at he
      rcases he with rfl | he
      · exact hf a ha
      · exact hrest e he
    · rw [change, if_neg hk, List.mem_cons] at he
      rcases he with rfl | he
      · exact ha
      · exact ih hrest e he

end Electorate.Entries
