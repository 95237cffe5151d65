import Mathlib.Data.List.Forall2

/-!
# Functions that may fail

* `bind_eq_ok`, `mapError_eq_ok`: what gives a result.
* `mapM_cases`, `mapM_or_error`, `exists_mapM_ok`: a function that may fail, applied to all values of
  a list.
* `exists_of_mem_mapM`: each of its results is that of a value.
* `exists_getElem?_of_forall₂`, `forall_of_forall₂_right`: lists that are related value by value.
-/

namespace Electorate

theorem bind_eq_ok {x : Except ε α} {f : α → Except ε β} {b : β} :
    x >>= f = .ok b ↔ ∃ a, x = .ok a ∧ f a = .ok b := by
  cases x with
  | error e =>
    refine ⟨fun h => ?_, ?_⟩
    · cases h
    · rintro ⟨a, ha, -⟩
      cases ha
  | ok a =>
    refine ⟨fun h => ⟨a, rfl, h⟩, ?_⟩
    rintro ⟨a', ha', h⟩
    obtain rfl := Except.ok.inj ha'
    exact h

theorem mapError_eq_ok {x : Except ε α} {g : ε → ε'} {a : α} :
    x.mapError g = .ok a ↔ x = .ok a := by
  cases x with
  | error e =>
    refine ⟨fun h => ?_, fun h => ?_⟩ <;> cases h
  | ok a' =>
    refine ⟨fun h => ?_, fun h => ?_⟩ <;> exact congrArg Except.ok (Except.ok.inj h)

theorem exists_getElem?_of_forall₂ {R : α → β → Prop} {l : List α} {bs : List β}
    (h : List.Forall₂ R l bs) {i : Nat} {a : α} (ha : l[i]? = some a) :
    ∃ b, bs[i]? = some b ∧ R a b := by
  induction h generalizing i with
  | nil => simp at ha
  | cons hr _ ih =>
    cases i with
    | zero => exact ⟨_, rfl, Option.some.inj ha ▸ hr⟩
    | succ i => exact ih ha

theorem forall_of_forall₂_right {P : β → Prop} {l : List α} {bs : List β}
    (h : List.Forall₂ (fun _ b => P b) l bs) : ∀ b ∈ bs, P b := by
  induction h with
  | nil => exact nofun
  | cons hr _ ih => exact List.forall_mem_cons.2 ⟨hr, ih⟩

/-- All values are given, or the traversal ends with a failure of one of them. -/
theorem mapM_cases {f : α → Except ε β} {R : α → β → Prop} {E : ε → Prop} {l : List α}
    (h : ∀ a ∈ l, (∃ b, f a = .ok b ∧ R a b) ∨ ∃ e, f a = .error e ∧ E e) :
    (∃ bs, l.mapM f = .ok bs ∧ List.Forall₂ R l bs) ∨ ∃ e, l.mapM f = .error e ∧ E e := by
  induction l with
  | nil => exact .inl ⟨[], rfl, .nil⟩
  | cons a l ih =>
    rw [List.mapM_cons]
    obtain ⟨b, hb, hR⟩ | ⟨e, he, hE⟩ := h a (by simp)
    · rw [hb]
      obtain ⟨bs, hbs, hRs⟩ | ⟨e, he, hE⟩ := ih fun a' ha' => h a' (by simp [ha'])
      · rw [hbs]
        exact .inl ⟨b :: bs, rfl, .cons hR hRs⟩
      · rw [he]
        exact .inr ⟨e, rfl, hE⟩
    · rw [he]
      exact .inr ⟨e, rfl, hE⟩

theorem mapM_or_error {f : α → Except ε β} {P : β → Prop} {E : ε → Prop} {l : List α}
    (h : ∀ a ∈ l, (∃ b, f a = .ok b ∧ P b) ∨ ∃ e, f a = .error e ∧ E e) :
    (∃ bs, l.mapM f = .ok bs ∧ ∀ b ∈ bs, P b) ∨ ∃ e, l.mapM f = .error e ∧ E e :=
  (mapM_cases (R := fun _ => P) h).imp_left fun ⟨bs, hbs, hrel⟩ =>
    ⟨bs, hbs, forall_of_forall₂_right hrel⟩

theorem exists_mapM_ok {f : α → Except ε β} {P : β → Prop} {l : List α}
    (h : ∀ a ∈ l, ∃ b, f a = .ok b ∧ P b) : ∃ bs, l.mapM f = .ok bs ∧ ∀ b ∈ bs, P b := by
  obtain hok | ⟨e, -, hfalse⟩ := mapM_or_error (E := fun _ => False) fun a ha => .inl (h a ha)
  · exact hok
  · exact hfalse.elim

theorem exists_of_mem_mapM {f : α → Except ε β} {l : List α} {bs : List β} {b : β}
    (h : l.mapM f = .ok bs) (hb : b ∈ bs) : ∃ a ∈ l, f a = .ok b := by
  induction l generalizing bs with
  | nil =>
    obtain rfl : bs = [] := (Except.ok.inj h).symm
    cases hb
  | cons a l ih =>
    rw [List.mapM_cons] at h
    obtain ⟨b', ha, h⟩ := bind_eq_ok.mp h
    obtain ⟨bs', hl, h⟩ := bind_eq_ok.mp h
    obtain rfl : bs = b' :: bs' := (Except.ok.inj h).symm
    rcases List.mem_cons.mp hb with rfl | hb
    · exact ⟨a, by simp, ha⟩
    · obtain ⟨a', ha', hfa'⟩ := ih hl hb
      exact ⟨a', List.mem_cons_of_mem a ha', hfa'⟩

end Electorate
