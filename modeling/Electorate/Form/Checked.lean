import Electorate.Form.Fault

/-!
# Checking many fields

* `Checked`: a value, or all faults found on the way to it. Faults of several fields add up in
  the order of the fields.
* `Checked.field`: one field.
* `Checked.seq_eq_value_iff`: there is a value where every field has one.
-/

namespace Electorate.Form

/-- A value or all faults found on the way to it. -/
inductive Checked (α : Type) where
  | value (a : α)
  | faults (errors : List FieldError)

namespace Checked

/-- The faults of a check. -/
def errors : Checked α → List FieldError
  | value _ => []
  | faults errors => errors

/-- A check followed by a function. -/
def map (f : α → β) : Checked α → Checked β
  | value a => value (f a)
  | faults errors => faults errors

/-- Two checks, one of a function and one of its argument. -/
def apply : Checked (α → β) → Checked α → Checked β
  | value f, value a => value (f a)
  | value _, faults errors => faults errors
  | faults errors, other => faults (errors ++ other.errors)

instance : Applicative Checked where
  pure := value
  map := map
  seq f x := apply f (x ())

/-- The value, or the faults as a failure. -/
def toExcept : Checked α → Except (List FieldError) α
  | value a => .ok a
  | faults errors => .error errors

/-- One field of a form at its place. -/
def field (place : List String) : Except FieldFault α → Checked α
  | .ok a => value a
  | .error fault => faults [⟨place, fault⟩]

@[simp] theorem field_ok (place : List String) (a : α) : field place (.ok a) = value a := rfl

@[simp] theorem map_value (f : α → β) (a : α) : f <$> value a = value (f a) := rfl

@[simp] theorem seq_value (f : α → β) (a : α) : value f <*> value a = value (f a) := rfl

@[simp] theorem errors_value (a : α) : (value a).errors = [] := rfl

theorem map_eq_value_iff {f : α → β} {x : Checked α} {b : β} :
    f <$> x = value b ↔ ∃ a, x = value a ∧ f a = b := by
  cases x with
  | value a =>
    show value (f a) = value b ↔ _
    simp
  | faults errors =>
    show faults errors = value b ↔ _
    simp

theorem seq_eq_value_iff {f : Checked (α → β)} {x : Checked α} {b : β} :
    f <*> x = value b ↔ ∃ a, x = value a ∧ (· a) <$> f = value b := by
  cases x with
  | value a =>
    cases f with
    | value g =>
      show value (g a) = value b ↔ ∃ a', value a = value a' ∧ value (g a') = value b
      simp
    | faults errors =>
      show faults _ = value b ↔ ∃ a', value a = value a' ∧ faults errors = value b
      simp
  | faults errors =>
    cases f with
    | value g =>
      show faults errors = value b ↔ _
      simp
    | faults before =>
      show faults (before ++ errors) = value b ↔ _
      simp

/-- The fields of a form in front of the last one, with what becomes of their values. -/
theorem map_seq_eq_value_iff {k : β → γ} {f : Checked (α → β)} {x : Checked α} {c : γ} :
    k <$> (f <*> x) = value c ↔ ∃ a, x = value a ∧ (fun g => k (g a)) <$> f = value c := by
  simp only [map_eq_value_iff, seq_eq_value_iff]
  constructor
  · rintro ⟨_, ⟨a, ha, g, hg, rfl⟩, hk⟩
    exact ⟨a, ha, g, hg, hk⟩
  · rintro ⟨a, ha, g, hg, hk⟩
    exact ⟨_, ⟨a, ha, g, hg, rfl⟩, hk⟩

end Checked

end Electorate.Form
