/-!
# Truth values of SQL

A condition on a row is true, false or unknown: a test of a missing value is unknown, and the
connectives pass on what is not decided by their other side.

* `Truth.and`, `Truth.or`, `Truth.not`: the connectives.
* `Truth.all`, `Truth.any`: the connectives over a list.
* `Truth.ofTest`: a test of a value that may be missing.
* A row is selected where the condition is `yes`; the lemmas `_eq_yes` say when that is. The
  lemmas `_eq_no` serve conditions under a negation.
-/

namespace Electorate.Sql

/-- What a condition says of a row. -/
inductive Truth where
  | yes | no | unknown
deriving DecidableEq, Repr

namespace Truth

/-- A decided condition. -/
def ofBool (b : Bool) : Truth := if b then yes else no

/-- A test of a value, unknown where the value is missing. -/
def ofTest (test : α → Bool) : Option α → Truth
  | none => unknown
  | some a => ofBool (test a)

/-- Negation. -/
def not : Truth → Truth
  | yes => no
  | no => yes
  | unknown => unknown

/-- Conjunction: one `no` decides it. -/
def and : Truth → Truth → Truth
  | no, _ | _, no => no
  | yes, yes => yes
  | _, _ => unknown

/-- Disjunction: one `yes` decides it. -/
def or : Truth → Truth → Truth
  | yes, _ | _, yes => yes
  | no, no => no
  | _, _ => unknown

/-- Conjunction of a list. -/
def all (ts : List Truth) : Truth := ts.foldr and yes

/-- Disjunction of a list. -/
def any (ts : List Truth) : Truth := ts.foldr or no

variable {α : Type} {a b : Truth}

@[simp] theorem yes_and : yes.and a = a := by cases a <;> rfl

@[simp] theorem and_yes : a.and yes = a := by cases a <;> rfl

theorem and_assoc (a b c : Truth) : (a.and b).and c = a.and (b.and c) := by
  cases a <;> cases b <;> cases c <;> rfl

theorem and_eq_yes : a.and b = yes ↔ a = yes ∧ b = yes := by cases a <;> cases b <;> decide

theorem or_eq_yes : a.or b = yes ↔ a = yes ∨ b = yes := by cases a <;> cases b <;> decide

theorem or_eq_no : a.or b = no ↔ a = no ∧ b = no := by cases a <;> cases b <;> decide

theorem not_eq_yes : a.not = yes ↔ a = no := by cases a <;> decide

@[simp] theorem ofBool_eq_yes {p : Bool} : ofBool p = yes ↔ p = true := by cases p <;> decide

@[simp] theorem ofBool_eq_no {p : Bool} : ofBool p = no ↔ p = false := by cases p <;> decide

theorem ofBool_and (p q : Bool) : (ofBool p).and (ofBool q) = ofBool (p && q) := by
  cases p <;> cases q <;> rfl

/-- A test is passed by a value that is there. -/
theorem ofTest_eq_yes {test : α → Bool} {o : Option α} :
    ofTest test o = yes ↔ ∃ x, o = some x ∧ test x = true := by
  cases o <;> simp [ofTest]

theorem ofTest_eq_no {test : α → Bool} {o : Option α} :
    ofTest test o = no ↔ ∃ x, o = some x ∧ test x = false := by
  cases o <;> simp [ofTest]

@[simp] theorem all_cons {t : Truth} {ts : List Truth} : all (t :: ts) = t.and (all ts) := rfl

theorem all_eq_yes {ts : List Truth} : all ts = yes ↔ ∀ t ∈ ts, t = yes := by
  induction ts with
  | nil => simp [all]
  | cons t ts ih =>
    rw [List.forall_mem_cons, ← ih]
    exact and_eq_yes

theorem any_eq_yes {ts : List Truth} : any ts = yes ↔ yes ∈ ts := by
  induction ts with
  | nil => simp [any]
  | cons t ts ih =>
    rw [List.mem_cons, ← ih, eq_comm (a := yes)]
    exact or_eq_yes

/-- Several tests of one value are one test of it. -/
theorem all_ofTest {tests : List (α → Bool)} (h : tests ≠ []) (o : Option α) :
    all (tests.map fun test => ofTest test o) = ofTest (fun x => tests.all (· x)) o := by
  induction tests with
  | nil => exact absurd rfl h
  | cons test tests ih =>
    by_cases hrest : tests = []
    · subst hrest
      cases o <;> simp [all, ofTest]
    · rw [List.map_cons, all_cons, ih hrest]
      cases o with
      | none => rfl
      | some x => exact ofBool_and _ _

end Truth

end Electorate.Sql
