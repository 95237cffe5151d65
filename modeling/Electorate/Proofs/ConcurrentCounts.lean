import Electorate.Chart.Counts
import Electorate.Proofs.Inquiry
import Mathlib.Algebra.GroupWithZero.Nat
import Mathlib.Algebra.Ring.Int.Defs

/-!
# Counting combinations side by side

The queries of a chart run side by side and share the permits of one semaphore. Each waits for a
permit, opens a session, puts its statement, and gives the permit back when an outcome is there or
when its session cannot be opened. The order of all this is left open: a history is any order of
events in which each event is possible when it happens.

* `Phase`, `Gathering`: where each query stands, the permits that are left, the statements put.
* `Event`, `Step`, `History`: what can happen next, and what has happened.
* `Inv`: permits are neither lost nor made, statements are put once, outcomes are those of the
  history. `Inv.step` is one step, `History.inv` a whole history.
* `History.exists_complete`: no history is stuck before the end.
* `History.counts_sound`: what a chart shows when all queries have ended, whatever their order.
-/

namespace Electorate.Chart

open Electorate.Store

/-! ## Queries and their events -/

/-- Where the query of a combination stands. -/
inductive Phase where
  /-- It waits for a permit. -/
  | waiting
  /-- It has a permit and opens its session. -/
  | admitted
  /-- Its statement is put and has no outcome yet. -/
  | inFlight
  /-- It has given its permit back, without an outcome if its session could not be opened. -/
  | ended (outcome : Option Outcome)

namespace Phase

/-- The permits that the query has. -/
def permits : Phase → Nat
  | admitted | inFlight => 1
  | waiting | ended _ => 0

def isInFlight : Phase → Bool
  | inFlight => true
  | _ => false

/-- Whether the statement has been put. -/
def isAsked : Phase → Bool
  | inFlight | ended (some _) => true
  | _ => false

/-- The count that the query gives; zero without an outcome. -/
def count : Phase → Int
  | ended (some o) => countFrom o
  | _ => 0

/-- The number of events up to the end, at most. -/
def stepsLeft : Phase → Nat
  | waiting => 3
  | admitted => 2
  | inFlight => 1
  | ended _ => 0

end Phase

/-- The queries of a chart in the order of their combinations. -/
structure Gathering where
  /-- The permits that no query has. -/
  free : Nat
  phases : List Phase
  /-- The statements put so far, each with the place of its query. -/
  asked : List (Nat × Sql.Statement)

namespace Gathering

/-- All queries wait. -/
def start (permits queries : Nat) : Gathering := ⟨permits, List.replicate queries .waiting, []⟩

/-- The number of statements without an outcome. -/
def inFlight (s : Gathering) : Nat := s.phases.countP Phase.isInFlight

/-- All queries have ended. -/
def Complete (s : Gathering) : Prop := ∀ p ∈ s.phases, ∃ r, p = .ended r

/-- The statements that one query has put. -/
def askedBy (s : Gathering) (i : Nat) : List (Nat × Sql.Statement) :=
  s.asked.filter fun entry => entry.1 = i

/-- The counts put beside their combinations. -/
def response (s : Gathering) (combos : List Combination) (withTotal : Bool) : CombinationCounts :=
  .of combos (s.phases.map Phase.count) withTotal

/-- An upper bound of the number of events to come. -/
def stepsLeft (s : Gathering) : Nat := (s.phases.map Phase.stepsLeft).sum

end Gathering

/-- What can happen to the query at a place. -/
inductive Event where
  /-- It takes a permit. -/
  | acquire (i : Nat)
  /-- Its session is open, and it puts its statement. -/
  | put (i : Nat)
  /-- Its session cannot be opened. -/
  | refuse (i : Nat)
  /-- Its statement ends: with an answer, or with a fault of whatever kind. -/
  | finish (i : Nat) (o : Outcome)

/-- The end that an event is for the query at a place. -/
def Event.ending (i : Nat) : Event → Option (Option Outcome)
  | finish j o => if j = i then some (some o) else none
  | refuse j => if j = i then some none else none
  | acquire _ | put _ => none

section

variable (year : Int) (base : FilterSpec) (combos : List Combination)

/-- One event. Only the query that it is about moves. -/
inductive Step (s : Gathering) : Event → Gathering → Prop where
  | acquire {i free : Nat} (hp : s.phases[i]? = some .waiting) (hf : s.free = free + 1) :
    Step s (.acquire i) ⟨free, s.phases.set i .admitted, s.asked⟩
  | put {i : Nat} {c : Combination} (hp : s.phases[i]? = some .admitted)
      (hc : combos[i]? = some c) :
    Step s (.put i)
      ⟨s.free, s.phases.set i .inFlight, s.asked ++ [(i, countStatement year base c)]⟩
  | refuse {i : Nat} (hp : s.phases[i]? = some .admitted) :
    Step s (.refuse i) ⟨s.free + 1, s.phases.set i (.ended none), s.asked⟩
  | finish {i : Nat} {o : Outcome} (hp : s.phases[i]? = some .inFlight) :
    Step s (.finish i o) ⟨s.free + 1, s.phases.set i (.ended (some o)), s.asked⟩

/-- The events from the start to a state. -/
inductive History (k : Nat) : List Event → Gathering → Prop where
  | start : History k [] (.start k combos.length)
  | step {es : List Event} {e : Event} {s s' : Gathering} (h : History k es s)
      (hs : Step year base combos s e s') : History k (es ++ [e]) s'

/-- The statement of the query at a place. -/
def ownStatement (i : Nat) : List (Nat × Sql.Statement) :=
  (combos[i]?.map fun c => (i, countStatement year base c)).toList

/-- What holds after every history. -/
structure Inv (k : Nat) (es : List Event) (s : Gathering) : Prop where
  /-- Every permit is free or with a query. -/
  permits : s.free + (s.phases.map Phase.permits).sum = k
  length_phases : s.phases.length = combos.length
  /-- A query has put its own statement once, or has put nothing. -/
  askedBy : ∀ i, s.askedBy i =
    if s.phases[i]?.any Phase.isAsked then ownStatement year base combos i else []
  /-- A query has ended as the history says. -/
  ended_iff : ∀ i r, s.phases[i]? = some (.ended r) ↔ ∃ e ∈ es, e.ending i = some r

end

/-! ## One step -/

variable {year : Int} {base : FilterSpec} {combos : List Combination} {k : Nat}
  {es : List Event} {e : Event} {s s' : Gathering}

theorem getElem?_set_of_eq_some {l : List Phase} {i : Nat} {p : Phase} (hp : l[i]? = some p)
    (q : Phase) (j : Nat) : (l.set i q)[j]? = if i = j then some q else l[j]? := by
  have hi := (List.getElem?_eq_some_iff.mp hp).1
  rw [List.getElem?_set, if_pos hi]

/-- A sum over the queries after one of them has moved. -/
theorem sum_map_set (f : Phase → Nat) {l : List Phase} {i : Nat} {p : Phase}
    (hp : l[i]? = some p) (q : Phase) :
    ((l.set i q).map f).sum + f p = (l.map f).sum + f q := by
  induction l generalizing i with
  | nil => simp at hp
  | cons r l ih =>
    cases i with
    | zero =>
      obtain rfl : r = p := by simpa using hp
      simp only [List.set_cons_zero, List.map_cons, List.sum_cons]
      omega
    | succ i =>
      have h := ih (by simpa using hp)
      simp only [List.set_cons_succ, List.map_cons, List.sum_cons]
      omega

/-- What every event does: one query moves on from a phase that is not the last. -/
structure Move (year : Int) (base : FilterSpec) (combos : List Combination) (s : Gathering)
    (e : Event) (s' : Gathering) (i : Nat) (p q : Phase) : Prop where
  before : s.phases[i]? = some p
  after : s'.phases = s.phases.set i q
  permits : s'.free + q.permits = s.free + p.permits
  stepsLeft : q.stepsLeft < p.stepsLeft
  not_ended : ∀ r, p ≠ .ended r
  ending_iff : ∀ j r, e.ending j = some r ↔ j = i ∧ q = .ended r
  /-- A statement is put only where none has been put. -/
  askedBy : ∀ j, s'.askedBy j = s.askedBy j ++
    if j = i ∧ q.isAsked ∧ ¬p.isAsked then ownStatement year base combos j else []
  isAsked : p.isAsked → q.isAsked

theorem Step.exists_move (hs : Step year base combos s e s') :
    ∃ i p q, Move year base combos s e s' i p q := by
  cases hs with
  | @acquire i free hp hf =>
    exact ⟨i, .waiting, .admitted, {
      before := hp
      after := rfl
      permits := hf.symm
      stepsLeft := by decide
      not_ended := nofun
      ending_iff := by simp [Event.ending]
      askedBy := by simp [Gathering.askedBy, Phase.isAsked]
      isAsked := nofun }⟩
  | @put i c hp hc =>
    have hlog (j : Nat) : (s.asked ++ [(i, countStatement year base c)]).filter (·.1 = j) =
        s.askedBy j ++ if j = i then ownStatement year base combos j else [] := by
      rw [List.filter_append, Gathering.askedBy]
      by_cases hj : i = j
      · subst hj
        simp [ownStatement, hc]
      · simp [hj, Ne.symm hj]
    exact ⟨i, .admitted, .inFlight, {
      before := hp
      after := rfl
      permits := rfl
      stepsLeft := by decide
      not_ended := nofun
      ending_iff := by simp [Event.ending]
      askedBy := fun j => by simpa [Gathering.askedBy, Phase.isAsked] using hlog j
      isAsked := nofun }⟩
  | @refuse i hp =>
    exact ⟨i, .admitted, .ended none, {
      before := hp
      after := rfl
      permits := rfl
      stepsLeft := by decide
      not_ended := nofun
      ending_iff := by simp [Event.ending, eq_comm]
      askedBy := by simp [Gathering.askedBy, Phase.isAsked]
      isAsked := nofun }⟩
  | @finish i o hp =>
    exact ⟨i, .inFlight, .ended (some o), {
      before := hp
      after := rfl
      permits := rfl
      stepsLeft := Nat.zero_lt_one
      not_ended := nofun
      ending_iff := by simp [Event.ending, eq_comm]
      askedBy := by simp [Gathering.askedBy, Phase.isAsked]
      isAsked := fun _ => rfl }⟩

theorem Inv.start : Inv year base combos k [] (.start k combos.length) where
  permits := by simp [Gathering.start, Phase.permits]
  length_phases := by simp [Gathering.start]
  askedBy := fun i => by
    have hw : (Gathering.start k combos.length).phases[i]?.any Phase.isAsked = false := by
      rw [Gathering.start, List.getElem?_replicate]
      split <;> rfl
    simp [hw]
    rfl
  ended_iff := fun i r => by simp [Gathering.start, List.getElem?_replicate]

/-- One event keeps the invariant. -/
theorem Inv.step (h : Inv year base combos k es s) (hs : Step year base combos s e s') :
    Inv year base combos k (es ++ [e]) s' := by
  obtain ⟨i, p, q, m⟩ := hs.exists_move
  have hphase (j : Nat) : s'.phases[j]? = if i = j then some q else s.phases[j]? := by
    rw [m.after, getElem?_set_of_eq_some m.before]
  constructor
  · have hsum := sum_map_set Phase.permits m.before q
    have hold := h.permits
    have hnew := m.permits
    rw [m.after]
    omega
  · rw [m.after, List.length_set, h.length_phases]
  · -- The moved query puts its statement only if it had not put it; the others put nothing.
    intro j
    rw [m.askedBy, h.askedBy, hphase]
    by_cases hj : i = j
    · subst hj
      rw [m.before, if_pos rfl, Option.any_some, Option.any_some]
      by_cases hp : p.isAsked = true
      · have hq : q.isAsked = true := m.isAsked hp
        simp [hp, hq]
      · simp [hp]
    · simp [hj, Ne.symm hj]
  · -- The moved query had not ended, so that no earlier event is its end.
    intro j r
    have hends : (∃ e' ∈ es ++ [e], e'.ending j = some r) ↔
        (∃ e' ∈ es, e'.ending j = some r) ∨ e.ending j = some r := by
      simp [or_and_right, exists_or]
    rw [hends, ← h.ended_iff, m.ending_iff, hphase]
    by_cases hj : i = j
    · subst hj
      simp [m.before, m.not_ended]
    · simp [hj, Ne.symm hj]

/-! ## Histories -/

/-- A whole history keeps the invariant. -/
theorem History.inv (h : History year base combos k es s) : Inv year base combos k es s := by
  induction h with
  | start => exact Inv.start
  | step _ hs ih => exact ih.step hs

/-- Each event brings the end nearer. -/
theorem Step.stepsLeft_lt (hs : Step year base combos s e s') : s'.stepsLeft < s.stepsLeft := by
  obtain ⟨i, p, q, m⟩ := hs.exists_move
  have hsum := sum_map_set Phase.stepsLeft m.before q
  have hlt := m.stepsLeft
  unfold Gathering.stepsLeft
  rw [m.after]
  omega

theorem History.length_add_stepsLeft (h : History year base combos k es s) :
    es.length + s.stepsLeft ≤ 3 * combos.length := by
  induction h with
  | start => simp [Gathering.start, Gathering.stepsLeft, Phase.stepsLeft, Nat.mul_comm]
  | step _ hs ih =>
    have hlt := hs.stepsLeft_lt
    rw [List.length_append, List.length_singleton]
    omega

/-- A query with a permit can go on. -/
theorem exists_step_of_permit {i : Nat} {p : Phase} (hp : s.phases[i]? = some p)
    (h : p.permits ≠ 0) : ∃ e s', Step year base combos s e s' := by
  cases p with
  | waiting | ended => exact absurd rfl h
  | admitted => exact ⟨_, _, .refuse hp⟩
  | inFlight => exact ⟨_, _, .finish (o := .ok .nothing) hp⟩

/-- While a query has not ended, something can happen: a query that waits in vain waits for one
with a permit. -/
theorem Inv.exists_step (h : Inv year base combos k es s) (hk : 1 ≤ k) (hn : ¬s.Complete) :
    ∃ e s', Step year base combos s e s' := by
  obtain ⟨p, hmem, hp⟩ : ∃ p ∈ s.phases, ∀ r, p ≠ .ended r := by
    simpa [Gathering.Complete] using hn
  obtain ⟨i, hi⟩ := List.mem_iff_getElem?.mp hmem
  cases p with
  | ended r => exact absurd rfl (hp r)
  | admitted | inFlight => exact exists_step_of_permit hi (by simp [Phase.permits])
  | waiting =>
    cases hf : s.free with
    | succ free => exact ⟨_, _, .acquire hi hf⟩
    | zero =>
      have hsum : 0 < (s.phases.map Phase.permits).sum := by
        have := h.permits
        omega
      obtain ⟨_, hm, hpos⟩ := List.sum_pos_iff_exists_pos_nat.mp hsum
      obtain ⟨q, hq, rfl⟩ := List.mem_map.mp hm
      obtain ⟨j, hj⟩ := List.mem_iff_getElem?.mp hq
      exact exists_step_of_permit hj (Nat.ne_of_gt hpos)

/-- Every history can be brought to its end. -/
theorem History.exists_complete (h : History year base combos k es s) (hk : 1 ≤ k) :
    ∃ more s', History year base combos k (es ++ more) s' ∧ s'.Complete := by
  -- No history is stuck before its end, and a step leaves fewer steps.
  induction hl : s.stepsLeft using Nat.strongRecOn generalizing es s with
  | _ n ih =>
    subst hl
    by_cases hc : s.Complete
    · exact ⟨[], s, by rwa [List.append_nil], hc⟩
    · obtain ⟨e, s', hs⟩ := h.inv.exists_step hk hc
      obtain ⟨more, s'', h', hc'⟩ := ih _ hs.stepsLeft_lt (h.step hs) rfl
      rw [List.append_assoc] at h'
      exact ⟨e :: more, s'', h', hc'⟩

theorem countP_isInFlight_le (l : List Phase) :
    l.countP Phase.isInFlight ≤ (l.map Phase.permits).sum := by
  induction l with
  | nil => exact Nat.le_refl _
  | cons p l ih =>
    rw [List.countP_cons, List.map_cons, List.sum_cons]
    cases p <;> simp only [Phase.isInFlight, Phase.permits] <;> grind

theorem Inv.inFlight_le (h : Inv year base combos k es s) : s.inFlight ≤ k := by
  have hle := countP_isInFlight_le s.phases
  have hk := h.permits
  unfold Gathering.inFlight
  omega

/-! ## The end -/

theorem countFrom_error (f : Fault) : countFrom (.error f) = 0 := rfl

theorem countFrom_of_null {a : Answer} (h : a.scalar = .null) : countFrom (.ok a) = 0 := by
  simp [countFrom, Except.toOption, Cell.orZero, Cell.isVoid, h]

theorem countFrom_of_int {a : Answer} {n : Int} (h : a.scalar = .int n) :
    countFrom (.ok a) = n := by
  by_cases hn : n = 0 <;>
    simp [countFrom, Except.toOption, Cell.orZero, Cell.isVoid, Cell.readInteger, h, hn]

/-- What a chart shows for the combination at a place after a history. -/
structure Shown (es : List Event) (i : Nat) (c : Combination) (r : CombinationCount) : Prop where
  name : r.name = c.label
  filters : r.filters = c.filters
  ended : Event.refuse i ∈ es ∨ ∃ o, Event.finish i o ∈ es
  /-- A query without a session counts as zero. -/
  of_refuse : Event.refuse i ∈ es → r.count = 0
  /-- So does one that ends in a fault, of whatever kind. -/
  of_fault : ∀ f, Event.finish i (.error f) ∈ es → r.count = 0
  of_null : ∀ a, Event.finish i (.ok a) ∈ es → a.scalar = .null → r.count = 0
  of_int : ∀ a n, Event.finish i (.ok a) ∈ es → a.scalar = .int n → r.count = n
  /-- Any other outcome counts as it does on its own. -/
  of_outcome : ∀ o, Event.finish i o ∈ es → r.count = countFrom o

theorem Inv.refuse_mem_iff (h : Inv year base combos k es s) {i : Nat} :
    Event.refuse i ∈ es ↔ s.phases[i]? = some (.ended none) := by
  rw [h.ended_iff]
  constructor
  · intro hm
    have hends : (Event.refuse i).ending i = some none := if_pos rfl
    exact ⟨_, hm, hends⟩
  · rintro ⟨e, hm, he⟩
    -- Of the other events none ends a query without an outcome.
    cases e <;> simp [Event.ending] at he
    exact he ▸ hm

theorem Inv.finish_mem_iff (h : Inv year base combos k es s) {i : Nat} {o : Outcome} :
    Event.finish i o ∈ es ↔ s.phases[i]? = some (.ended (some o)) := by
  rw [h.ended_iff]
  constructor
  · intro hm
    have hends : (Event.finish i o).ending i = some (some o) := if_pos rfl
    exact ⟨_, hm, hends⟩
  · rintro ⟨e, hm, he⟩
    cases e <;> simp [Event.ending] at he
    obtain ⟨rfl, rfl⟩ := he
    exact hm

theorem getElem?_results (s : Gathering) (combos : List Combination) (withTotal : Bool) (i : Nat) :
    (s.response combos withTotal).results[i]? =
      (combos[i]?).bind fun c => (s.phases[i]?).map fun p => ⟨c.label, c.filters, p.count⟩ := by
  simp only [Gathering.response, CombinationCounts.of, List.getElem?_zipWith, List.getElem?_map]
  cases combos[i]? <;> cases s.phases[i]? <;> rfl

/-- The query at a place has ended, one way or the other. -/
theorem Inv.exists_ended (h : Inv year base combos k es s) (hc : s.Complete) {i : Nat}
    (hi : i < combos.length) : ∃ r, s.phases[i]? = some (.ended r) := by
  have hlt : i < s.phases.length := h.length_phases ▸ hi
  obtain ⟨r, hr⟩ := hc _ (List.getElem_mem hlt)
  exact ⟨r, by rw [List.getElem?_eq_getElem hlt, hr]⟩

/-- At the end there is a result for every combination. -/
theorem Inv.exists_shown (h : Inv year base combos k es s) (hc : s.Complete) (withTotal : Bool)
    {i : Nat} {c : Combination} (hi : combos[i]? = some c) :
    ∃ r, (s.response combos withTotal).results[i]? = some r ∧ Shown es i c r := by
  obtain ⟨r, hr⟩ := h.exists_ended hc (List.getElem?_eq_some_iff.mp hi).1
  have hresult : (s.response combos withTotal).results[i]? =
      some ⟨c.label, c.filters, (Phase.ended r).count⟩ := by
    rw [getElem?_results, hi, hr, Option.bind_some, Option.map_some]
  refine ⟨⟨c.label, c.filters, (Phase.ended r).count⟩, hresult, ?_⟩
  have hrefuse := h.refuse_mem_iff (i := i)
  have hfinish (o : Outcome) := h.finish_mem_iff (i := i) (o := o)
  rw [hr] at hrefuse hfinish
  have hcount (o : Outcome) (ho : Event.finish i o ∈ es) :
      (Phase.ended r).count = countFrom o := by
    obtain rfl : r = some o := by simpa using (hfinish o).mp ho
    rfl
  constructor
  · rfl
  · rfl
  · cases r with
    | none => exact .inl (hrefuse.mpr rfl)
    | some o => exact .inr ⟨o, (hfinish o).mpr rfl⟩
  · intro hm
    obtain rfl : r = none := by simpa using hrefuse.mp hm
    rfl
  · exact fun f hm => (hcount _ hm).trans (countFrom_error f)
  · exact fun a hm ha => (hcount _ hm).trans (countFrom_of_null ha)
  · exact fun a n hm ha => (hcount _ hm).trans (countFrom_of_int ha)
  · exact hcount

/-- A statement is put exactly once where a session opens. -/
theorem Inv.askedBy_of_complete (h : Inv year base combos k es s) (hc : s.Complete) {i : Nat}
    {c : Combination} (hi : combos[i]? = some c) (hopen : Event.refuse i ∉ es) :
    s.askedBy i = [(i, countStatement year base c)] := by
  obtain ⟨r, hr⟩ := h.exists_ended hc (List.getElem?_eq_some_iff.mp hi).1
  cases r with
  | none => exact absurd (h.refuse_mem_iff.mpr hr) hopen
  | some o => rw [h.askedBy, hr]; simp [Phase.isAsked, ownStatement, hi]

theorem length_results (h : Inv year base combos k es s) (withTotal : Bool) :
    (s.response combos withTotal).results.length = combos.length := by
  simp [Gathering.response, CombinationCounts.of, h.length_phases]

theorem map_count_of {combos : List Combination} {counts : List Int}
    (h : counts.length = combos.length) (withTotal : Bool) :
    (CombinationCounts.of combos counts withTotal).results.map (·.count) = counts := by
  simp only [CombinationCounts.of, List.map_zipWith]
  exact List.ext_getElem (by simp [h]) (by simp)

/-- The total is the sum of the counts that are shown. -/
theorem total_response (h : Inv year base combos k es s) (withTotal : Bool) :
    (s.response combos withTotal).total =
      if withTotal then some ((s.response combos withTotal).results.map (·.count)).sum
      else none := by
  have hlength : (s.phases.map Phase.count).length = combos.length := by
    rw [List.length_map, h.length_phases]
  unfold Gathering.response
  rw [map_count_of hlength]
  rfl

/-- What is shown for a combination depends on the outcome of its own query alone. -/
theorem getElem?_results_congr {k' : Nat} {es' : List Event} (h : Inv year base combos k es s)
    (hc : s.Complete) (h' : Inv year base combos k' es' s') {i : Nat}
    (hsame : ∀ r, (∃ e ∈ es, e.ending i = some r) ↔ ∃ e ∈ es', e.ending i = some r)
    (withTotal : Bool) :
    (s.response combos withTotal).results[i]? = (s'.response combos withTotal).results[i]? := by
  rw [getElem?_results, getElem?_results]
  cases hi : combos[i]? with
  | none => rfl
  | some c =>
    obtain ⟨r, hr⟩ := h.exists_ended hc (List.getElem?_eq_some_iff.mp hi).1
    have hr' : s'.phases[i]? = some (.ended r) := by
      rw [h'.ended_iff, ← hsame, ← h.ended_iff, hr]
    rw [hr, hr']

/-! ## One query after the other -/

/-- The counts of a chart whose queries are put one after the other are those of the next outcomes. -/
theorem run_combinationCounts_nextOutcomes (year : Int) (combos : List Combination)
    (base : FilterSpec) (withTotal : Bool) (session : Session) :
    (combinationCounts year combos base withTotal).run.run session =
      (.ok (.of combos ((nextOutcomes combos.length session.outcomes).map countFrom) withTotal),
        { session with
          outcomes := session.outcomes.drop combos.length
          asked := session.asked ++ combos.map (countStatement year base) }) :=
  run_bind_of_ok (run_mapM_nextOutcomes (countStatement year base) countFrom combos session)

/-- The counts of a chart whose queries are put one after the other. -/
theorem run_combinationCounts (withTotal : Bool) {session : Session} {os rest : List Outcome}
    (h : session.outcomes = os ++ rest) (hl : os.length = combos.length) :
    (combinationCounts year combos base withTotal).run.run session =
      (.ok (.of combos (os.map countFrom) withTotal), { session with
        outcomes := rest, asked := session.asked ++ combos.map (countStatement year base) }) := by
  rw [run_combinationCounts_nextOutcomes, h, ← hl, nextOutcomes_append, List.drop_left]

/-- At the end each query has the outcome that the history names. -/
theorem Inv.phases_eq (h : Inv year base combos k es s) {os : List Outcome}
    (hl : os.length = combos.length) (hos : ∀ i o, os[i]? = some o → Event.finish i o ∈ es) :
    s.phases = os.map fun o => .ended (some o) := by
  have hlength : s.phases.length = (os.map fun o => Phase.ended (some o)).length := by
    rw [List.length_map, h.length_phases, hl]
  refine List.ext_getElem hlength fun i _ hi => ?_
  have hi' : i < os.length := by simpa using hi
  have hp := h.finish_mem_iff.mp (hos i os[i] (List.getElem?_eq_getElem hi'))
  obtain ⟨hlt, hp⟩ := List.getElem?_eq_some_iff.mp hp
  rw [List.getElem_map, hp]

/-- The counts at the end are those of the outcomes, in the order of the combinations. -/
theorem Inv.map_count (h : Inv year base combos k es s) {os : List Outcome}
    (hl : os.length = combos.length) (hos : ∀ i o, os[i]? = some o → Event.finish i o ∈ es) :
    s.phases.map Phase.count = os.map countFrom := by
  rw [h.phases_eq hl hos, List.map_map]
  rfl

/-! ## All orders -/

/-- What a chart has when all its queries have ended. -/
structure Settled (year : Int) (base : FilterSpec) (combos : List Combination) (withTotal : Bool)
    (es : List Event) (s : Gathering) : Prop where
  /-- Every statement whose session opened has been put exactly once. -/
  asked_once : ∀ i c, combos[i]? = some c → Event.refuse i ∉ es →
    s.askedBy i = [(i, countStatement year base c)]
  length_results : (s.response combos withTotal).results.length = combos.length
  /-- The results stand in the order of the combinations, each with the count of its own query. -/
  shown : ∀ i c, combos[i]? = some c →
    ∃ r, (s.response combos withTotal).results[i]? = some r ∧ Shown es i c r
  total : (s.response combos withTotal).total =
    if withTotal then some ((s.response combos withTotal).results.map (·.count)).sum else none
  /-- Any other history in which a query ends in the same way shows the same for it. -/
  local_result : ∀ k' es' s', History year base combos k' es' s' → ∀ i,
    (∀ r, (∃ e ∈ es, e.ending i = some r) ↔ ∃ e ∈ es', e.ending i = some r) →
    (s.response combos withTotal).results[i]? = (s'.response combos withTotal).results[i]?
  /-- Putting the statements one after the other gives the same response to the same outcomes. -/
  in_order : ∀ (session : Session) os rest, session.outcomes = os ++ rest →
    os.length = combos.length → (∀ i o, os[i]? = some o → Event.finish i o ∈ es) →
    (combinationCounts year combos base withTotal).run.run session =
      (.ok (s.response combos withTotal), { session with
        outcomes := rest, asked := session.asked ++ combos.map (countStatement year base) })

/-- After every history, no more statements are in flight than there are permits, and no query has
put another statement than its own, or its own twice. With a permit at all, every history comes to
an end, and at the end the response is that of the outcomes, whatever their order. -/
theorem History.counts_sound (h : History year base combos k es s) (withTotal : Bool) :
    s.inFlight ≤ k ∧
    (∀ i, s.askedBy i = [] ∨ s.askedBy i = ownStatement year base combos i) ∧
    es.length ≤ 3 * combos.length ∧
    (1 ≤ k → ∃ more s', History year base combos k (es ++ more) s' ∧ s'.Complete) ∧
    (s.Complete → Settled year base combos withTotal es s) := by
  have hinv := h.inv
  refine ⟨hinv.inFlight_le, fun i => ?_, ?_, h.exists_complete, fun hc => ?_⟩
  · rw [hinv.askedBy]
    split
    · exact .inr rfl
    · exact .inl rfl
  · exact Nat.le_trans (Nat.le_add_right _ _) h.length_add_stepsLeft
  · constructor
    · exact fun i c hi hopen => hinv.askedBy_of_complete hc hi hopen
    · exact length_results hinv withTotal
    · exact fun i c hi => hinv.exists_shown hc withTotal hi
    · exact total_response hinv withTotal
    · exact fun k' es' s' h' i hsame => getElem?_results_congr hinv hc h'.inv hsame withTotal
    · intro session os rest hsession hl hos
      rw [run_combinationCounts withTotal hsession hl, Gathering.response, hinv.map_count hl hos]

/-- Two queries may end in the order opposite to that of their combinations. -/
theorem history_reversed (year : Int) (base : FilterSpec) (c d : Combination) (o o' : Outcome) :
    History year base [c, d] 2
      [.acquire 0, .acquire 1, .put 1, .put 0, .finish 1 o', .finish 0 o]
      ⟨2, [.ended (some o), .ended (some o')],
        [(1, countStatement year base d), (0, countStatement year base c)]⟩ := by
  have h₀ : History year base [c, d] 2 [] ⟨2, [.waiting, .waiting], []⟩ := .start
  have h₁ : History year base [c, d] 2 [.acquire 0, .acquire 1]
      ⟨0, [.admitted, .admitted], []⟩ :=
    (h₀.step (.acquire (i := 0) rfl rfl)).step (.acquire (i := 1) rfl rfl)
  have h₂ : History year base [c, d] 2 [.acquire 0, .acquire 1, .put 1, .put 0]
      ⟨0, [.inFlight, .inFlight],
        [(1, countStatement year base d), (0, countStatement year base c)]⟩ :=
    (h₁.step (.put (i := 1) rfl rfl)).step (.put (i := 0) rfl rfl)
  exact (h₂.step (.finish (i := 1) (o := o') rfl)).step (.finish (i := 0) (o := o) rfl)

/-- An answer and a timeout, in the order opposite to that of their combinations. -/
theorem counts_sound_reversed :
    History 2024 .empty [⟨[("county", "X")]⟩, ⟨[("county", "Y")]⟩] 2
      [.acquire 0, .acquire 1, .put 1, .put 0, .finish 1 (.ok ⟨[], .int 7, []⟩),
        .finish 0 (.error ⟨.timeout, ""⟩)]
      ⟨2, [.ended (some (.error ⟨.timeout, ""⟩)), .ended (some (.ok ⟨[], .int 7, []⟩))],
        [(1, countStatement 2024 .empty ⟨[("county", "Y")]⟩),
          (0, countStatement 2024 .empty ⟨[("county", "X")]⟩)]⟩ ∧
    Settled 2024 .empty [⟨[("county", "X")]⟩, ⟨[("county", "Y")]⟩] true
      [.acquire 0, .acquire 1, .put 1, .put 0, .finish 1 (.ok ⟨[], .int 7, []⟩),
        .finish 0 (.error ⟨.timeout, ""⟩)]
      ⟨2, [.ended (some (.error ⟨.timeout, ""⟩)), .ended (some (.ok ⟨[], .int 7, []⟩))],
        [(1, countStatement 2024 .empty ⟨[("county", "Y")]⟩),
          (0, countStatement 2024 .empty ⟨[("county", "X")]⟩)]⟩ := by
  have h := history_reversed 2024 .empty ⟨[("county", "X")]⟩ ⟨[("county", "Y")]⟩
    (.error ⟨.timeout, ""⟩) (.ok ⟨[], .int 7, []⟩)
  exact ⟨h, (h.counts_sound true).2.2.2.2 (by simp [Gathering.Complete])⟩

end Electorate.Chart
