import Electorate.Proofs.CacheHistory
import Electorate.Proofs.Numerals
import Electorate.Proofs.StoreFaults

/-!
# Calls of a function whose results are kept

Calls of one function share a cache of its results. Each looks up the key of its arguments. If it
finds a value it returns it, otherwise it runs the function, stores the value and returns it. Calls
run side by side: between the look-up of one and its store the others go on. The order of all this is
left open, and the same key may be run by several calls at once.

* `Phase`, `Call`, `State`: where each call stands, and the cache.
* `Action`, `Occurrence`, `Step`, `History`: what can happen next, and what has happened.
* `Inv`: what a history says of its state. `Inv.step` is one step, `History.inv` a whole history.
* `Source`: where the value of a call comes from.
* `History.exists_uninterrupted`: a call without others in between is `getOrCompute`.
* `totalsKey_inj`: the totals of different years have different keys.
* `History.transparent`: what calls return and raise, whatever their order.
-/

namespace Electorate

namespace Memo

variable {γ ε α : Type}

/-! ## Calls and their actions -/

/-- Where a call stands. -/
inductive Phase (ε α : Type) where
  /-- It has found no value and runs the function. -/
  | running
  /-- The function has given a value, which is not stored yet. -/
  | computed (value : α)
  /-- It has returned a value or raised an error. -/
  | ended (result : Except ε α)

/-- A call: its arguments and where it stands. -/
structure Call (γ ε α : Type) where
  args : γ
  phase : Phase ε α

/-- The cache and the calls in the order of their look-ups. -/
structure State (γ ε α : Type) where
  cache : ResultCache α
  calls : List (Call γ ε α)

/-- What can happen to the call at a place. -/
inductive Action (γ ε α : Type) where
  /-- It looks up the key of its arguments. -/
  | lookUp (i : Nat) (args : γ)
  /-- The function gives a value. -/
  | complete (i : Nat) (value : α)
  /-- The function raises an error. -/
  | fail (i : Nat) (e : ε)
  /-- It stores the value and returns it. -/
  | store (i : Nat) (args : γ) (value : α)

/-- An action at a time. -/
structure Occurrence (γ ε α : Type) where
  time : Rat
  action : Action γ ε α

/-- The operation on the cache that an occurrence is. To run the function is none. -/
def Occurrence.onCache? (key : γ → String) (o : Occurrence γ ε α) : Option (ResultCache.Event α) :=
  match o.action with
  | .lookUp _ args => some ⟨o.time, .get (key args)⟩
  | .store _ args value => some ⟨o.time, .set (key args) value⟩
  | .complete .. | .fail .. => none

/-- One occurrence. A look-up begins a call, every other action moves one call on. -/
inductive Step (key : γ → String) (s : State γ ε α) : Occurrence γ ε α → State γ ε α → Prop where
  | found {t : Rat} {args : γ} {value : α} {cache : ResultCache α}
      (hget : s.cache.get t (key args) = (some value, cache)) :
    Step key s ⟨t, .lookUp s.calls.length args⟩ ⟨cache, s.calls ++ [⟨args, .ended (.ok value)⟩]⟩
  | missed {t : Rat} {args : γ} {cache : ResultCache α}
      (hget : s.cache.get t (key args) = (none, cache)) :
    Step key s ⟨t, .lookUp s.calls.length args⟩ ⟨cache, s.calls ++ [⟨args, .running⟩]⟩
  | complete {t : Rat} {i : Nat} {args : γ} {value : α}
      (hcall : s.calls[i]? = some ⟨args, .running⟩) :
    Step key s ⟨t, .complete i value⟩ ⟨s.cache, s.calls.set i ⟨args, .computed value⟩⟩
  | fail {t : Rat} {i : Nat} {args : γ} {e : ε} (hcall : s.calls[i]? = some ⟨args, .running⟩) :
    Step key s ⟨t, .fail i e⟩ ⟨s.cache, s.calls.set i ⟨args, .ended (.error e)⟩⟩
  | store {t : Rat} {i : Nat} {args : γ} {value : α}
      (hcall : s.calls[i]? = some ⟨args, .computed value⟩) :
    Step key s ⟨t, .store i args value⟩
      ⟨s.cache.set t (key args) value, s.calls.set i ⟨args, .ended (.ok value)⟩⟩

/-- The occurrences from a cache without calls to a state. Time does not go back. -/
inductive History (key : γ → String) (c : ResultCache α) :
    List (Occurrence γ ε α) → State γ ε α → Prop where
  | start : History key c [] ⟨c, []⟩
  | step {es : List (Occurrence γ ε α)} {o : Occurrence γ ε α} {s s' : State γ ε α}
      (h : History key c es s) (htime : ∀ e ∈ es, e.time ≤ o.time) (hs : Step key s o s') :
    History key c (es ++ [o]) s'

/-- The function has given `value` in the call at the place `i`, which is for `args`. -/
def Executed (es : List (Occurrence γ ε α)) (i : Nat) (args : γ) (value : α) : Prop :=
  (∃ t, ⟨t, .lookUp i args⟩ ∈ es) ∧ ∃ t, ⟨t, .complete i value⟩ ∈ es

/-- Where the value that the call at the place `i` returns comes from. -/
inductive Source (key : γ → String) (ttl : Rat) (es : List (Occurrence γ ε α)) (i : Nat)
    (args : γ) (value : α) : Prop where
  /-- The call has run the function itself. -/
  | own (hrun : Executed es i args value)
  /-- Before its look-up, and less than the time to live before, a call for the same key has stored
  what the function gave it. -/
  | kept {before after : List (Occurrence γ ε α)} {t t' : Rat} {j : Nat} {args' : γ}
      (hes : es = before ++ ⟨t, .lookUp i args⟩ :: after)
      (hstore : ⟨t', .store j args' value⟩ ∈ before) (hrun : Executed before j args' value)
      (hkey : key args' = key args) (htime : t' ≤ t) (hage : t - t' < ttl)

/-- What an action leaves behind at its call for good. -/
def Leaves (calls : List (Call γ ε α)) : Action γ ε α → Prop
  | .lookUp i args => ∃ p, calls[i]? = some ⟨args, p⟩
  | .complete i value => ∃ args, calls[i]? = some ⟨args, .computed value⟩ ∨
      calls[i]? = some ⟨args, .ended (.ok value)⟩
  | .fail i e => ∃ args, calls[i]? = some ⟨args, .ended (.error e)⟩
  | .store i args value => calls[i]? = some ⟨args, .ended (.ok value)⟩

/-- What the occurrences say of a call that stands at a phase. -/
def Explains (key : γ → String) (ttl : Rat) (es : List (Occurrence γ ε α)) (i : Nat) (args : γ) :
    Phase ε α → Prop
  | .running => ∃ t, ⟨t, .lookUp i args⟩ ∈ es
  | .computed value => Executed es i args value
  | .ended (.ok value) => Source key ttl es i args value
  | .ended (.error e) => (∃ t, ⟨t, .lookUp i args⟩ ∈ es) ∧ ∃ t, ⟨t, .fail i e⟩ ∈ es

/-- What holds after every history. -/
structure Inv (key : γ → String) (c : ResultCache α) (ttl : Rat) (es : List (Occurrence γ ε α))
    (s : State γ ε α) : Prop where
  /-- The cache is that of the look-ups and the stores alone. -/
  cache_eq : s.cache = c.run (es.filterMap (Occurrence.onCache? key))
  explains : ∀ i args p, s.calls[i]? = some ⟨args, p⟩ → Explains key ttl es i args p
  leaves : ∀ e ∈ es, Leaves s.calls e.action
  /-- What is stored has been computed by the same call. -/
  executed : ∀ t i args value, ⟨t, .store i args value⟩ ∈ es → Executed es i args value

variable {key : γ → String} {c : ResultCache α} {maxEntries : Int} {ttl : Rat}
  {es : List (Occurrence γ ε α)} {o : Occurrence γ ε α} {s s' : State γ ε α}

/-! ## More occurrences -/

theorem Executed.append {i : Nat} {args : γ} {value : α} (h : Executed es i args value)
    (more : List (Occurrence γ ε α)) : Executed (es ++ more) i args value := by
  obtain ⟨⟨t, ht⟩, u, hu⟩ := h
  exact ⟨⟨t, List.mem_append_left _ ht⟩, u, List.mem_append_left _ hu⟩

theorem Source.append {i : Nat} {args : γ} {value : α} (h : Source key ttl es i args value)
    (more : List (Occurrence γ ε α)) : Source key ttl (es ++ more) i args value := by
  cases h with
  | own hrun => exact .own (hrun.append more)
  | kept hes hstore hrun hkey htime hage =>
    exact .kept (by rw [hes, List.append_assoc, List.cons_append]) hstore hrun hkey htime hage

theorem Explains.append {i : Nat} {args : γ} {p : Phase ε α} (h : Explains key ttl es i args p)
    (more : List (Occurrence γ ε α)) : Explains key ttl (es ++ more) i args p := by
  match p, h with
  | .running, ⟨t, ht⟩ => exact ⟨t, List.mem_append_left _ ht⟩
  | .computed _, hrun => exact Executed.append hrun more
  | .ended (.ok _), hsource => exact Source.append hsource more
  | .ended (.error _), ⟨⟨t, ht⟩, u, hu⟩ =>
    exact ⟨⟨t, List.mem_append_left _ ht⟩, u, List.mem_append_left _ hu⟩

/-- A call at any phase has looked up its arguments. -/
theorem Explains.lookedUp {i : Nat} {args : γ} {p : Phase ε α}
    (h : Explains key ttl es i args p) : ∃ t, ⟨t, .lookUp i args⟩ ∈ es := by
  match p, h with
  | .running, ht => exact ht
  | .computed _, hrun => exact hrun.1
  | .ended (.ok _), .own hrun => exact hrun.1
  | .ended (.ok _), .kept (t := t) hes _ _ _ _ _ => exact ⟨t, by simp [hes]⟩
  | .ended (.error _), hfail => exact hfail.1

/-! ## One step -/

/-- A call goes on from one phase to the next. -/
inductive Phase.Next : Phase ε α → Phase ε α → Prop where
  | complete (value : α) : Next .running (.computed value)
  | fail (e : ε) : Next .running (.ended (.error e))
  | store (value : α) : Next (.computed value) (.ended (.ok value))

/-- One call goes on, the others stay where they are. -/
theorem getElem?_set_next {calls : List (Call γ ε α)} {i : Nat} {args : γ} {p q : Phase ε α}
    (hcall : calls[i]? = some ⟨args, p⟩) (hnext : p.Next q) {j : Nat} {call : Call γ ε α}
    (hj : calls[j]? = some call) :
    ∃ r, (calls.set i ⟨args, q⟩)[j]? = some ⟨call.args, r⟩ ∧ (r = call.phase ∨ call.phase.Next r) := by
  have hlt := (List.getElem?_eq_some_iff.1 hcall).1
  rw [List.getElem?_set]
  by_cases hij : i = j
  · subst hij
    obtain rfl : (⟨args, p⟩ : Call γ ε α) = call := Option.some.inj (hcall.symm.trans hj)
    exact ⟨q, by simp [hlt], .inr hnext⟩
  · exact ⟨call.phase, by simp [hij, hj], .inl rfl⟩

/-- Every call keeps its arguments, and goes on by one phase at most. -/
theorem Step.next (hs : Step key s o s') {j : Nat} {call : Call γ ε α}
    (hj : s.calls[j]? = some call) :
    ∃ r, s'.calls[j]? = some ⟨call.args, r⟩ ∧ (r = call.phase ∨ call.phase.Next r) := by
  have hlt := (List.getElem?_eq_some_iff.1 hj).1
  cases hs with
  | found | missed => exact ⟨call.phase, by rw [List.getElem?_append_left hlt, hj], .inl rfl⟩
  | complete hcall => exact getElem?_set_next hcall (.complete _) hj
  | fail hcall => exact getElem?_set_next hcall (.fail _) hj
  | store hcall => exact getElem?_set_next hcall (.store _) hj

/-- A call that has ended stays as it is. -/
theorem Step.ended (hs : Step key s o s') {j : Nat} {args : γ} {result : Except ε α}
    (hj : s.calls[j]? = some ⟨args, .ended result⟩) :
    s'.calls[j]? = some ⟨args, .ended result⟩ := by
  obtain ⟨r, hr, rfl | hnext⟩ := hs.next hj
  · exact hr
  · cases hnext

theorem Leaves.step {a : Action γ ε α} (h : Leaves s.calls a) (hs : Step key s o s') :
    Leaves s'.calls a := by
  -- Only a call that has its value but has not stored it can still move on.
  match a, h with
  | .lookUp _ _, ⟨_, hcall⟩ =>
    obtain ⟨r, hr, -⟩ := hs.next hcall
    exact ⟨r, hr⟩
  | .complete _ _, ⟨args, .inl hcall⟩ =>
    obtain ⟨r, hr, rfl | hnext⟩ := hs.next hcall
    · exact ⟨args, .inl hr⟩
    · cases hnext
      exact ⟨args, .inr hr⟩
  | .complete _ _, ⟨args, .inr hcall⟩ => exact ⟨args, .inr (hs.ended hcall)⟩
  | .fail _ _, ⟨args, hcall⟩ => exact ⟨args, hs.ended hcall⟩
  | .store _ _ _, hcall => exact hs.ended hcall

theorem getElem?_set_self_of_eq_some {calls : List (Call γ ε α)} {i : Nat} {call : Call γ ε α}
    (hcall : calls[i]? = some call) (call' : Call γ ε α) : (calls.set i call')[i]? = some call' :=
  List.getElem?_set_self (List.getElem?_eq_some_iff.1 hcall).1

/-- What happens now is left behind now. -/
theorem Step.leaves (hs : Step key s o s') : Leaves s'.calls o.action := by
  cases hs with
  | found | missed => exact ⟨_, List.getElem?_concat_length⟩
  | complete hcall => exact ⟨_, .inl (getElem?_set_self_of_eq_some hcall _)⟩
  | fail hcall => exact ⟨_, getElem?_set_self_of_eq_some hcall _⟩
  | store hcall => exact getElem?_set_self_of_eq_some hcall _

/-- A step does to the cache what its operation does, if it is one. -/
theorem Step.cache_eq (hs : Step key s o s') :
    s'.cache = s.cache.run (o.onCache? key).toList := by
  cases hs with
  | found hget | missed hget => exact (congrArg Prod.snd hget).symm
  | complete | fail | store => rfl

/-- A call after a step is the call that the step moves, or stands as it stood. -/
theorem Explains.of_set {calls : List (Call γ ε α)} {i j : Nat} {args args' : γ}
    {p q : Phase ε α}
    (hold : ∀ i args p, calls[i]? = some ⟨args, p⟩ → Explains key ttl es i args p)
    (hnew : Explains key ttl (es ++ [o]) i args q)
    (hj : (calls.set i ⟨args, q⟩)[j]? = some ⟨args', p⟩) :
    Explains key ttl (es ++ [o]) j args' p := by
  rw [List.getElem?_set] at hj
  split at hj
  · next hij =>
    subst hij
    split at hj
    · cases hj
      exact hnew
    · cases hj
  · exact (hold j args' p hj).append [o]

/-- A call after a look-up is the new one, or stands as it stood. -/
theorem Explains.of_concat {calls : List (Call γ ε α)} {j : Nat} {args args' : γ}
    {p q : Phase ε α}
    (hold : ∀ i args p, calls[i]? = some ⟨args, p⟩ → Explains key ttl es i args p)
    (hnew : Explains key ttl (es ++ [o]) calls.length args q)
    (hj : (calls ++ [⟨args, q⟩])[j]? = some ⟨args', p⟩) :
    Explains key ttl (es ++ [o]) j args' p := by
  obtain hlt | rfl | hgt := Nat.lt_trichotomy j calls.length
  · rw [List.getElem?_append_left hlt] at hj
    exact (hold j args' p hj).append [o]
  · rw [List.getElem?_concat_length] at hj
    cases hj
    exact hnew
  · rw [List.getElem?_eq_none (by simp; omega)] at hj
    cases hj

/-- Every entry of the cache was stored by a call for its key. -/
theorem Inv.exists_store (hc : ResultCache.create maxEntries ttl = .ok c)
    (h : Inv key c ttl es s) {x : CacheEntry α} (hx : x ∈ s.cache.entries) :
    ∃ j args, ⟨x.storedAt, .store j args x.value⟩ ∈ es ∧ key args = x.key := by
  rw [h.cache_eq] at hx
  obtain ⟨before, since, hes, -⟩ := (ResultCache.inv_of_create hc _).stored x hx
  have hmem : ⟨x.storedAt, .set x.key x.value⟩ ∈ es.filterMap (Occurrence.onCache? key) := by
    rw [hes]
    exact List.mem_append_right _ List.mem_cons_self
  obtain ⟨⟨t, a⟩, he, hcache⟩ := List.mem_filterMap.1 hmem
  cases a with
  | store j args value =>
    simp only [Occurrence.onCache?, Option.some.injEq, ResultCache.Event.mk.injEq,
      ResultCache.Operation.set.injEq] at hcache
    obtain ⟨rfl, hkey, rfl⟩ := hcache
    exact ⟨j, args, he, hkey⟩
  | lookUp | complete | fail => simp [Occurrence.onCache?] at hcache

/-- A look-up finds the value of an entry that is younger than the time to live. -/
theorem Inv.exists_entry (hc : ResultCache.create maxEntries ttl = .ok c)
    (h : Inv key c ttl es s) {t : Rat} {k : String} {value : α}
    (hget : (s.cache.get t k).1 = some value) :
    ∃ x ∈ s.cache.entries, x.key = k ∧ t - x.storedAt < ttl ∧ x.value = value := by
  have httl : s.cache.ttl = ttl := by
    rw [h.cache_eq]
    exact (ResultCache.inv_of_create hc _).ttl_eq
  obtain ⟨x, hfind, hage, hvalue⟩ := ResultCache.get_eq_some_iff.1 hget
  obtain ⟨hx, hkey⟩ := ResultCache.find?_eq_some hfind
  exact ⟨x, hx, hkey, httl ▸ hage, hvalue⟩

theorem Inv.source (hc : ResultCache.create maxEntries ttl = .ok c) (h : Inv key c ttl es s)
    {t : Rat} (htime : ∀ e ∈ es, e.time ≤ t) {i : Nat} {args : γ} {value : α}
    (hget : (s.cache.get t (key args)).1 = some value) :
    Source key ttl (es ++ [⟨t, .lookUp i args⟩]) i args value := by
  obtain ⟨x, hx, hkey, hage, rfl⟩ := h.exists_entry hc hget
  obtain ⟨j, args', hstore, hkey'⟩ := h.exists_store hc hx
  exact .kept rfl hstore (h.executed _ j args' _ hstore) (hkey'.trans hkey) (htime _ hstore) hage

/-- The call that a step begins or moves is explained by the history with that step. -/
theorem Inv.explains_append (hc : ResultCache.create maxEntries ttl = .ok c)
    (h : Inv key c ttl es s) (htime : ∀ e ∈ es, e.time ≤ o.time) (hs : Step key s o s') :
    ∀ i args p, s'.calls[i]? = some ⟨args, p⟩ → Explains key ttl (es ++ [o]) i args p := by
  intro j args' p hj
  cases hs with
  | @found t args value _ hget =>
    have hsource := h.source hc htime (i := s.calls.length) (congrArg Prod.fst hget)
    exact .of_concat h.explains (q := .ended (.ok value)) hsource hj
  | @missed t args _ _ => exact .of_concat h.explains (q := .running) ⟨t, by simp⟩ hj
  | @complete t i args value hcall =>
    have hlooked := ((h.explains i args _ hcall).append [⟨t, .complete i value⟩]).lookedUp
    exact .of_set h.explains (q := .computed value) ⟨hlooked, t, by simp⟩ hj
  | @fail t i args e hcall =>
    have hlooked := ((h.explains i args _ hcall).append [⟨t, .fail i e⟩]).lookedUp
    exact .of_set h.explains (q := .ended (.error e)) ⟨hlooked, t, by simp⟩ hj
  | @store t i args value hcall =>
    have hrun : Executed es i args value := h.explains i args _ hcall
    exact .of_set h.explains (q := .ended (.ok value)) (.own (hrun.append _)) hj

theorem Inv.start : Inv key c ttl ([] : List (Occurrence γ ε α)) ⟨c, []⟩ where
  cache_eq := rfl
  explains := by simp
  leaves := by simp
  executed := by simp

/-- One step keeps the invariant. -/
theorem Inv.step (hc : ResultCache.create maxEntries ttl = .ok c) (h : Inv key c ttl es s)
    (htime : ∀ e ∈ es, e.time ≤ o.time) (hs : Step key s o s') : Inv key c ttl (es ++ [o]) s' where
  cache_eq := by
    rw [hs.cache_eq, h.cache_eq, List.filterMap_append, ResultCache.run, ResultCache.run,
      ResultCache.run, List.foldl_append]
    congr 1
  explains := h.explains_append hc htime hs
  leaves := by
    intro e he
    obtain he | rfl : e ∈ es ∨ e = o := by simpa using he
    · exact (h.leaves e he).step hs
    · exact hs.leaves
  executed := by
    intro t i args value he
    obtain he | rfl : ⟨t, .store i args value⟩ ∈ es ∨ ⟨t, .store i args value⟩ = o := by
      simpa using he
    · exact (h.executed t i args value he).append [o]
    · cases hs with
      | store hcall => exact Executed.append (h.explains i args _ hcall) _

/-! ## Histories -/

/-- The invariant holds of every history. -/
theorem History.inv (hc : ResultCache.create maxEntries ttl = .ok c) (h : History key c es s) :
    Inv key c ttl es s := by
  induction h with
  | start => exact Inv.start
  | step _ htime hs ih => exact ih.step hc htime hs

/-- After any history a call can go through at one time, and then it is `getOrCompute`. -/
theorem History.exists_uninterrupted (h : History key c es s) {t : Rat}
    (htime : ∀ e ∈ es, e.time ≤ t) (args : γ) (computed : Except ε α) :
    ∃ more, (∀ e ∈ more, e.time = t) ∧ History key c (es ++ more)
      ⟨(s.cache.getOrCompute t (key args) computed).2.2,
        s.calls ++ [⟨args, .ended (s.cache.getOrCompute t (key args) computed).1⟩]⟩ := by
  have hlast (p : Phase ε α) : (s.calls ++ [⟨args, p⟩])[s.calls.length]? = some ⟨args, p⟩ :=
    List.getElem?_concat_length
  have hset (p q : Phase ε α) :
      List.set (s.calls ++ [⟨args, p⟩]) s.calls.length ⟨args, q⟩ = s.calls ++ [⟨args, q⟩] := by
    simp
  rcases hget : s.cache.get t (key args) with ⟨_ | value, cache⟩
  · have h₁ := h.step htime (.missed hget)
    have htime₁ : ∀ e ∈ es ++ [⟨t, .lookUp s.calls.length args⟩], e.time ≤ t := by
      simpa [or_imp, forall_and] using htime
    cases computed with
    | ok value =>
      have h₂ := h₁.step (o := ⟨t, .complete s.calls.length value⟩) htime₁ (.complete (hlast _))
      rw [hset] at h₂
      have h₃ := h₂.step (o := ⟨t, .store s.calls.length args value⟩)
        (by simpa [or_imp, forall_and] using htime) (.store (hlast _))
      rw [hset] at h₃
      refine ⟨[⟨t, .lookUp s.calls.length args⟩, ⟨t, .complete s.calls.length value⟩,
        ⟨t, .store s.calls.length args value⟩], by simp, ?_⟩
      simpa [ResultCache.getOrCompute, hget] using h₃
    | error e =>
      have h₂ := h₁.step (o := ⟨t, .fail s.calls.length e⟩) htime₁ (.fail (hlast _))
      rw [hset] at h₂
      refine ⟨[⟨t, .lookUp s.calls.length args⟩, ⟨t, .fail s.calls.length e⟩], by simp, ?_⟩
      simpa [ResultCache.getOrCompute, hget] using h₂
  · have h₁ := h.step htime (.found hget)
    refine ⟨[⟨t, .lookUp s.calls.length args⟩], by simp, ?_⟩
    simpa [ResultCache.getOrCompute, hget] using h₁

/-- A call runs the function where the cache has no entry of its key that is younger than the time
to live. -/
theorem Inv.running (hc : ResultCache.create maxEntries ttl = .ok c) (h : Inv key c ttl es s)
    {t : Rat} {i : Nat} {args : γ} (hs : Step key s ⟨t, .lookUp i args⟩ s')
    (hold : ∀ x ∈ s.cache.entries, x.key = key args → ttl ≤ t - x.storedAt) :
    s'.calls[i]? = some ⟨args, .running⟩ := by
  cases hs with
  | missed => exact List.getElem?_concat_length
  | found hget =>
    obtain ⟨x, hx, hkey, hage, -⟩ := h.exists_entry hc (congrArg Prod.fst hget)
    exact absurd (hold x hx hkey) (Rat.not_le.2 hage)

/-- A call that has raised an error stores nothing. -/
theorem Inv.not_store (h : Inv key c ttl es s) {t : Rat} {i : Nat} {e : ε}
    (hfail : ⟨t, .fail i e⟩ ∈ es) (t' : Rat) (args : γ) (value : α) :
    ⟨t', .store i args value⟩ ∉ es := by
  intro hstore
  obtain ⟨args', hraised⟩ := h.leaves _ hfail
  have hreturned : s.calls[i]? = some ⟨args, .ended (.ok value)⟩ := h.leaves _ hstore
  rw [hreturned] at hraised
  cases hraised

/-- What calls do that share a cache, after the occurrences `es`. -/
structure Transparent (key : γ → String) (c : ResultCache α) (ttl : Rat)
    (es : List (Occurrence γ ε α)) (s : State γ ε α) : Prop where
  /-- A value is what the function gave for arguments with the same key: in the same call, or in
  one that stored it less than the time to live before the look-up. -/
  returned : ∀ i args value, s.calls[i]? = some ⟨args, .ended (.ok value)⟩ →
    Source key ttl es i args value
  /-- An error is raised as the function raises it, and only then. -/
  raised : ∀ i e, (∃ args, s.calls[i]? = some ⟨args, .ended (.error e)⟩) ↔
    ∃ t, ⟨t, .fail i e⟩ ∈ es
  /-- A call that raises an error stores nothing. -/
  not_store : ∀ t i e, ⟨t, .fail i e⟩ ∈ es → ∀ t' args value, ⟨t', .store i args value⟩ ∉ es
  /-- The cache is that of the look-ups and the stores alone. -/
  cache_eq : s.cache = c.run (es.filterMap (Occurrence.onCache? key))
  /-- Every entry was stored by a call that had computed it for the same key. -/
  entry : ∀ x ∈ s.cache.entries, ∃ j args, ⟨x.storedAt, .store j args x.value⟩ ∈ es ∧
    key args = x.key ∧ Executed es j args x.value
  /-- A call runs the function where no entry of its key is younger than the time to live. -/
  running : ∀ t i args s', Step key s ⟨t, .lookUp i args⟩ s' →
    (∀ x ∈ s.cache.entries, x.key = key args → ttl ≤ t - x.storedAt) →
    s'.calls[i]? = some ⟨args, .running⟩
  /-- A call without others in between is `getOrCompute`. -/
  uninterrupted : ∀ t, (∀ e ∈ es, e.time ≤ t) → ∀ args computed,
    ∃ more, (∀ e ∈ more, e.time = t) ∧ History key c (es ++ more)
      ⟨(s.cache.getOrCompute t (key args) computed).2.2,
        s.calls ++ [⟨args, .ended (s.cache.getOrCompute t (key args) computed).1⟩]⟩

end Memo

/-! ## Totals of years -/

namespace Chart

open Electorate.Store
open Electorate.Text (filter_splitOn_joinWith joinWith splitOn)

theorem canonicalItems_map_int (years : List Int) :
    Json.canonicalItems (years.map Json.int) = years.map Int.repr := by
  induction years with
  | nil => rfl
  | cons y years ih =>
    rw [List.map_cons, Json.canonicalItems, ih]
    rfl

/-- The key of years: their numerals between commas, and a text before and after that is the same
for all years. -/
theorem exists_totalsKey_eq : ∃ before after : String, ∀ years,
    totalsKey years = before ++ joinWith "," (years.map Int.repr) ++ after := by
  have hsorted (a b : String) : Json.sortMembers [("args", a), ("kwargs", b)] =
      [("args", a), ("kwargs", b)] :=
    List.mergeSort_of_pairwise (by simp)
  refine ⟨"total_voters_by_year" ++ ":" ++ "\x7b" ++ Json.stringText "args" ++ ":" ++ "[" ++ "[",
    "]" ++ "]" ++ "," ++ Json.memberText ("kwargs", Json.canonical (.object [])) ++ "\x7d",
    fun years => ?_⟩
  simp only [totalsKey, cacheKey, Json.canonical, Json.canonicalMembers, hsorted,
    Json.canonicalItems, canonicalItems_map_int, List.map_cons, List.map_nil, Json.memberText,
    joinWith, String.append_assoc]

/-- The totals of different years have different keys. -/
theorem totalsKey_inj {years years' : List Int} :
    totalsKey years = totalsKey years' ↔ years = years' := by
  obtain ⟨before, after, hkey⟩ := exists_totalsKey_eq
  have hread (ys : List Int) :
      (splitOn ',' (joinWith "," (ys.map Int.repr))).filter (· ≠ "") = ys.map Int.repr := by
    refine filter_splitOn_joinWith (fun s hs => ?_) fun s hs => ?_
    · obtain ⟨n, -, rfl⟩ := List.mem_map.1 hs
      exact not_comma_mem_repr n
    · obtain ⟨n, -, rfl⟩ := List.mem_map.1 hs
      exact intRepr_ne_empty n
  rw [hkey, hkey, String.append_left_inj, String.append_right_inj]
  constructor
  · intro h
    have hnumerals : years.map Int.repr = years'.map Int.repr := by rw [← hread, h, hread]
    exact (List.map_inj_right fun _ _ => intRepr_injective).1 hnumerals
  · rintro rfl
    rfl

/-- The totals are asked for in the same way whatever totals are kept, and take no time. -/
theorem exists_run_countTotals (years : List Int) (session : Session) :
    ∃ result outcomes asked, ∀ cache,
      (countTotals years).run.run { session with totals := cache } =
        (result, ⟨outcomes, asked, cache, session.now⟩) := by
  obtain ⟨outcomes, asked, totals, now⟩ := session
  unfold countTotals
  -- Years that are refused put no statement; else one is put, and it may have no outcome left.
  cases uniqueYears years with
  | error e => exact ⟨_, _, _, fun _ => rfl⟩
  | ok ys =>
    let put := asked ++ [.countByYear ys .always]
    rcases outcomes with _ | ⟨f | answer, rest⟩
    · exact ⟨.ok [], [], put, fun _ => rfl⟩
    · exact ⟨.error (report ofStore f), rest, put, fun _ => rfl⟩
    · refine ⟨(readYearCounts answer.rows).mapError .unreadable, rest, put, fun cache => ?_⟩
      show read (readYearCounts answer.rows) ⟨rest, _, cache, now⟩ = _
      cases readYearCounts answer.rows <;> rfl

/-- The totals of years are a call of `countTotals` whose results are kept. -/
theorem run_totals (years : List Int) (session : Session) :
    let computed := (countTotals years).run.run session
    let kept := session.totals.getOrCompute session.now (totalsKey years) computed.1
    (totals years).run.run session =
      (kept.1, { (if kept.2.1 then computed.2 else session) with totals := kept.2.2 }) := by
  intro computed kept
  obtain ⟨result, outcomes, asked, hrun⟩ := exists_run_countTotals years session
  have hcomputed : computed = (result, ⟨outcomes, asked, session.totals, session.now⟩) :=
    hrun session.totals
  rcases hget : session.totals.get session.now (totalsKey years) with ⟨_ | counts, cache⟩
  · rw [run_totals_of_none hget, freshTotals]
    cases result with
    | error e =>
      rw [run_bind_of_error (hrun cache)]
      simp [kept, ResultCache.getOrCompute, hget, hcomputed]
    | ok counts =>
      rw [run_bind_of_ok (hrun cache)]
      simp only [kept, ResultCache.getOrCompute, hget, hcomputed]
      rfl
  · rw [run_totals_of_some hget]
    simp [kept, ResultCache.getOrCompute, hget]

end Chart

/-! ## All orders -/

namespace Memo

variable {γ ε α : Type} {key : γ → String} {c : ResultCache α} {maxEntries : Int} {ttl : Rat}
  {es : List (Occurrence γ ε α)} {s : State γ ε α}

/-- Calls that share a cache return what the function gave for their key, in the same call or in one
that stored it less than the time to live before; errors pass through and leave nothing behind. The
totals of years are such calls, and their key tells different years apart. -/
theorem History.transparent (hc : ResultCache.create maxEntries ttl = .ok c)
    (h : History key c es s) :
    Transparent key c ttl es s ∧
    (∀ years years', Chart.totalsKey years = Chart.totalsKey years' ↔ years = years') ∧
    ∀ years session,
      let computed := (Chart.countTotals years).run.run session
      let kept := session.totals.getOrCompute session.now (Chart.totalsKey years) computed.1
      (Chart.totals years).run.run session =
        (kept.1, { (if kept.2.1 then computed.2 else session) with totals := kept.2.2 }) := by
  have hinv := h.inv hc
  refine ⟨?_, fun _ _ => Chart.totalsKey_inj, Chart.run_totals⟩
  constructor
  · exact fun i args value hcall => hinv.explains i args _ hcall
  · intro i e
    constructor
    · rintro ⟨args, hcall⟩
      exact (hinv.explains i args _ hcall).2
    · rintro ⟨t, hfail⟩
      exact hinv.leaves _ hfail
  · exact fun t i e hfail => hinv.not_store hfail
  · exact hinv.cache_eq
  · intro x hx
    obtain ⟨j, args, hstore, hkey⟩ := hinv.exists_store hc hx
    exact ⟨j, args, hstore, hkey, hinv.executed _ j args _ hstore⟩
  · exact fun t i args s' hs hold => hinv.running hc hs hold
  · exact fun t htime args computed => h.exists_uninterrupted htime args computed

/-- Two calls run the function for `a` at once, a third finds what the later of them stored, and one
for `b` fails. -/
theorem history_overlapping :
    History id (.empty 2 3600 : ResultCache Nat)
      [⟨0, .lookUp 0 "a"⟩, ⟨1, .lookUp 1 "a"⟩, ⟨2, .complete 0 7⟩, ⟨2, .store 0 "a" 7⟩,
        ⟨3, .complete 1 8⟩, ⟨3, .store 1 "a" 8⟩, ⟨4, .lookUp 2 "a"⟩, ⟨5, .lookUp 3 "b"⟩,
        ⟨6, .fail 3 "down"⟩]
      ⟨⟨2, 3600, [⟨"a", 3, 8⟩], 1, 3, 0⟩,
        [⟨"a", .ended (.ok 7)⟩, ⟨"a", .ended (.ok 8)⟩, ⟨"a", .ended (.ok 8)⟩,
          ⟨"b", .ended (.error "down")⟩]⟩ := by
  have hmissed : History (ε := String) id (.empty 2 3600 : ResultCache Nat)
      [⟨0, .lookUp 0 "a"⟩, ⟨1, .lookUp 1 "a"⟩]
      ⟨⟨2, 3600, [], 0, 2, 0⟩, [⟨"a", .running⟩, ⟨"a", .running⟩]⟩ :=
    (History.start.step (by decide +kernel) (.missed rfl)).step (by decide +kernel) (.missed rfl)
  have hstored : History id (.empty 2 3600 : ResultCache Nat)
      [⟨0, .lookUp 0 "a"⟩, ⟨1, .lookUp 1 "a"⟩, ⟨2, .complete 0 7⟩, ⟨2, .store 0 "a" 7⟩,
        ⟨3, .complete 1 8⟩, ⟨3, .store 1 "a" 8⟩]
      ⟨⟨2, 3600, [⟨"a", 3, 8⟩], 0, 2, 0⟩,
        [⟨"a", .ended (.ok 7)⟩, ⟨"a", .ended (.ok 8)⟩]⟩ :=
    (((hmissed.step (by decide +kernel) (.complete (i := 0) rfl)).step (by decide +kernel)
      (.store (i := 0) rfl)).step (by decide +kernel) (.complete (i := 1) rfl)).step
      (by decide +kernel) (.store (i := 1) rfl)
  have hfound := hstored.step (o := ⟨4, .lookUp 2 "a"⟩) (by decide +kernel)
    (.found (ResultCache.get_of_found (x := ⟨"a", 3, 8⟩) rfl (by decide +kernel)))
  have hrunning := hfound.step (o := ⟨5, .lookUp 3 "b"⟩) (by decide +kernel) (.missed rfl)
  exact hrunning.step (by decide +kernel) (.fail (i := 3) rfl)

/-- The calls of that history. -/
theorem transparent_overlapping :
    Transparent id (.empty 2 3600 : ResultCache Nat) 3600
      [⟨0, .lookUp 0 "a"⟩, ⟨1, .lookUp 1 "a"⟩, ⟨2, .complete 0 7⟩, ⟨2, .store 0 "a" 7⟩,
        ⟨3, .complete 1 8⟩, ⟨3, .store 1 "a" 8⟩, ⟨4, .lookUp 2 "a"⟩, ⟨5, .lookUp 3 "b"⟩,
        ⟨6, .fail 3 "down"⟩]
      ⟨⟨2, 3600, [⟨"a", 3, 8⟩], 1, 3, 0⟩,
        [⟨"a", .ended (.ok 7)⟩, ⟨"a", .ended (.ok 8)⟩, ⟨"a", .ended (.ok 8)⟩,
          ⟨"b", .ended (.error "down")⟩]⟩ := by
  have hcreate : ResultCache.create 2 3600 = .ok (.empty 2 3600 : ResultCache Nat) :=
    ResultCache.create_eq_ok_iff.2 ⟨by decide, by decide +kernel, rfl⟩
  exact (History.transparent hcreate history_overlapping).1

end Memo

end Electorate
