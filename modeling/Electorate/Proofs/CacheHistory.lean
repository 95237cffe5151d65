import Electorate.Cache.ResultCache
import Electorate.Distinct
import Mathlib.Data.List.Basic
import Mathlib.Data.List.Induction
import Mathlib.Data.List.Perm.Subperm
import Mathlib.Data.List.TakeWhile

/-!
# What a cache gives out after a history

A cache is followed through any events: look-ups, stored results, invalidations and questions,
each at a time.

* `Event`, `run`: an operation at a time, and the cache after events.
* `uses`: the keys that were stored or found, in the order of the events. `usedSince`: those after
  the last use of a key.
* `Stored`: the latest result stored under a key, while nothing has ended it.
* `Effect`: all that one event can do to a cache.
* `Inv`: what holds of a cache after any events. `Inv.after`: one event keeps it. `inv`: so it
  holds of every run.
* `faithful_of_create`: every result that is given out is the latest of its key and young enough.
* `retains_of_create`: a result stays until its key is the one that was used longest ago.
-/

namespace Electorate

namespace ResultCache

variable {α : Type}

/-! ## Histories -/

/-- An operation on a cache. -/
inductive Operation (α : Type) where
  | get (key : String)
  | set (key : String) (value : α)
  | invalidate (key : String)
  | clear
  | contains (value : Json)
  | size

/-- An operation at a time. -/
structure Event (α : Type) where
  time : Rat
  operation : Operation α

/-- The cache after an event. -/
def after (c : ResultCache α) (e : Event α) : ResultCache α :=
  match e.operation with
  | .get key => (c.get e.time key).2
  | .set key value => c.set e.time key value
  | .invalidate key => c.invalidate key
  | .clear => c.clear
  | .contains value => (c.containsValue e.time value).2
  | .size => c

/-- The cache after events. -/
def run (c : ResultCache α) (es : List (Event α)) : ResultCache α := es.foldl after c

@[simp] theorem run_nil (c : ResultCache α) : c.run [] = c := rfl

@[simp] theorem run_append (c : ResultCache α) (es : List (Event α)) (e : Event α) :
    c.run (es ++ [e]) = (c.run es).after e := by simp [run]

/-- The value that an operation asks for. -/
def Operation.asked? : Operation α → Option Json
  | .get key => some (.text key)
  | .contains value => some value
  | _ => none

/-- The key that an operation looks up. A value that is no text is not looked up. -/
def Operation.sought? (o : Operation α) : Option String :=
  match o.asked? with
  | some (.text key) => some key
  | _ => none

/-- Whether an operation ends the life of what is stored under a key. -/
def Operation.ends (key : String) : Operation α → Bool
  | .set other _ => other == key
  | .invalidate other => other == key
  | .clear => true
  | _ => false

/-- The key that an event uses: one that it stores, or looks up and finds. -/
def used? (c : ResultCache α) (e : Event α) : Option String :=
  match e.operation with
  | .set key _ => some key
  | o => o.sought?.filter fun key => (c.get e.time key).1.isSome

/-- The keys that events use, the latest last. -/
def uses (c : ResultCache α) : List (Event α) → List String
  | [] => []
  | e :: es => (c.used? e).toList ++ (c.after e).uses es

@[simp] theorem uses_append (c : ResultCache α) (es : List (Event α)) (e : Event α) :
    c.uses (es ++ [e]) = c.uses es ++ ((c.run es).used? e).toList := by
  induction es generalizing c with
  | nil => simp [uses]
  | cons d es ih => simp [uses, run, ih]

/-- The keys that are used after the last use of a key. -/
def usedSince (key : String) (keys : List String) : List String :=
  keys.reverse.takeWhile (· ≠ key)

theorem ne_of_mem_usedSince {key other : String} {keys : List String}
    (h : other ∈ usedSince key keys) : other ≠ key := by
  simpa using List.mem_takeWhile_imp h

/-- A use of another key is one more since the last use. -/
theorem usedSince_append {key other : String} (keys : List String) (h : other ≠ key) :
    usedSince key (keys ++ [other]) = other :: usedSince key keys := by
  simp [usedSince, h]

/-- The entry `x` is stored: it was set, and no event after that has ended it. -/
def Stored (es : List (Event α)) (x : CacheEntry α) : Prop :=
  ∃ before since, es = before ++ ⟨x.storedAt, .set x.key x.value⟩ :: since ∧
    ∀ e ∈ since, e.operation.ends x.key = false

theorem not_stored_nil (x : CacheEntry α) : ¬ Stored [] x := by
  simp [Stored]

/-- An entry is stored after an event that sets it, and after one that does not end it. -/
theorem stored_append_iff {es : List (Event α)} {e : Event α} {x : CacheEntry α} :
    Stored (es ++ [e]) x ↔ e = ⟨x.storedAt, .set x.key x.value⟩ ∨
      (Stored es x ∧ e.operation.ends x.key = false) := by
  constructor
  · rintro ⟨before, since, hes, hsince⟩
    obtain rfl | ⟨since, last, rfl⟩ := since.eq_nil_or_concat'
    -- Nothing came after the event that set the entry, or the last of what came is the new event.
    · have hlast : e = ⟨x.storedAt, .set x.key x.value⟩ := by
        simpa using (List.append_inj' hes rfl).2
      exact .inl hlast
    · rw [← List.cons_append, ← List.append_assoc] at hes
      obtain ⟨rfl, hlast⟩ := List.append_inj' hes rfl
      obtain rfl : e = last := by simpa using hlast
      have hearlier : ∀ d ∈ since, d.operation.ends x.key = false := fun d hd =>
        hsince d (List.mem_append_left _ hd)
      exact .inr ⟨⟨before, since, rfl, hearlier⟩, hsince e (by simp)⟩
  · rintro (rfl | ⟨⟨before, since, rfl, hsince⟩, he⟩)
    · exact ⟨es, [], rfl, by simp⟩
    · refine ⟨before, since ++ [e], by simp, fun d hd => ?_⟩
      obtain hd | rfl : d ∈ since ∨ d = e := by simpa using hd
      · exact hsince d hd
      · exact he

/-- One entry at most is stored under a key. -/
theorem Stored.unique {es : List (Event α)} {x y : CacheEntry α} (hx : Stored es x)
    (hy : Stored es y) (hkey : x.key = y.key) : x = y := by
  induction es using List.reverseRecOn with
  | nil => exact absurd hx (not_stored_nil x)
  | append_singleton es e ih =>
    obtain rfl | ⟨hx, hex⟩ := stored_append_iff.1 hx <;>
      obtain hey | ⟨hy, hey⟩ := stored_append_iff.1 hy
    · -- Both are what the last event sets.
      obtain ⟨hat, hset⟩ := Event.mk.inj hey
      obtain ⟨-, hvalue⟩ := Operation.set.inj hset
      cases x
      cases y
      cases hkey
      cases hat
      cases hvalue
      rfl
    · -- The last event sets the one, which ends the other.
      simp [Operation.ends, hkey] at hey
    · subst hey
      simp [Operation.ends, hkey] at hex
    · exact ih hx hy

/-! ## One event -/

/-- What an event does to a cache: the cache after it and the key that it uses. -/
inductive Effect (c : ResultCache α) (e : Event α) : ResultCache α → Option String → Prop
  /-- A look-up finds a young entry, which is now the latest in use. -/
  | found (x : CacheEntry α) : e.operation.sought? = some x.key → x ∈ c.entries →
      e.time - x.storedAt < c.ttl →
      Effect c e { c with entries := othersThan x.key c.entries ++ [x], hits := c.hits + 1 }
        (some x.key)
  /-- A look-up finds no entry, or an old one, which is taken out. -/
  | missed (key : String) : e.operation.sought? = some key →
      (∀ x, c.find? key = some x → c.ttl ≤ e.time - x.storedAt) →
      Effect c e { c with entries := othersThan key c.entries, misses := c.misses + 1 } none
  /-- A result is stored. -/
  | stored (key : String) (value : α) : e.operation = .set key value →
      Effect c e (c.set e.time key value) (some key)
  /-- What the operation ends is taken out, if it ends anything. -/
  | removed : e.operation.sought? = none → (∀ key value, e.operation ≠ .set key value) →
      Effect c e { c with entries := c.entries.filter fun x => !e.operation.ends x.key } none

theorem find?_eq_some {c : ResultCache α} {key : String} {x : CacheEntry α}
    (h : c.find? key = some x) : x ∈ c.entries ∧ x.key = key :=
  ⟨List.mem_of_find?_eq_some h, by simpa using List.find?_some h⟩

theorem othersThan_of_find?_eq_none {c : ResultCache α} {key : String} (h : c.find? key = none) :
    othersThan key c.entries = c.entries :=
  List.filter_eq_self.2 fun x hx => by simpa using List.find?_eq_none.1 h x hx

@[simp] theorem mem_othersThan {key : String} {entries : List (CacheEntry α)} {x : CacheEntry α} :
    x ∈ othersThan key entries ↔ x ∈ entries ∧ x.key ≠ key := by
  simp [othersThan]

/-- A look-up finds no entry of the key, or an old one, which is taken out. -/
theorem get_of_missed {c : ResultCache α} {now : Rat} {key : String}
    (h : ∀ x, c.find? key = some x → c.ttl ≤ now - x.storedAt) :
    c.get now key =
      (none, { c with entries := othersThan key c.entries, misses := c.misses + 1 }) := by
  cases hfind : c.find? key with
  | none => simp [get, hfind, othersThan_of_find?_eq_none hfind]
  | some x => simp [get, hfind, h x hfind]

/-- A look-up finds a young entry of the key, which is now the latest in use. -/
theorem get_of_found {c : ResultCache α} {now : Rat} {key : String} {x : CacheEntry α}
    (h : c.find? key = some x) (hage : now - x.storedAt < c.ttl) :
    c.get now key = (some x.value,
      { c with entries := othersThan key c.entries ++ [x], hits := c.hits + 1 }) := by
  simp [get, h, Rat.not_le.2 hage]

/-- A look-up is one or the other. -/
theorem missed_or_found (c : ResultCache α) (now : Rat) (key : String) :
    (∀ x, c.find? key = some x → c.ttl ≤ now - x.storedAt) ∨
      ∃ x, c.find? key = some x ∧ now - x.storedAt < c.ttl := by
  cases hfind : c.find? key with
  | none => exact .inl (by simp)
  | some x =>
    by_cases hage : c.ttl ≤ now - x.storedAt
    · exact .inl (by simpa using hage)
    · exact .inr ⟨x, rfl, Rat.not_le.1 hage⟩

theorem containsValue_of_ne_text {value : Json} (h : ∀ key, value ≠ .text key)
    (c : ResultCache α) (now : Rat) : c.containsValue now value = (false, c) := by
  cases value with
  | text key => exact absurd rfl (h key)
  | _ => rfl

theorem sought?_contains_of_ne_text {value : Json} (h : ∀ key, value ≠ .text key) :
    (Operation.contains value : Operation α).sought? = none := by
  cases value with
  | text key => exact absurd rfl (h key)
  | _ => rfl

theorem effect_get (c : ResultCache α) {e : Event α} {key : String}
    (h : e.operation.sought? = some key) :
    Effect c e (c.get e.time key).2
      ((some key).filter fun key => (c.get e.time key).1.isSome) := by
  obtain hmissed | ⟨x, hfind, hage⟩ := missed_or_found c e.time key
  · simpa [Option.filter_some, get_of_missed hmissed] using Effect.missed key h hmissed
  · obtain ⟨hx, rfl⟩ := find?_eq_some hfind
    simpa [Option.filter_some, get_of_found hfind hage] using Effect.found x h hx hage

/-- Every event has one of the four effects. -/
theorem effect (c : ResultCache α) (e : Event α) : Effect c e (c.after e) (c.used? e) := by
  obtain ⟨time, operation⟩ := e
  cases operation with
  | get key => exact effect_get c (e := ⟨time, .get key⟩) rfl
  | set key value => exact .stored key value rfl
  | invalidate key =>
    have removed := Effect.removed (c := c) (e := ⟨time, .invalidate key⟩) rfl (by simp)
    simpa [after, used?, Operation.sought?, Operation.asked?, Operation.ends, invalidate,
      othersThan, bne, Bool.beq_comm] using removed
  | clear =>
    have removed := Effect.removed (c := c) (e := ⟨time, .clear⟩) rfl (by simp)
    simpa [after, used?, Operation.sought?, Operation.asked?, Operation.ends, clear] using removed
  | contains value =>
    obtain ⟨key, rfl⟩ | hvalue : (∃ key, value = .text key) ∨ ∀ key, value ≠ .text key := by
      cases value <;> simp
    · exact effect_get c (e := ⟨time, .contains (.text key)⟩) rfl
    · have removed := Effect.removed (c := c) (e := ⟨time, .contains value⟩)
        (sought?_contains_of_ne_text hvalue) (by simp)
      simpa [after, used?, containsValue_of_ne_text hvalue, sought?_contains_of_ne_text hvalue,
        Operation.ends] using removed
  | size =>
    have removed := Effect.removed (c := c) (e := ⟨time, .size⟩) rfl (by simp)
    simpa [after, used?, Operation.sought?, Operation.asked?, Operation.ends] using removed

/-! ## The order of use -/

/-- The key of `y` is used after the last use of the key of `x`. -/
def Precedes (keys : List String) (x y : CacheEntry α) : Prop := y.key ∈ usedSince x.key keys

/-- Entries in the order of use have keys of their own. -/
theorem nodup_of_precedes {keys : List String} {entries : List (CacheEntry α)}
    (h : entries.Pairwise (Precedes keys)) : (entries.map (·.key)).Nodup := by
  rw [List.Nodup, List.pairwise_map]
  exact h.imp fun hxy => (ne_of_mem_usedSince hxy).symm

/-- The entry in use comes after all others, which keep their order. -/
theorem precedes_append {keys : List String} {entries : List (CacheEntry α)}
    (h : entries.Pairwise (Precedes keys)) (x : CacheEntry α) :
    (othersThan x.key entries ++ [x]).Pairwise (Precedes (keys ++ [x.key])) := by
  have hne : ∀ y ∈ othersThan x.key entries, x.key ≠ y.key := fun y hy =>
    (mem_othersThan.1 hy).2.symm
  rw [List.pairwise_append]
  refine ⟨?_, by simp, ?_⟩
  · refine (h.sublist List.filter_sublist).imp_of_mem fun {y z} hy _ hyz => ?_
    rw [Precedes, usedSince_append keys (hne y hy)]
    exact List.mem_cons_of_mem _ hyz
  · intro y hy z hz
    obtain rfl : z = x := by simpa using hz
    rw [Precedes, usedSince_append keys (hne y hy)]
    exact List.mem_cons_self

theorem length_distinct_le {keys : List String} {key : String} :
    (distinct keys).length ≤ (distinct (key :: keys)).length := by
  refine (List.Nodup.subperm (nodup_distinct keys) fun k hk => ?_).length_le
  exact mem_distinct.2 (List.mem_cons_of_mem _ (mem_distinct.1 hk))

/-- As many other keys as come after an entry have been used since its last use. -/
theorem length_le_of_precedes {keys : List String} {pre post : List (CacheEntry α)}
    {x : CacheEntry α} (h : (pre ++ x :: post).Pairwise (Precedes keys)) :
    post.length ≤ (distinct (usedSince x.key keys)).length := by
  have hpost := List.pairwise_cons.1 (List.pairwise_append.1 h).2.1
  have hsub : post.map (·.key) ⊆ distinct (usedSince x.key keys) := by
    intro key hkey
    obtain ⟨y, hy, rfl⟩ := List.mem_map.1 hkey
    exact mem_distinct.2 (hpost.1 y hy)
  simpa using ((nodup_of_precedes hpost.2).subperm hsub).length_le

/-- Of entries in the order of use, those beyond the latest `maxEntries` have fallen behind. -/
theorem mem_drop_or_behind (maxEntries : Nat) {keys : List String}
    {entries : List (CacheEntry α)} (h : entries.Pairwise (Precedes keys)) {x : CacheEntry α}
    (hx : x ∈ entries) :
    x ∈ entries.drop (entries.length - maxEntries) ∨
      maxEntries ≤ (distinct (usedSince x.key keys)).length := by
  obtain ⟨pre, post, rfl⟩ := List.append_of_mem hx
  have hpost := length_le_of_precedes h
  have hlength : (pre ++ x :: post).length = pre.length + (post.length + 1) := by simp
  by_cases hpre : pre.length < (pre ++ x :: post).length - maxEntries
  · exact .inr (by omega)
  · refine .inl ?_
    rw [List.drop_append_of_le_length (by omega)]
    simp

/-! ## The invariant -/

/-- The entry `x` is there, or was found old by one of the events `es`, or `maxEntries` other keys
are among `keys` since its last use. -/
def Accounted (maxEntries : Nat) (ttl : Rat) (es : List (Event α)) (keys : List String)
    (entries : List (CacheEntry α)) (x : CacheEntry α) : Prop :=
  x ∈ entries ∨ (∃ e ∈ es, ttl ≤ e.time - x.storedAt) ∨
    maxEntries ≤ (distinct (usedSince x.key keys)).length

/-- What holds of a cache for `maxEntries` and `ttl` after the events `es`, which used `keys`. -/
structure Inv (maxEntries : Nat) (ttl : Rat) (es : List (Event α)) (keys : List String)
    (c : ResultCache α) : Prop where
  maxEntries_eq : c.maxEntries = maxEntries
  ttl_eq : c.ttl = ttl
  length_le : c.entries.length ≤ maxEntries
  /-- The entries stand in the order of use. -/
  ordered : c.entries.Pairwise (Precedes keys)
  used : ∀ x ∈ c.entries, x.key ∈ keys
  stored : ∀ x ∈ c.entries, Stored es x
  accounted : ∀ x, Stored es x → Accounted maxEntries ttl es keys c.entries x
  counted : c.hits + c.misses = es.countP (·.operation.sought?.isSome)

section Step

variable {maxEntries : Nat} {ttl : Rat} {es : List (Event α)} {keys : List String}
  {c : ResultCache α} {e : Event α}

/-- The entry of a key is the one that is stored. -/
theorem Inv.eq_of_stored (h : Inv maxEntries ttl es keys c) {x y : CacheEntry α}
    (hx : Stored es x) (hy : y ∈ c.entries) (hkey : y.key = x.key) : y = x :=
  (h.stored y hy).unique hx hkey

/-- A look-up comes upon every entry, whatever its age. -/
theorem Inv.find?_key (h : Inv maxEntries ttl es keys c) {x : CacheEntry α} (hx : x ∈ c.entries) :
    c.find? x.key = some x := by
  have hsome : (c.find? x.key).isSome := List.find?_isSome.2 ⟨x, hx, by simp⟩
  obtain ⟨y, hfind⟩ := Option.isSome_iff_exists.1 hsome
  obtain ⟨hy, hkey⟩ := find?_eq_some hfind
  rwa [h.eq_of_stored (h.stored x hx) hy hkey] at hfind

/-- An entry that is there and that an event does not end is stored after it. -/
theorem Inv.stored_append (h : Inv maxEntries ttl es keys c) {x : CacheEntry α}
    (hx : x ∈ c.entries) (he : e.operation.ends x.key = false) : Stored (es ++ [e]) x :=
  stored_append_iff.2 (.inr ⟨h.stored x hx, he⟩)

/-- A stored entry that is not there any more is not used. -/
theorem Inv.used?_ne (h : Inv maxEntries ttl es keys c) {x : CacheEntry α} (hx : Stored es x)
    (hmem : x ∉ c.entries) (he : e.operation.ends x.key = false) : c.used? e ≠ some x.key := by
  intro hused
  have heffect := hused ▸ effect c e
  generalize c.after e = d at heffect
  generalize hkey : x.key = key at heffect
  cases heffect with
  | found y _ hy _ => exact hmem (h.eq_of_stored hx hy hkey.symm ▸ hy)
  | stored key value hset => simp [hset, Operation.ends, hkey] at he

/-- To account for every entry after an event, it is enough to do so for one that it sets, and for
those that were there and that it does not end. -/
theorem Inv.accounted_append (h : Inv maxEntries ttl es keys c) (entries : List (CacheEntry α))
    (hset : ∀ x, e = ⟨x.storedAt, .set x.key x.value⟩ →
      Accounted maxEntries ttl (es ++ [e]) (keys ++ (c.used? e).toList) entries x)
    (hkept : ∀ x ∈ c.entries, e.operation.ends x.key = false →
      Accounted maxEntries ttl (es ++ [e]) (keys ++ (c.used? e).toList) entries x)
    (x : CacheEntry α) (hx : Stored (es ++ [e]) x) :
    Accounted maxEntries ttl (es ++ [e]) (keys ++ (c.used? e).toList) entries x := by
  obtain hnew | ⟨hold, he⟩ := stored_append_iff.1 hx
  · exact hset x hnew
  by_cases hmem : x ∈ c.entries
  · exact hkept x hmem he
  obtain hx | ⟨d, hd, hage⟩ | hbehind := h.accounted x hold
  · exact absurd hx hmem
  · exact .inr (.inl ⟨d, by simp [hd], hage⟩)
  -- The key is not in use again, so what came after its last use has only grown.
  · refine .inr (.inr (hbehind.trans ?_))
    cases hused : c.used? e with
    | none => simp
    | some key =>
      have hne : key ≠ x.key := fun hkey => h.used?_ne hold hmem he (hkey ▸ hused)
      simpa [usedSince_append keys hne] using length_distinct_le

theorem ends_of_sought {o : Operation α} {key : String} (h : o.sought? = some key)
    (other : String) : o.ends other = false := by
  cases o with
  | get _ => rfl
  | contains _ => rfl
  | _ => cases h

theorem not_set_of_sought {key : String} (h : e.operation.sought? = some key)
    (x : CacheEntry α) : e ≠ ⟨x.storedAt, .set x.key x.value⟩ := by
  rintro rfl
  simp [Operation.sought?, Operation.asked?] at h

theorem ne_of_set {key : String} {value : α} (he : e.operation = .set key value)
    {x : CacheEntry α} (hx : e.operation.ends x.key = false) : x.key ≠ key := by
  rintro rfl
  simp [he, Operation.ends] at hx

theorem countP_append_of_sought (es : List (Event α)) {key : String}
    (h : e.operation.sought? = some key) :
    (es ++ [e]).countP (·.operation.sought?.isSome) =
      es.countP (·.operation.sought?.isSome) + 1 := by
  simp [h]

theorem Inv.found (h : Inv maxEntries ttl es keys c) {x : CacheEntry α}
    (hused : c.used? e = some x.key) (hsought : e.operation.sought? = some x.key)
    (hx : x ∈ c.entries) :
    Inv maxEntries ttl (es ++ [e]) (keys ++ [x.key])
      { c with entries := othersThan x.key c.entries ++ [x], hits := c.hits + 1 } := by
  have hmem : ∀ y, y ∈ othersThan x.key c.entries ++ [x] → y ∈ c.entries := by
    intro y hy
    obtain ⟨hy, -⟩ | rfl : (y ∈ c.entries ∧ y.key ≠ x.key) ∨ y = x := by simpa using hy
    exacts [hy, hx]
  have hlt : (othersThan x.key c.entries).length < c.entries.length :=
    List.length_filter_lt_length_iff_exists.2 ⟨x, hx, by simp⟩
  exact {
    maxEntries_eq := h.maxEntries_eq
    ttl_eq := h.ttl_eq
    length_le := by
      have := h.length_le
      simp only [List.length_append, List.length_singleton]
      omega
    ordered := precedes_append h.ordered x
    used := fun y hy => List.mem_append_left _ (h.used y (hmem y hy))
    stored := fun y hy => h.stored_append (hmem y hy) (ends_of_sought hsought y.key)
    accounted := by
      -- The entry that is found moves to the end, and the others stay.
      have hstays : ∀ y ∈ c.entries, y ∈ othersThan x.key c.entries ++ [x] := by
        intro y hy
        by_cases hkey : y.key = x.key
        · have hsame : y = x := h.eq_of_stored (h.stored x hx) hy hkey
          simp [hsame]
        · simp [hy, hkey]
      have hall := h.accounted_append (e := e) (othersThan x.key c.entries ++ [x])
        (fun y hy => absurd hy (not_set_of_sought hsought y)) fun y hy _ => .inl (hstays y hy)
      simpa [hused] using hall
    counted := by
      rw [countP_append_of_sought es hsought, ← h.counted]
      exact Nat.add_right_comm _ _ _ }

theorem Inv.missed (h : Inv maxEntries ttl es keys c) {key : String}
    (hused : c.used? e = none) (hsought : e.operation.sought? = some key)
    (hold : ∀ x, c.find? key = some x → c.ttl ≤ e.time - x.storedAt) :
    Inv maxEntries ttl (es ++ [e]) keys
      { c with entries := othersThan key c.entries, misses := c.misses + 1 } where
  maxEntries_eq := h.maxEntries_eq
  ttl_eq := h.ttl_eq
  length_le := (List.length_filter_le _ _).trans h.length_le
  ordered := h.ordered.sublist List.filter_sublist
  used := fun y hy => h.used y (mem_othersThan.1 hy).1
  stored := fun y hy =>
    h.stored_append (mem_othersThan.1 hy).1 (ends_of_sought hsought y.key)
  accounted := by
    have hall := h.accounted_append (e := e) (othersThan key c.entries)
      (fun y hy => absurd hy (not_set_of_sought hsought y)) fun y hy _ => by
        by_cases hkey : y.key = key
        · -- The entry of the key was found too old.
          have hage : ttl ≤ e.time - y.storedAt := h.ttl_eq ▸ hold y (hkey ▸ h.find?_key hy)
          exact .inr (.inl ⟨e, by simp, hage⟩)
        · exact .inl (mem_othersThan.2 ⟨hy, hkey⟩)
    simpa [hused] using hall
  counted := by
    rw [countP_append_of_sought es hsought, ← h.counted]
    rfl

theorem Inv.removed (h : Inv maxEntries ttl es keys c)
    (hused : c.used? e = none) (hsought : e.operation.sought? = none)
    (hset : ∀ key value, e.operation ≠ .set key value) :
    Inv maxEntries ttl (es ++ [e]) keys
      { c with entries := c.entries.filter fun x => !e.operation.ends x.key } where
  maxEntries_eq := h.maxEntries_eq
  ttl_eq := h.ttl_eq
  length_le := (List.length_filter_le _ _).trans h.length_le
  ordered := h.ordered.sublist List.filter_sublist
  used := fun y hy => h.used y (List.mem_filter.1 hy).1
  stored := by
    intro y hy
    obtain ⟨hy, he⟩ := List.mem_filter.1 hy
    have hends : e.operation.ends y.key = false := by simpa using he
    exact h.stored_append hy hends
  accounted := by
    have hall := h.accounted_append (e := e) (c.entries.filter fun x => !e.operation.ends x.key)
      (fun y hy => absurd (congrArg Event.operation hy) (hset y.key y.value)) fun y hy he =>
        .inl (List.mem_filter.2 ⟨hy, by simp [he]⟩)
    simpa [hused] using hall
  counted := by simp [h.counted, hsought]

theorem Inv.set (h : Inv maxEntries ttl es keys c) {key : String} {value : α}
    (hused : c.used? e = some key) (he : e.operation = .set key value) :
    Inv maxEntries ttl (es ++ [e]) (keys ++ [key]) (c.set e.time key value) := by
  have hordered := precedes_append h.ordered ⟨key, e.time, value⟩
  have hmem : ∀ y ∈ (c.set e.time key value).entries,
      (y ∈ c.entries ∧ y.key ≠ key) ∨ y = ⟨key, e.time, value⟩ := by
    intro y hy
    simpa using List.mem_of_mem_drop hy
  exact {
    maxEntries_eq := h.maxEntries_eq
    ttl_eq := h.ttl_eq
    length_le := by
      have := h.maxEntries_eq
      simp only [ResultCache.set, List.length_drop]
      omega
    ordered := hordered.sublist (List.drop_sublist _ _)
    used := by
      intro y hy
      obtain ⟨hy, -⟩ | rfl := hmem y hy
      · exact List.mem_append_left _ (h.used y hy)
      · simp
    stored := by
      intro y hy
      obtain ⟨hy, hkey⟩ | rfl := hmem y hy
      · have hends : e.operation.ends y.key = false := by
          simpa [he, Operation.ends] using hkey.symm
        exact h.stored_append hy hends
      · exact stored_append_iff.2 (.inl (congrArg (Event.mk e.time) he))
    accounted := by
      have hplace : ∀ y ∈ othersThan key c.entries ++ [⟨key, e.time, value⟩],
          Accounted maxEntries ttl (es ++ [e]) (keys ++ [key])
            (c.set e.time key value).entries y := by
        intro y hy
        obtain hy | hbehind := mem_drop_or_behind maxEntries hordered hy
        · exact .inl (by simpa [ResultCache.set, h.maxEntries_eq] using hy)
        · exact .inr (.inr hbehind)
      have hall := h.accounted_append (e := e) (c.set e.time key value).entries
      rw [hused] at hall
      refine hall (fun y hy => hplace y ?_) (fun y hy hends => hplace y ?_)
      · subst hy
        obtain ⟨rfl, rfl⟩ : y.key = key ∧ y.value = value := by simpa using he
        simp
      · simp [hy, ne_of_set he hends]
    counted := by simpa [ResultCache.set, he, Operation.sought?, Operation.asked?] using h.counted }

/-- One event keeps the invariant. -/
theorem Inv.after (h : Inv maxEntries ttl es keys c) (e : Event α) :
    Inv maxEntries ttl (es ++ [e]) (keys ++ (c.used? e).toList) (c.after e) := by
  have heffect := effect c e
  generalize hused : c.used? e = used at *
  generalize c.after e = d at *
  cases heffect with
  | found x hsought hx _ => exact h.found hused hsought hx
  | missed key hsought hold => simpa using h.missed hused hsought hold
  | stored key value hset => exact h.set hused hset
  | removed hsought hset => simpa using h.removed hused hsought hset

end Step

theorem create_eq_ok_iff {maxEntries : Int} {ttl : Rat} {c : ResultCache α} :
    create maxEntries ttl = .ok c ↔ 0 < maxEntries ∧ 0 < ttl ∧ c = empty maxEntries.toNat ttl := by
  by_cases hroom : maxEntries ≤ 0
  · simp [create, hroom, Int.not_lt.2 hroom]
  by_cases htime : ttl ≤ 0
  · simp [create, hroom, htime, Rat.not_lt.2 htime]
  · simp only [create, hroom, htime, if_false, Except.ok.injEq]
    rw [Rat.not_le] at htime
    simp [htime, Int.not_le.1 hroom, eq_comm]

theorem inv_empty (maxEntries : Nat) (ttl : Rat) :
    Inv maxEntries ttl [] [] (empty maxEntries ttl : ResultCache α) where
  maxEntries_eq := rfl
  ttl_eq := rfl
  length_le := Nat.zero_le _
  ordered := .nil
  used := by simp [empty]
  stored := by simp [empty]
  accounted := fun x hx => absurd hx (not_stored_nil x)
  counted := rfl

/-- The invariant holds of every run. -/
theorem inv_run (maxEntries : Nat) (ttl : Rat) (es : List (Event α)) :
    Inv maxEntries ttl es ((empty maxEntries ttl).uses es) ((empty maxEntries ttl).run es) := by
  induction es using List.reverseRecOn with
  | nil => exact inv_empty maxEntries ttl
  | append_singleton es e ih => simpa using ih.after e

theorem inv_of_create {maxEntries : Int} {ttl : Rat} {c : ResultCache α}
    (h : create maxEntries ttl = .ok c) (es : List (Event α)) :
    Inv maxEntries.toNat ttl es (c.uses es) (c.run es) := by
  obtain ⟨-, -, rfl⟩ := create_eq_ok_iff.1 h
  exact inv_run maxEntries.toNat ttl es

/-! ## What is given out -/

/-- A look-up gives out the value of a young entry, and nothing else. -/
theorem get_eq_some_iff {c : ResultCache α} {now : Rat} {key : String} {value : α} :
    (c.get now key).1 = some value ↔
      ∃ x, c.find? key = some x ∧ now - x.storedAt < c.ttl ∧ x.value = value := by
  obtain hmissed | ⟨x, hfind, hage⟩ := missed_or_found c now key
  · simp only [get_of_missed hmissed, reduceCtorEq, false_iff]
    rintro ⟨x, hfind, hage, -⟩
    exact Rat.not_le.2 hage (hmissed x hfind)
  · simp [get_of_found hfind hage, hfind, hage]

/-- What a cache `c` for `maxEntries` results and the time to live `ttl` gives out and counts after
the events `es`. -/
structure Faithful (maxEntries : Int) (ttl : Rat) (es : List (Event α)) (c : ResultCache α) :
    Prop where
  size_le : (c.size : Int) ≤ maxEntries
  nodup : (c.entries.map (·.key)).Nodup
  /-- A look-up gives out what was set last under its key, while nothing has ended it and it is
  younger than the time to live. -/
  served : ∀ now key value, (c.get now key).1 = some value →
    ∃ storedAt, Stored es ⟨key, storedAt, value⟩ ∧ now - storedAt < ttl
  /-- So is what is among the keys. -/
  member : ∀ now value, (c.containsValue now value).1 = true →
    ∃ x, value = .text x.key ∧ Stored es x ∧ now - x.storedAt < ttl
  /-- A young entry is given out, whatever its value is. -/
  given : ∀ x ∈ c.entries, ∀ now, now - x.storedAt < ttl → (c.get now x.key).1 = some x.value
  /-- So is a result that is set now. -/
  renewed : ∀ (x : CacheEntry α) (later : Rat), later - x.storedAt < ttl →
    ((c.set x.storedAt x.key x.value).get later x.key).1 = some x.value
  /-- A look-up that finds a result is one more hit, another look-up is one more miss. -/
  tallied : ∀ now key, (c.get now key).2.hits = c.hits + (c.get now key).1.isSome.toNat ∧
    (c.get now key).2.misses = c.misses + (c.get now key).1.isNone.toNat
  counted : c.hits + c.misses = es.countP (·.operation.sought?.isSome)
  /-- What is no text is not among the keys, and to ask for it changes nothing. -/
  unasked : ∀ now value, (∀ key, value ≠ .text key) → c.containsValue now value = (false, c)

theorem Inv.served {maxEntries : Nat} {ttl : Rat} {es : List (Event α)} {keys : List String}
    {c : ResultCache α} (h : Inv maxEntries ttl es keys c) {now : Rat} {key : String} {value : α}
    (hget : (c.get now key).1 = some value) :
    ∃ storedAt, Stored es ⟨key, storedAt, value⟩ ∧ now - storedAt < ttl := by
  obtain ⟨x, hfind, hage, rfl⟩ := get_eq_some_iff.1 hget
  obtain ⟨hx, rfl⟩ := find?_eq_some hfind
  exact ⟨x.storedAt, h.stored x hx, h.ttl_eq ▸ hage⟩

theorem Inv.given {maxEntries : Nat} {ttl : Rat} {es : List (Event α)} {keys : List String}
    {c : ResultCache α} (h : Inv maxEntries ttl es keys c) {x : CacheEntry α}
    (hx : x ∈ c.entries) {now : Rat} (hage : now - x.storedAt < ttl) :
    (c.get now x.key).1 = some x.value :=
  get_eq_some_iff.2 ⟨x, h.find?_key hx, h.ttl_eq ▸ hage, rfl⟩

theorem get_tally (c : ResultCache α) (now : Rat) (key : String) :
    (c.get now key).2.hits = c.hits + (c.get now key).1.isSome.toNat ∧
      (c.get now key).2.misses = c.misses + (c.get now key).1.isNone.toNat := by
  obtain hmissed | ⟨x, hfind, hage⟩ := missed_or_found c now key
  · simp [get_of_missed hmissed]
  · simp [get_of_found hfind hage]

/-- A result that is set is the last entry, if there is room for one. -/
theorem mem_set (c : ResultCache α) (h : 0 < c.maxEntries) (x : CacheEntry α) :
    x ∈ (c.set x.storedAt x.key x.value).entries := by
  have hlength : (othersThan x.key c.entries ++ [x]).length - c.maxEntries ≤
      (othersThan x.key c.entries).length := by
    simp only [List.length_append, List.length_singleton]
    omega
  simp only [ResultCache.set]
  rw [List.drop_append_of_le_length hlength]
  simp

/-- A cache gives out the latest results only, and only while they are young. It never holds more
than its bound, and counts every look-up once. -/
theorem faithful_of_create {maxEntries : Int} {ttl : Rat} {c : ResultCache α}
    (h : create maxEntries ttl = .ok c) (es : List (Event α)) :
    Faithful maxEntries ttl es (c.run es) := by
  have hinv := inv_of_create h es
  obtain ⟨hroom, -, -⟩ := create_eq_ok_iff.1 h
  exact {
    size_le := by
      have : (c.run es).size ≤ maxEntries.toNat := hinv.length_le
      omega
    nodup := nodup_of_precedes hinv.ordered
    served := fun _ _ _ => hinv.served
    member := by
      intro now value hmember
      cases value with
      | text key =>
        obtain ⟨v, hv⟩ := Option.isSome_iff_exists.1 hmember
        obtain ⟨storedAt, hstored, hage⟩ := hinv.served hv
        exact ⟨⟨key, storedAt, v⟩, rfl, hstored, hage⟩
      | _ => simp [containsValue] at hmember
    given := fun _ hx _ => hinv.given hx
    renewed := by
      intro x later hage
      have hset := hinv.after ⟨x.storedAt, .set x.key x.value⟩
      have hmem := mem_set (c.run es) (by have := hinv.maxEntries_eq; omega) x
      exact hset.given hmem hage
    tallied := get_tally (c.run es)
    counted := hinv.counted
    unasked := fun now _ hvalue => containsValue_of_ne_text hvalue (c.run es) now }

/-- A cache that stored `none`, gave it out, was asked for a number, and found `none` too old after
an hour. -/
theorem faithful_none :
    Faithful 2 3600 [⟨0, .set "total" none⟩, ⟨9, .get "total"⟩, ⟨9, .contains (.int 5)⟩,
      ⟨3600, .contains (.text "total")⟩]
      ((empty 2 3600 : ResultCache (Option Nat)).run [⟨0, .set "total" none⟩, ⟨9, .get "total"⟩,
        ⟨9, .contains (.int 5)⟩, ⟨3600, .contains (.text "total")⟩]) :=
  faithful_of_create (create_eq_ok_iff.2 ⟨by decide, by decide +kernel, rfl⟩) _

/-- The question for a value that is no text is neither a hit nor a miss. -/
theorem not_counted_number : ¬ ∀ es : List (Event Nat),
    ((empty 256 3600).run es).hits + ((empty 256 3600).run es).misses =
      es.countP (·.operation.asked?.isSome) := by
  intro h
  exact absurd (h [⟨0, .contains (.int 5)⟩]) (by decide +kernel)

/-! ## What stays -/

/-- From `c` to `d`, the event `e` evicts nothing: it takes out only entries that it ends, or that
it looks up and finds old. -/
structure Spares (c : ResultCache α) (e : Event α) (d : ResultCache α) : Prop where
  evictions_eq : d.evictions = c.evictions
  kept : ∀ x ∈ c.entries, e.operation.ends x.key = false →
    (e.operation.sought? = some x.key → e.time - x.storedAt < c.ttl) → x ∈ d.entries

/-- From `c` to `d`, the event `e` sets a new result and evicts one entry, `x`. Among the entries
that were there and the new one, the last use of `x` among `keys` is the oldest. -/
structure Evicts (keys : List String) (c : ResultCache α) (e : Event α) (d : ResultCache α)
    (x : CacheEntry α) : Prop where
  evictions_eq : d.evictions = c.evictions + 1
  mem : x ∈ c.entries
  mem_iff : ∀ y, y ∈ d.entries ↔
    (y ∈ c.entries ∧ y.key ≠ x.key) ∨ e = ⟨y.storedAt, .set y.key y.value⟩
  used : x.key ∈ keys
  oldest : ∀ y ∈ d.entries, y.key ∈ usedSince x.key keys

section Step

variable {maxEntries : Nat} {ttl : Rat} {es : List (Event α)} {keys : List String}
  {c : ResultCache α} {e : Event α}

/-- To set a result evicts nothing while there is room for one more. -/
theorem spares_set {key : String} {value : α} (he : e.operation = .set key value)
    (hroom : (othersThan key c.entries).length < c.maxEntries) :
    Spares c e (c.set e.time key value) := by
  have hexcess : (othersThan key c.entries).length + 1 - c.maxEntries = 0 := by omega
  constructor
  · simp [ResultCache.set, hexcess]
  · intro x hx hends _
    simp [ResultCache.set, hexcess, hx, ne_of_set he hends]

/-- To set a result in a full cache evicts the entry that was used longest ago. -/
theorem Inv.evicts_set (h : Inv maxEntries ttl es keys c) (hpos : 0 < maxEntries) {key : String}
    {value : α} (he : e = ⟨e.time, .set key value⟩)
    (hfull : maxEntries ≤ (othersThan key c.entries).length) :
    ∃ x, Evicts (keys ++ [key]) c e (c.set e.time key value) x := by
  have hle : (othersThan key c.entries).length ≤ c.entries.length := List.length_filter_le _ _
  have hlength : c.entries.length = maxEntries := by have := h.length_le; omega
  have hothers : othersThan key c.entries = c.entries :=
    List.filter_eq_self.2 (List.length_filter_eq_length_iff.1 (hle.antisymm (hlength ▸ hfull)))
  have hordered := precedes_append h.ordered ⟨key, e.time, value⟩
  obtain ⟨x, rest, hentries⟩ := List.exists_cons_of_length_pos (hlength ▸ hpos)
  have hexcess : (c.entries ++ [(⟨key, e.time, value⟩ : CacheEntry α)]).length - c.maxEntries =
      1 := by
    simp [h.maxEntries_eq, hlength]
  have hset : (c.set e.time key value).entries = rest ++ [⟨key, e.time, value⟩] := by
    simp only [ResultCache.set, hothers, hexcess]
    simp [hentries]
  rw [hothers, hentries, List.cons_append, List.pairwise_cons, ← hset] at hordered
  have hx : x ∈ c.entries := by simp [hentries]
  refine ⟨x, ?_, hx, fun y => ?_, List.mem_append_left _ (h.used x hx), hordered.1⟩
  · simp only [ResultCache.set, hothers, hexcess]
  · have hnew : e = ⟨y.storedAt, .set y.key y.value⟩ ↔ y = ⟨key, e.time, value⟩ := by
      rw [he]
      cases y
      simp only [Event.mk.injEq, Operation.set.injEq, CacheEntry.mk.injEq]
      constructor
      · rintro ⟨htime, hkey, hvalue⟩
        exact ⟨hkey.symm, htime.symm, hvalue.symm⟩
      · rintro ⟨hkey, htime, hvalue⟩
        exact ⟨htime.symm, hkey.symm, hvalue.symm⟩
    have hrest : y ∈ rest → y.key ≠ x.key := fun hy =>
      ne_of_mem_usedSince (hordered.1 y (by simp [hset, hy]))
    simp only [hset, hentries, hnew, List.mem_append, List.mem_cons, List.not_mem_nil, or_false]
    constructor
    · rintro (hy | hy)
      · exact .inl ⟨.inr hy, hrest hy⟩
      · exact .inr hy
    · rintro (⟨rfl | hy, hkey⟩ | hy)
      · exact absurd rfl hkey
      · exact .inl hy
      · exact .inr hy

/-- An event evicts nothing, or the entry that was used longest ago. -/
theorem Inv.spares_or_evicts (h : Inv maxEntries ttl es keys c) (hpos : 0 < maxEntries)
    {d : ResultCache α} {used : Option String} (heffect : Effect c e d used) :
    Spares c e d ∨ ∃ x, Evicts (keys ++ used.toList) c e d x := by
  cases heffect with
  | found x hsought hx _ =>
    refine .inl ⟨rfl, fun y hy _ _ => ?_⟩
    by_cases hkey : y.key = x.key
    · simp [h.eq_of_stored (h.stored x hx) hy hkey]
    · simp [hy, hkey]
  | missed key hsought hold =>
    refine .inl ⟨rfl, fun y hy _ hage => ?_⟩
    by_cases hkey : y.key = key
    · subst hkey
      exact absurd (hold y (h.find?_key hy)) (Rat.not_le.2 (hage hsought))
    · simp [hy, hkey]
  | stored key value he =>
    by_cases hroom : (othersThan key c.entries).length < c.maxEntries
    · exact .inl (spares_set he hroom)
    -- Without room the entry that was used longest ago goes.
    · refine .inr (h.evicts_set hpos (congrArg (Event.mk e.time) he) ?_)
      rw [← h.maxEntries_eq]
      exact Nat.not_lt.1 hroom
  | removed =>
    refine .inl ⟨rfl, fun y hy hends _ => ?_⟩
    simp [hy, hends]

/-- A stored entry that is young, and that fewer than `maxEntries` other keys follow in use, is
there. -/
theorem Inv.mem_of_stored (h : Inv maxEntries ttl es keys c) {x : CacheEntry α}
    (hx : Stored es x) (hfew : (distinct (usedSince x.key keys)).length < maxEntries) {now : Rat}
    (htime : ∀ e ∈ es, e.time ≤ now) (hage : now - x.storedAt < ttl) : x ∈ c.entries := by
  obtain hmem | ⟨e, he, hold⟩ | hbehind := h.accounted x hx
  · exact hmem
  · have := htime e he
    grind
  · exact absurd hbehind (Nat.not_le.2 hfew)

end Step

/-- A cache keeps a result until it is old, as long as fewer other keys than its bound are used
after the last use of its own. What makes room for a new result is the entry that was used longest
ago. -/
theorem retains_of_create {maxEntries : Int} {ttl : Rat} {c : ResultCache α}
    (h : create maxEntries ttl = .ok c) (es : List (Event α)) :
    (∀ x now, Stored es x → (∀ e ∈ es, e.time ≤ now) →
      ((distinct (usedSince x.key (c.uses es))).length : Int) < maxEntries →
      now - x.storedAt < ttl → ((c.run es).get now x.key).1 = some x.value) ∧
    ∀ e, Spares (c.run es) e (c.run (es ++ [e])) ∨
      ∃ x, Evicts (c.uses (es ++ [e])) (c.run es) e (c.run (es ++ [e])) x := by
  have hinv := inv_of_create h es
  obtain ⟨hroom, -, -⟩ := create_eq_ok_iff.1 h
  constructor
  · intro x now hx htime hfew hage
    exact hinv.given (hinv.mem_of_stored hx (by omega) htime hage) hage
  · intro e
    rw [run_append, uses_append]
    exact hinv.spares_or_evicts (by omega) (effect (c.run es) e)

/-- In a cache for two results, `b` makes room for `c` after `a` was looked up. -/
theorem retains_after_lookup :
    (((empty 2 3600 : ResultCache Nat).run [⟨0, .set "a" 1⟩, ⟨1, .set "b" 2⟩, ⟨2, .get "a"⟩,
      ⟨3, .set "c" 3⟩]).get 9 "a").1 = some 1 := by
  have hcreate : create 2 3600 = .ok (empty 2 3600 : ResultCache Nat) :=
    create_eq_ok_iff.2 ⟨by decide, by decide +kernel, rfl⟩
  have hstored : Stored
      [⟨0, .set "a" 1⟩, ⟨1, .set "b" 2⟩, ⟨2, .get "a"⟩, ⟨3, .set "c" 3⟩] ⟨"a", 0, 1⟩ :=
    ⟨[], [⟨1, .set "b" 2⟩, ⟨2, .get "a"⟩, ⟨3, .set "c" 3⟩], rfl, by simp [Operation.ends]⟩
  have hretains := (retains_of_create hcreate _).1 ⟨"a", 0, 1⟩ 9 hstored
  exact hretains (by decide +kernel) (by decide +kernel) (by decide +kernel)

end ResultCache

end Electorate
