import Electorate.Json

/-!
# A cache of results

Results are kept for a fixed time and up to a fixed number. The least recently used one makes
room for a new one.

* `ResultCache`: the entries, least recently used first, and counters.
* `get`: a result that is younger than the time to live; reading it makes it the most recent.
  An older one is dropped.
* `set`: stores a result as the most recent and drops the least recent beyond the limit.
* `contains`, `containsValue`: whether a key, or a value of any kind, has a result.
* `getOrCompute`: a result from the cache, or a computed one, which is stored unless it failed.

Time is a rational number of seconds that the caller gives, and the age of an entry is the exact
difference of two times. A clock gives doubles, whose difference is rounded: that rounding is left
out, so that an entry whose age lies within it of the time to live may be taken either way.
-/

namespace Electorate

/-- A stored result. -/
structure CacheEntry (α : Type) where
  key : String
  storedAt : Rat
  value : α

/-- A cache of results. -/
structure ResultCache (α : Type) where
  /-- The greatest number of entries. -/
  maxEntries : Nat
  /-- Seconds after which a result is not given out any more. -/
  ttl : Rat
  /-- The entries, least recently used first. -/
  entries : List (CacheEntry α)
  hits : Nat
  misses : Nat
  evictions : Nat

/-- Why a cache cannot be set up. -/
inductive CacheError where
  | noRoom
  | noTime
deriving DecidableEq, Repr

/-- The wording of the refusal. -/
def CacheError.message : CacheError → String
  | noRoom => "max_entries must be positive"
  | noTime => "ttl_seconds must be positive"

namespace ResultCache

/-- The number of entries unless it is chosen. -/
def defaultMaxEntries : Int := 256

/-- The time to live unless it is chosen. -/
def defaultTtl : Rat := 3600

/-- The empty cache for a number of entries and a time to live. -/
def empty (maxEntries : Nat) (ttl : Rat) : ResultCache α := ⟨maxEntries, ttl, [], 0, 0, 0⟩

/-- The empty cache for a positive number of entries and a positive time to live. -/
def create (maxEntries : Int) (ttl : Rat) : Except CacheError (ResultCache α) :=
  if maxEntries ≤ 0 then .error .noRoom
  else if ttl ≤ 0 then .error .noTime
  else .ok (empty maxEntries.toNat ttl)

/-- The number of entries held, expired ones included. -/
def size (c : ResultCache α) : Nat := c.entries.length

/-- The entry of a key, whatever its age. -/
def find? (c : ResultCache α) (key : String) : Option (CacheEntry α) :=
  c.entries.find? (·.key == key)

/-- The entries of all other keys. -/
def othersThan (key : String) (entries : List (CacheEntry α)) : List (CacheEntry α) :=
  entries.filter (·.key != key)

/-- The result of a key at a time, and the cache after the look-up. -/
def get (c : ResultCache α) (now : Rat) (key : String) : Option α × ResultCache α :=
  match c.find? key with
  | none => (none, { c with misses := c.misses + 1 })
  | some e =>
    if c.ttl ≤ now - e.storedAt then
      (none, { c with entries := othersThan key c.entries, misses := c.misses + 1 })
    else
      (some e.value, { c with entries := othersThan key c.entries ++ [e], hits := c.hits + 1 })

/-- The cache after storing a result. -/
def set (c : ResultCache α) (now : Rat) (key : String) (value : α) : ResultCache α :=
  let entries := othersThan key c.entries ++ [⟨key, now, value⟩]
  let excess := entries.length - c.maxEntries
  { c with entries := entries.drop excess, evictions := c.evictions + excess }

/-- The cache without a key. -/
def invalidate (c : ResultCache α) (key : String) : ResultCache α :=
  { c with entries := othersThan key c.entries }

/-- The cache without its entries. -/
def clear (c : ResultCache α) : ResultCache α := { c with entries := [] }

/-- Whether a key has a result at a time. This counts as a look-up. -/
def contains (c : ResultCache α) (now : Rat) (key : String) : Bool × ResultCache α :=
  let (found, after) := c.get now key
  (found.isSome, after)

/-- Whether a value of any kind is a key that has a result at a time. Only texts are keys; to ask
for another value is no look-up. -/
def containsValue (c : ResultCache α) (now : Rat) : Json → Bool × ResultCache α
  | .text key => c.contains now key
  | _ => (false, c)

/-- A result from the cache, or the computed one. A computed result is stored, a failure is not.
The flag tells whether the computation was used. -/
def getOrCompute (c : ResultCache α) (now : Rat) (key : String) (computed : Except ε α) :
    Except ε α × Bool × ResultCache α :=
  match c.get now key with
  | (some value, after) => (.ok value, false, after)
  | (none, after) =>
    match computed with
    | .ok value => (.ok value, true, after.set now key value)
    | .error e => (.error e, true, after)

end ResultCache

end Electorate
