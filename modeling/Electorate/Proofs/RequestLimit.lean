import Electorate.Proofs.Entries
import Electorate.Proofs.Statuses
import Mathlib.Algebra.Order.Ring.Rat
import Mathlib.Data.List.Induction

/-!
# The limit of requests

Requests of any clients arrive one after the other, at times that do not go back. The log of a
client's requests is pruned, but it never forgets one that still counts.

* `Hit`, `HitLog.enter`: an entered request, and a log after some of them.
* `HitLog.recent_enter`: what a log keeps of a client and what all its requests are, seen from the
  start of a later window. `HitLog.hit_enter`: so the number of a request is exact.
* `Arrival`, `Application.receive`, `Application.served`: a request that meets the store in some
  state, the answer to it, and the answers to a row of them.
* `Application.refused_iff`: a request is refused for the number of earlier ones of its client.
* `Application.countP_letThrough_le`: any interval as long as the window.
* `Application.limits_exactly`: all of them together.
-/

namespace Electorate.Web

open Electorate.Store (Session)

/-! ## The log -/

/-- A request that is entered: its client and its time. -/
structure Hit where
  client : String
  time : Rat

/-- Whether a request is one of a client after the start of a window. -/
def Hit.counts (client : String) (start : Rat) (h : Hit) : Bool :=
  h.client = client ∧ start < h.time

theorem Hit.counts_iff {client : String} {start : Rat} {h : Hit} :
    h.counts client start ↔ h.client = client ∧ start < h.time := by
  simp [Hit.counts]

namespace HitLog

/-- The log after more requests, which are entered under one window. -/
def enter (window : Rat) (log : HitLog) (hits : List Hit) : HitLog :=
  hits.foldl (fun log h => (log.hit h.client h.time window).2) log

@[simp] theorem enter_nil (window : Rat) (log : HitLog) : log.enter window [] = log := rfl

@[simp] theorem enter_append (window : Rat) (log : HitLog) (hits : List Hit) (h : Hit) :
    log.enter window (hits ++ [h]) = ((log.enter window hits).hit h.client h.time window).2 := by
  simp [enter]

/-- To enter a request changes what is kept of its own client alone. -/
theorem times_hit (log : HitLog) (client other : String) (now window : Rat) :
    (log.hit client now window).2.times other =
      if other = client then recent (now - window) (log.times client) ++ [now]
      else log.times other := by
  simp only [hit, times, Entries.lookup_put]
  split <;> rfl

/-- The times that have left one window have left every later one. -/
theorem recent_recent {start start' : Rat} (h : start' ≤ start) (times : List Rat) :
    recent start (recent start' times) = recent start times := by
  simp only [recent, List.filter_filter]
  refine List.filter_congr fun t _ => ?_
  have hlt : start < t → start' < t := fun ht => lt_of_le_of_lt h ht
  simpa using hlt

theorem recent_append (start : Rat) (times times' : List Rat) :
    recent start (times ++ times') = recent start times ++ recent start times' :=
  List.filter_append ..

/-- The times of all requests of a client. -/
def allTimes (client : String) (hits : List Hit) : List Rat :=
  (hits.filter fun h => h.client = client).map (·.time)

theorem length_recent_allTimes (client : String) (start : Rat) (hits : List Hit) :
    (recent start (allTimes client hits)).length = hits.countP (Hit.counts client start) := by
  rw [recent, allTimes, List.filter_map, List.length_map, List.filter_filter,
    List.countP_eq_length_filter]
  congr 1
  refine List.filter_congr fun h _ => ?_
  simp [Hit.counts, Bool.and_comm]

/-- What is kept of a client holds every request that is after the start of a window, as long as
the window of no entered request starts later. -/
theorem recent_enter {window start : Rat} {hits : List Hit}
    (hstart : ∀ h ∈ hits, h.time - window ≤ start) (client : String) :
    recent start ((empty.enter window hits).times client) =
      recent start (allTimes client hits) := by
  induction hits using List.reverseRecOn with
  | nil => rfl
  | append_singleton hits h ih =>
    have hpast := ih fun h' hm => hstart h' (List.mem_append_left _ hm)
    have hlast : h.time - window ≤ start := hstart h (by simp)
    rw [enter_append, times_hit]
    by_cases hc : client = h.client
    · subst hc
      have hall : allTimes h.client (hits ++ [h]) = allTimes h.client hits ++ [h.time] := by
        simp [allTimes]
      rw [if_pos rfl, hall, recent_append, recent_append, recent_recent hlast, hpast]
    · have hall : allTimes client (hits ++ [h]) = allTimes client hits := by
        simp [allTimes, Ne.symm hc]
      rw [if_neg hc, hall, hpast]

/-- The number of a request is one more than that of the client's earlier requests in the window
that ends with it. -/
theorem hit_enter {window now : Rat} {hits : List Hit} (hpast : ∀ h ∈ hits, h.time ≤ now)
    (client : String) :
    ((empty.enter window hits).hit client now window).1 =
      hits.countP (Hit.counts client (now - window)) + 1 := by
  have hstart : ∀ h ∈ hits, h.time - window ≤ now - window := fun h hm =>
    sub_le_sub_right (hpast h hm) window
  rw [hit, List.length_append, recent_enter hstart, length_recent_allTimes, List.length_singleton]

end HitLog

/-! ## The application -/

/-- A request that arrives while the conversation with the store is in some state. Its clock tells
the time of the request; ages are taken in a year. -/
structure Arrival where
  request : Request
  session : Session
  year : Int

/-- The time of a request. -/
def Arrival.time (a : Arrival) : Rat := a.session.now

namespace Application

variable {app : Application}

/-- The response to a request that arrives, and the application after it. -/
def receive (app : Application) (a : Arrival) : Response × Application :=
  { app with session := a.session }.respond a.year a.request

/-- The application after requests that arrive one after the other. -/
def afterAll (app : Application) (arrivals : List Arrival) : Application :=
  arrivals.foldl (fun app a => (app.receive a).2) app

/-- Requests that arrive one after the other, each with the response to it. -/
def served (app : Application) : List Arrival → List (Arrival × Response)
  | [] => []
  | a :: rest => (a, (app.receive a).1) :: (app.receive a).2.served rest

/-- The entry of a request that arrives. -/
def hitOf (app : Application) (a : Arrival) : Hit := ⟨app.clientOf a.request, a.time⟩

/-- Whether a request is one of a client after the start of a window. -/
def countsFor (app : Application) (client : String) (start : Rat) (a : Arrival) : Bool :=
  (app.hitOf a).counts client start

theorem countsFor_iff {client : String} {start : Rat} {a : Arrival} :
    app.countsFor client start a ↔ app.clientOf a.request = client ∧ start < a.time :=
  Hit.counts_iff

@[simp] theorem afterAll_append (app : Application) (arrivals : List Arrival) (a : Arrival) :
    app.afterAll (arrivals ++ [a]) = ((app.afterAll arrivals).receive a).2 := by
  simp [afterAll]

theorem served_append (app : Application) (arrivals : List Arrival) (a : Arrival) :
    app.served (arrivals ++ [a]) =
      app.served arrivals ++ [(a, ((app.afterAll arrivals).receive a).1)] := by
  induction arrivals generalizing app with
  | nil => rfl
  | cons b arrivals ih => simp [served, ih, afterAll]

theorem map_fst_served (app : Application) (arrivals : List Arrival) :
    (app.served arrivals).map Prod.fst = arrivals := by
  induction arrivals generalizing app with
  | nil => rfl
  | cons a arrivals ih => simp [served, ih]

/-- A request is entered whether it is let through or refused; the settings stay. -/
theorem receive_snd (app : Application) (a : Arrival) :
    (app.receive a).2.hits = (app.hits.hit (app.hitOf a).client a.time windowSeconds).2 ∧
      (app.receive a).2.settings = app.settings := by
  by_cases h : admits app.settings.rateLimitPerMinute
    (counted { app with session := a.session } a.request).1
  · rw [receive, respond_of_admits h]
    exact ⟨rfl, rfl⟩
  · rw [receive, respond_of_not_admits h]
    exact ⟨rfl, rfl⟩

theorem settings_afterAll (app : Application) (arrivals : List Arrival) :
    (app.afterAll arrivals).settings = app.settings := by
  induction arrivals using List.reverseRecOn with
  | nil => rfl
  | append_singleton arrivals a ih => rw [afterAll_append, (receive_snd _ a).2, ih]

theorem hitOf_congr {app' : Application} (h : app'.settings = app.settings) (a : Arrival) :
    app'.hitOf a = app.hitOf a := by
  simp [hitOf, clientOf, h]

/-- The log after requests is the one that they were entered into, in their order. -/
theorem hits_afterAll (app : Application) (arrivals : List Arrival) :
    (app.afterAll arrivals).hits = app.hits.enter windowSeconds (arrivals.map app.hitOf) := by
  induction arrivals using List.reverseRecOn with
  | nil => rfl
  | append_singleton arrivals a ih =>
    rw [afterAll_append, (receive_snd _ a).1, hitOf_congr (settings_afterAll app arrivals), ih,
      List.map_append, List.map_singleton, HitLog.enter_append]
    rfl

/-- A request is numbered by all earlier ones of its client in the window that ends with it. -/
theorem counted_afterAll (hfresh : app.hits = .empty) {before : List Arrival} {a : Arrival}
    (hpast : ∀ b ∈ before, b.time ≤ a.time) :
    ((app.afterAll before).hits.hit (app.clientOf a.request) a.time windowSeconds).1 =
      before.countP (app.countsFor (app.clientOf a.request) (a.time - windowSeconds)) + 1 := by
  have hhits : ∀ h ∈ before.map app.hitOf, h.time ≤ a.time := by
    intro h hm
    obtain ⟨b, hb, rfl⟩ := List.mem_map.mp hm
    exact hpast b hb
  rw [hits_afterAll, hfresh, HitLog.hit_enter hhits, List.countP_map]
  rfl

/-- A request is refused if its client has made at least as many requests as the limit in the
window before it. -/
theorem refused_iff (hfresh : app.hits = .empty) {before : List Arrival} {a : Arrival}
    (hpast : ∀ b ∈ before, b.time ≤ a.time) :
    ((app.afterAll before).receive a).1.status = 429 ↔
      app.settings.rateLimitPerMinute ≤
        before.countP (app.countsFor (app.clientOf a.request) (a.time - windowSeconds)) := by
  have hcount : (counted { app.afterAll before with session := a.session } a.request).1 =
      before.countP (app.countsFor (app.clientOf a.request) (a.time - windowSeconds)) + 1 := by
    rw [← counted_afterAll hfresh hpast, counted, clientOf, settings_afterAll]
    rfl
  rw [receive, status_respond_eq_iff, hcount, settings_afterAll]
  simp only [admits, decide_eq_true_eq, Nat.cast_add, Nat.cast_one]
  omega

/-- Whether a request is one of a client in the interval behind `start` and was let through. -/
def letThrough (app : Application) (client : String) (start : Rat) (e : Arrival × Response) : Bool :=
  e.2.status ≠ 429 ∧ app.countsFor client start e.1 ∧ e.1.time ≤ start + windowSeconds

theorem letThrough_iff {client : String} {start : Rat} {a : Arrival} {r : Response} :
    app.letThrough client start (a, r) ↔ r.status ≠ 429 ∧ app.clientOf a.request = client ∧
      start < a.time ∧ a.time ≤ start + windowSeconds := by
  simp only [letThrough, decide_eq_true_eq, countsFor_iff, and_assoc]

/-- In an interval as long as the window, no more requests of a client are let through than the
limit allows. -/
theorem countP_letThrough_le (hfresh : app.hits = .empty) {arrivals : List Arrival}
    (horder : arrivals.Pairwise fun a b => a.time ≤ b.time) (client : String) (start : Rat) :
    (app.served arrivals).countP (app.letThrough client start) ≤
      app.settings.rateLimitPerMinute.toNat := by
  induction arrivals using List.reverseRecOn with
  | nil => exact Nat.zero_le _
  | append_singleton arrivals a ih =>
    obtain ⟨hbefore, -, hpast⟩ := List.pairwise_append.mp horder
    rw [served_append, List.countP_append, List.countP_singleton]
    split
    · rename_i hlast
      obtain ⟨hadmitted, hclient, -, hend⟩ := letThrough_iff.mp hlast
      subst hclient
      -- What was let through in the interval before the last request is in that one's window.
      have hwindow : (app.served arrivals).countP (app.letThrough (app.clientOf a.request) start) ≤
          arrivals.countP (app.countsFor (app.clientOf a.request) (a.time - windowSeconds)) := by
        conv_rhs => rw [← map_fst_served app arrivals, List.countP_map]
        refine List.countP_mono_left fun e _ he => ?_
        obtain ⟨-, hclient, hstart, -⟩ := letThrough_iff.mp he
        exact countsFor_iff.mpr ⟨hclient, lt_of_le_of_lt (sub_le_iff_le_add.mpr hend) hstart⟩
      have hlimit := mt (refused_iff hfresh fun b hb => hpast b hb a (by simp)).mpr hadmitted
      omega
    · exact ih hbefore

/-- The limit is exact. The log numbers a request by all earlier ones of its client in the window
that ends with it, though it drops old ones. A request gets the status 429 if these are at least as
many as the limit, whether they were let through or refused and whatever other clients do. In no
interval as long as the window are more requests of a client let through than the limit. -/
theorem limits_exactly (app : Application) (hfresh : app.hits = .empty) (arrivals : List Arrival)
    (horder : arrivals.Pairwise fun a b => a.time ≤ b.time) :
    (∀ (hits : List Hit) client now, (∀ h ∈ hits, h.time ≤ now) →
      ((HitLog.empty.enter windowSeconds hits).hit client now windowSeconds).1 =
        hits.countP (Hit.counts client (now - windowSeconds)) + 1) ∧
    (∀ before a rest, arrivals = before ++ a :: rest →
      (((app.afterAll before).receive a).1.status = 429 ↔ app.settings.rateLimitPerMinute ≤
        before.countP (app.countsFor (app.clientOf a.request) (a.time - windowSeconds)))) ∧
    ∀ client start, (app.served arrivals).countP (app.letThrough client start) ≤
      app.settings.rateLimitPerMinute.toNat := by
  refine ⟨fun hits client now hpast => HitLog.hit_enter hpast client,
    fun before a rest harrivals => ?_, countP_letThrough_le hfresh horder⟩
  exact refused_iff hfresh fun b hb =>
    (List.pairwise_append.mp (harrivals ▸ horder)).2.2 b hb a (by simp)

/-- Under a limit of one request, the third of a client is refused after a minute and let through
after a minute and a half: the second one was refused, but it counts. -/
theorem limits_exactly_oneClient :
    let app : Application := ⟨{ Settings.ofUrl "db" with rateLimitPerMinute := 1 }, true, .empty,
      ⟨[], [], .empty 1 1, 0⟩⟩
    let arrival (time : Rat) : Arrival :=
      ⟨⟨"GET", "/", [], [], some "a"⟩, ⟨[], [], .empty 1 1, time⟩, 2024⟩
    ((app.afterAll [arrival 0, arrival 30]).receive (arrival 60)).1.status = 429 ∧
      ((app.afterAll [arrival 0, arrival 30]).receive (arrival 90)).1.status ≠ 429 := by
  intro app arrival
  constructor
  · have hlimits := limits_exactly app rfl [arrival 0, arrival 30, arrival 60]
      (by decide +kernel)
    exact (hlimits.2.1 [arrival 0, arrival 30] _ [] rfl).mpr (by decide +kernel)
  · have hlimits := limits_exactly app rfl [arrival 0, arrival 30, arrival 90]
      (by decide +kernel)
    exact mt (hlimits.2.1 [arrival 0, arrival 30] _ [] rfl).mp (by decide +kernel)

end Application

end Electorate.Web
