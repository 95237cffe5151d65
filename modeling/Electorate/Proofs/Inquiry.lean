import Electorate.Store.Session

/-!
# What inquiries make of faults

An inquiry that puts its statements one after the other, and reports the fault of any of them, goes
no further than the first fault.

* `run_bind_of_ok`, `run_bind_of_error`: an inquiry made of two parts.
* `run_ask`, `run_attempt`, `run_askGuarded`: a statement and its outcome.
* `run_askGuarded_bind_of_ok`, `run_askGuarded_bind_of_error`: a statement and what follows it.
* `run_mapM_nextOutcomes`, `run_mapM_attempt`: statements whose faults are not passed on, one after
  the other.
* `FailsAs`: an inquiry that fails with a part of it.
* `report`: the failure that a fault is reported as.
* `Account`, `Reports`: every fault of a statement is reported, and ends the inquiry.
* `Reports.pure`, `Reports.throw`, `Reports.bind`, `Reports.mapM`, ...: one rule for each way to
  build an inquiry.
-/

namespace Electorate.Store

/-! ## Two parts -/

/-- An inquiry goes on with what its first part gives. -/
theorem run_bind_of_ok {q : Inquiry ε α} {f : α → Inquiry ε β} {session after : Session} {a : α}
    (h : q.run.run session = (.ok a, after)) :
    (q >>= f).run.run session = (f a).run.run after := by
  simp only [ExceptT.run_bind, StateT.run_bind, h]
  rfl

/-- An inquiry ends with the failure of its first part. -/
theorem run_bind_of_error {q : Inquiry ε α} {f : α → Inquiry ε β} {session after : Session} {e : ε}
    (h : q.run.run session = (.error e, after)) :
    (q >>= f).run.run session = (.error e, after) := by
  simp only [ExceptT.run_bind, StateT.run_bind, h]
  rfl

/-! ## Statements -/

/-- The outcome of the next statement. -/
def nextOutcome (session : Session) : Outcome := session.outcomes.head?.getD (.ok .nothing)

theorem nextOutcome_of_cons {session : Session} {o : Outcome} {rest : List Outcome}
    (h : session.outcomes = o :: rest) : nextOutcome session = o := by
  rw [nextOutcome, h]
  rfl

theorem nextOutcome_eq_error_iff {session : Session} {f : Fault} :
    nextOutcome session = .error f ↔ session.outcomes[0]? = some (.error f) := by
  rw [nextOutcome]
  cases session.outcomes with
  | nil => simp
  | cons o rest => simp

/-- A session after a statement, which took one outcome. -/
def Session.afterPut (session : Session) (s : Sql.Statement) : Session :=
  { session with outcomes := session.outcomes.tail, asked := session.asked ++ [s] }

/-- The failure that a fault is reported as. One of the covered kinds is a store that cannot be
used. -/
def report (covered : FaultKind → Bool) (f : Fault) : Failure :=
  if covered f.kind then .unavailable else .fault f

theorem Session.outcomes_afterPut {session : Session} {s : Sql.Statement} {o : Outcome}
    {rest : List Outcome} (h : session.outcomes = o :: rest) :
    (session.afterPut s).outcomes = rest := by
  rw [Session.afterPut, h]
  rfl

theorem Session.asked_afterPut (session : Session) (s : Sql.Statement) (more : List Sql.Statement) :
    (session.afterPut s).asked ++ more = session.asked ++ s :: more :=
  List.append_assoc session.asked [s] more

theorem run_ask (s : Sql.Statement) (session : Session) :
    (ask s).run.run session = (nextOutcome session, session.afterPut s) := by
  obtain ⟨outcomes, asked, totals, now⟩ := session
  cases outcomes <;> rfl

theorem run_attempt (s : Sql.Statement) (session : Session) :
    (attempt s : Inquiry ε Outcome).run.run session =
      (.ok (nextOutcome session), session.afterPut s) :=
  congrArg (fun r : Outcome × Session => (Except.ok r.1, r.2)) (run_ask s session)

theorem run_askGuarded (covered : FaultKind → Bool) (s : Sql.Statement) (session : Session) :
    (askGuarded covered s).run.run session =
      ((nextOutcome session).mapError (report covered), session.afterPut s) :=
  congrArg (fun r : Outcome × Session => (r.1.mapError (report covered), r.2)) (run_ask s session)

/-- What follows a statement goes on with its answer. -/
theorem run_askGuarded_bind_of_ok {covered : FaultKind → Bool} {s : Sql.Statement}
    {f : Answer → Inquiry Failure α} {session : Session} {x : Answer}
    (h : nextOutcome session = .ok x) :
    (askGuarded covered s >>= f).run.run session = (f x).run.run (session.afterPut s) := by
  refine run_bind_of_ok ?_
  rw [run_askGuarded, h]
  rfl

/-- What follows a statement does not come to be where the statement ends in a fault. -/
theorem run_askGuarded_bind_of_error {covered : FaultKind → Bool} {s : Sql.Statement}
    {f : Answer → Inquiry Failure α} {session : Session} {fault : Fault}
    (h : nextOutcome session = .error fault) :
    (askGuarded covered s >>= f).run.run session =
      (.error (report covered fault), session.afterPut s) := by
  refine run_bind_of_error ?_
  rw [run_askGuarded, h]
  rfl

/-- The outcomes of the next statements, so many of them. A statement beyond the outcomes to come is
answered with nothing. -/
def nextOutcomes : Nat → List Outcome → List Outcome
  | 0, _ => []
  | n + 1, outcomes => outcomes.head?.getD (.ok .nothing) :: nextOutcomes n outcomes.tail

theorem nextOutcomes_append (os rest : List Outcome) : nextOutcomes os.length (os ++ rest) = os := by
  induction os with
  | nil => rfl
  | cons o os ih => exact congrArg (o :: ·) ih

/-- Statements whose faults are not passed on take one outcome each, in their order. -/
theorem run_mapM_nextOutcomes (statement : γ → Sql.Statement) (read : Outcome → α) (l : List γ)
    (session : Session) :
    (l.mapM fun c => do return read (← attempt (statement c)) : Inquiry ε (List α)).run.run session =
      (.ok ((nextOutcomes l.length session.outcomes).map read), { session with
        outcomes := session.outcomes.drop l.length
        asked := session.asked ++ l.map statement }) := by
  induction l generalizing session with
  | nil =>
    simp
    rfl
  | cons c l ih =>
    have hone : (do return read (← attempt (statement c)) : Inquiry ε α).run.run session =
        (.ok (read (nextOutcome session)), session.afterPut (statement c)) :=
      run_bind_of_ok (run_attempt (statement c) session)
    rw [List.mapM_cons, run_bind_of_ok hone, run_bind_of_ok (ih _)]
    simp only [List.map_cons, Session.afterPut, List.append_assoc, List.singleton_append,
      List.drop_tail]
    rfl

/-- Where there are outcomes for all of these statements, they take those. -/
theorem run_mapM_attempt (statement : γ → Sql.Statement) (read : Outcome → α)
    {session : Session} {l : List γ} {os rest : List Outcome} (h : session.outcomes = os ++ rest)
    (hl : os.length = l.length) :
    (l.mapM fun c => do return read (← attempt (statement c)) : Inquiry ε (List α)).run.run session =
      (.ok (os.map read), { session with
        outcomes := rest, asked := session.asked ++ l.map statement }) := by
  rw [run_mapM_nextOutcomes, h, ← hl, nextOutcomes_append, List.drop_left]

/-- Where `q` fails, `q'` fails too, with the same failure and after the same statements. -/
def FailsAs (q : Inquiry ε α) (q' : Inquiry ε β) : Prop :=
  ∀ session e after, q.run.run session = (.error e, after) →
    q'.run.run session = (.error e, after)

theorem failsAs_bind (q : Inquiry ε α) (f : α → Inquiry ε β) : FailsAs q (q >>= f) :=
  fun _ _ _ h => run_bind_of_error h

theorem FailsAs.bind_right {f : α → Inquiry ε β} {g : α → Inquiry ε γ} (q : Inquiry ε α)
    (h : ∀ a, FailsAs (f a) (g a)) : FailsAs (q >>= f) (q >>= g) := by
  intro session e after hrun
  rcases hq : q.run.run session with ⟨e' | a, mid⟩
  · rw [run_bind_of_error hq] at hrun ⊢
    obtain ⟨he, rfl⟩ := Prod.mk.inj hrun
    obtain rfl := Except.error.inj he
    rfl
  · rw [run_bind_of_ok hq] at hrun ⊢
    exact h a mid e after hrun

/-! ## Reports -/

/-- An inquiry went from `session` to `after` and gave `result`. It put the statements `put` and
took one outcome for each. -/
structure Account (covered : FaultKind → Bool) (session : Session) (put : List Sql.Statement)
    (result : Except Failure α) (after : Session) : Prop where
  asked : after.asked = session.asked ++ put
  outcomes : after.outcomes = session.outcomes.drop put.length
  /-- A fault is reported, whichever statement it is of, and no statement is put after it. -/
  fault : ∀ n f, n < put.length → session.outcomes[n]? = some (.error f) →
    n + 1 = put.length ∧ result = .error (report covered f)
  /-- A store that cannot be used is reported for no other reason. -/
  unavailable : result = .error .unavailable →
    ∃ n f, n + 1 = put.length ∧ session.outcomes[n]? = some (.error f) ∧ covered f.kind

/-- An inquiry reports every fault of its statements. -/
def Reports (covered : FaultKind → Bool) (q : Inquiry Failure α) : Prop :=
  ∀ session, ∃ put, Account covered session put (q.run.run session).1 (q.run.run session).2

variable {covered : FaultKind → Bool}

/-- Where nothing is put there is nothing to report. -/
theorem Account.nil {session after : Session} {result : Except Failure α}
    (hasked : after.asked = session.asked) (houtcomes : after.outcomes = session.outcomes)
    (hresult : result ≠ .error .unavailable) : Account covered session [] result after where
  asked := by simp [hasked]
  outcomes := by simp [houtcomes]
  fault := by simp
  unavailable := fun h => absurd h hresult

/-- After a part without a failure, none of its statements ended in a fault. -/
theorem Account.not_fault {session after : Session} {put : List Sql.Statement} {a : α}
    (h : Account covered session put (.ok a) after) {n : Nat} (hn : n < put.length) (f : Fault) :
    session.outcomes[n]? ≠ some (.error f) := by
  intro hf
  exact absurd (h.fault n f hn hf).2 (by simp)

/-- The outcomes of the second part stand behind those of the first. -/
theorem Account.append {session mid after : Session} {put more : List Sql.Statement} {a : α}
    {result : Except Failure β} (h : Account covered session put (.ok a) mid)
    (h' : Account covered mid more result after) :
    Account covered session (put ++ more) result after where
  asked := by rw [h'.asked, h.asked, List.append_assoc]
  outcomes := by rw [h'.outcomes, h.outcomes, List.drop_drop, List.length_append]
  fault := by
    intro n f hn hf
    -- The first part gave a result, so that the fault is of the second.
    by_cases hfirst : n < put.length
    · exact absurd hf (h.not_fault hfirst f)
    · obtain ⟨m, rfl⟩ := Nat.exists_eq_add_of_le (Nat.not_lt.1 hfirst)
      rw [List.length_append] at hn ⊢
      have hmid : mid.outcomes[m]? = some (.error f) := by rwa [h.outcomes, List.getElem?_drop]
      obtain ⟨hlast, hresult⟩ := h'.fault m f (by omega) hmid
      exact ⟨by omega, hresult⟩
  unavailable := by
    intro hresult
    obtain ⟨n, f, hlast, hf, hcovered⟩ := h'.unavailable hresult
    rw [h.outcomes, List.getElem?_drop] at hf
    have hend : put.length + n + 1 = (put ++ more).length := by
      rw [List.length_append]
      omega
    exact ⟨put.length + n, f, hend, hf, hcovered⟩

/-- What is kept in the session at the start does not count. -/
theorem Account.of_start {session session' after : Session} {put : List Sql.Statement}
    {result : Except Failure α} (h : Account covered session' put result after)
    (hasked : session'.asked = session.asked) (houtcomes : session'.outcomes = session.outcomes) :
    Account covered session put result after where
  asked := hasked ▸ h.asked
  outcomes := houtcomes ▸ h.outcomes
  fault := houtcomes ▸ h.fault
  unavailable := houtcomes ▸ h.unavailable

/-- What is not reached does not count. -/
theorem Account.ended {session after : Session} {put : List Sql.Statement} {e : Failure}
    (h : Account covered session put (.error e : Except Failure α) after) :
    Account covered session put (.error e : Except Failure β) after where
  asked := h.asked
  outcomes := h.outcomes
  fault := fun n f hn hf => by simpa using h.fault n f hn hf
  unavailable := fun hresult => h.unavailable (by simpa using hresult)

namespace Reports

theorem pure (a : α) : Reports covered (pure a) :=
  fun _ => ⟨[], .nil rfl rfl nofun⟩

theorem throw {e : Failure} (h : e ≠ .unavailable) : Reports covered (throw e : Inquiry Failure α) :=
  fun _ => ⟨[], .nil rfl rfl fun he => h (Except.error.inj he)⟩

theorem bind {q : Inquiry Failure α} {f : α → Inquiry Failure β} (hq : Reports covered q)
    (hf : ∀ a, Reports covered (f a)) : Reports covered (q >>= f) := by
  intro session
  obtain ⟨put, hput⟩ := hq session
  rcases hrun : q.run.run session with ⟨e | a, mid⟩ <;> rw [hrun] at hput
  · rw [run_bind_of_error hrun]
    exact ⟨put, hput.ended⟩
  · obtain ⟨more, hmore⟩ := hf a mid
    rw [run_bind_of_ok hrun]
    exact ⟨put ++ more, hput.append hmore⟩

theorem liftExcept {r : Except ε α} {f : ε → Failure} (h : ∀ e, f e ≠ .unavailable) :
    Reports covered (liftExcept (r.mapError f) : Inquiry Failure α) := by
  cases r with
  | ok a => exact pure a
  | error e => exact throw (h e)

theorem read (r : Except CellError α) : Reports covered (read r) := by
  cases r with
  | ok a => exact pure a
  | error e => exact throw nofun

theorem mapM {f : α → Inquiry Failure β} (h : ∀ a, Reports covered (f a)) (l : List α) :
    Reports covered (l.mapM f) := by
  induction l with
  | nil => exact pure []
  | cons a l ih =>
    rw [List.mapM_cons]
    exact (h a).bind fun b => ih.bind fun bs => pure (b :: bs)

theorem askGuarded (s : Sql.Statement) : Reports covered (askGuarded covered s) := by
  intro session
  rw [run_askGuarded]
  refine ⟨[s], rfl, List.drop_one.symm, fun n f hn hf => ?_, fun hresult => ?_⟩
  · obtain rfl : n = 0 := Nat.lt_one_iff.1 hn
    rw [nextOutcome_eq_error_iff.2 hf]
    exact ⟨rfl, rfl⟩
  · cases hnext : nextOutcome session with
    | ok a =>
      rw [hnext] at hresult
      cases hresult
    | error f =>
      rw [hnext] at hresult
      have hcovered : covered f.kind := by
        cases hc : covered f.kind with
        | true => rfl
        | false =>
          have hreport : report covered f = .unavailable := Except.error.inj hresult
          simp [report, hc] at hreport
      exact ⟨0, f, rfl, nextOutcome_eq_error_iff.1 hnext, hcovered⟩

/-- A statement is put before all that follows it. -/
theorem exists_asked_askGuarded_bind {s : Sql.Statement} {f : Answer → Inquiry Failure α}
    (hf : ∀ x, Reports covered (f x)) (session : Session) :
    ∃ more, ((Store.askGuarded covered s >>= f).run.run session).2.asked =
      session.asked ++ s :: more := by
  cases hnext : nextOutcome session with
  | ok x =>
    obtain ⟨more, hmore⟩ := hf x (session.afterPut s)
    rw [run_askGuarded_bind_of_ok hnext]
    exact ⟨more, hmore.asked.trans (session.asked_afterPut s more)⟩
  | error fault =>
    rw [run_askGuarded_bind_of_error hnext]
    exact ⟨[], rfl⟩

/-- To change what is kept in a session puts no statement. -/
theorem modify {g : Session → Session} (hasked : ∀ session, (g session).asked = session.asked)
    (houtcomes : ∀ session, (g session).outcomes = session.outcomes) :
    Reports covered (modify g : Inquiry Failure PUnit) :=
  fun session => ⟨[], .nil (hasked session) (houtcomes session) nofun⟩

end Reports

end Electorate.Store
