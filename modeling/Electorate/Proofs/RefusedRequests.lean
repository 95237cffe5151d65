import Electorate.Proofs.Shares
import Electorate.Proofs.Statuses
import Electorate.Proofs.StoreFaults
import Electorate.Proofs.SuitedAnswers

/-!
# Requests refused before the store is asked

A request is refused for what it says before the store is asked for anything. After the first
statement only an answer that does not fit, or a fault that is one of a value, could still look like a
refusal; where answers suit their statements there is neither.

* `Suited`, `Ends`: what is so of an inquiry whose statements are answered as they ask.
* `Silent`: nothing is asked.
* `Firm`: nothing is refused.
* `Early`: what is refused is refused before anything is asked. `Silent.early` and `Early.bind` put
  inquiries together: checks first, then what may ask, then what is not refused any more.
* `early_answerVoters`, `early_answerChart`, ...: one lemma for each endpoint.
* `Application.refused_puts_nothing`: a refused request has put no statement.
-/

namespace Electorate.Store

open Electorate.Sql (Statement)

/-! ## Statements and their answers -/

/-- A session after some statements, each of which took one outcome. -/
structure Went (session : Session) (put : List Statement) (after : Session) : Prop where
  asked : after.asked = session.asked ++ put
  outcomes : after.outcomes = session.outcomes.drop put.length

theorem Went.none {session after : Session} (hasked : after.asked = session.asked)
    (houtcomes : after.outcomes = session.outcomes) : Went session [] after :=
  ⟨by rw [hasked, List.append_nil], by rw [houtcomes]; rfl⟩

theorem Went.one (s : Statement) (session : Session) : Went session [s] (session.afterPut s) :=
  ⟨rfl, List.drop_one.symm⟩

theorem Went.append {session mid after : Session} {put more : List Statement}
    (h : Went session put mid) (h' : Went mid more after) : Went session (put ++ more) after :=
  ⟨by rw [h'.asked, h.asked, List.append_assoc],
    by rw [h'.outcomes, h.outcomes, List.drop_drop, List.length_append]⟩

/-- Each statement is answered as it asks. A statement beyond the outcomes is answered with nothing,
which suits it. -/
def Suited (session : Session) (put : List Statement) : Prop :=
  ∀ (n : Nat) s o, put[n]? = some s → session.outcomes[n]? = some o → Outcome.Suits s o

theorem Suited.nextOutcome {session : Session} {s : Statement} (h : Suited session [s]) :
    Outcome.Suits s (nextOutcome session) := by
  rw [Store.nextOutcome]
  cases houtcomes : session.outcomes with
  | nil => exact Answer.nothing_suits s
  | cons o rest => exact h 0 s o rfl (by rw [houtcomes]; rfl)

theorem Suited.left {session : Session} {put more : List Statement}
    (h : Suited session (put ++ more)) : Suited session put := by
  intro n s o hs ho
  have hn : n < put.length := (List.getElem?_eq_some_iff.1 hs).1
  have hall : (put ++ more)[n]? = some s := by rwa [List.getElem?_append_left hn]
  exact h n s o hall ho

theorem Suited.right {session mid : Session} {put more : List Statement}
    (h : Suited session (put ++ more)) (hmid : Went session put mid) : Suited mid more := by
  intro n s o hs ho
  rw [hmid.outcomes, List.getElem?_drop] at ho
  have hall : (put ++ more)[put.length + n]? = some s := by
    rwa [List.getElem?_append_right (Nat.le_add_right ..), Nat.add_sub_cancel_left]
  exact h (put.length + n) s o hall ho

/-- What is so of the statements and the result of an inquiry whose statements are answered as they
ask. It need be so only if `given` is. -/
def Ends (given : Prop) (Q : List Statement → Except ε α → Prop) (q : Inquiry ε α) : Prop :=
  ∀ session, ∃ put, Went session put (q.run.run session).2 ∧
    (given → Suited session put → Q put (q.run.run session).1)

namespace Ends

variable {given : Prop} {Q R : List Statement → Except ε α → Prop} {q : Inquiry ε α}

theorem mono {given' : Prop} (h : Ends given Q q) (hgiven : given' → given)
    (hQ : given' → ∀ put r, Q put r → R put r) : Ends given' R q := by
  intro session
  obtain ⟨put, hwent, hresult⟩ := h session
  exact ⟨put, hwent, fun h' hsuited => hQ h' _ _ (hresult (hgiven h') hsuited)⟩

theorem pure {a : α} (h : given → Q [] (.ok a)) : Ends given Q (pure a) :=
  fun _ => ⟨[], .none rfl rfl, fun hgiven _ => h hgiven⟩

theorem throw {e : ε} (h : given → Q [] (.error e)) : Ends given Q (throw e) :=
  fun _ => ⟨[], .none rfl rfl, fun hgiven _ => h hgiven⟩

theorem bind {S : List Statement → Except ε β → Prop} {f : α → Inquiry ε β} (hq : Ends given Q q)
    (herror : ∀ put e, Q put (.error e) → S put (.error e))
    (hf : ∀ put a, Ends (given ∧ Q put (.ok a)) (fun more r => S (put ++ more) r) (f a)) :
    Ends given S (q >>= f) := by
  intro session
  obtain ⟨put, hwent, hresult⟩ := hq session
  rcases hrun : q.run.run session with ⟨e | a, mid⟩ <;> rw [hrun] at hwent hresult
  · rw [run_bind_of_error hrun]
    exact ⟨put, hwent, fun hgiven hsuited => herror _ _ (hresult hgiven hsuited)⟩
  · obtain ⟨more, hwent', hresult'⟩ := hf put a mid
    rw [run_bind_of_ok hrun]
    refine ⟨put ++ more, hwent.append hwent', fun hgiven hsuited => ?_⟩
    exact hresult' ⟨hgiven, hresult hgiven hsuited.left⟩ (hsuited.right hwent)

theorem orFail {Q : List Statement → Except ε' α → Prop} {f : ε → ε'}
    (h : Ends given (fun put r => Q put (r.mapError f)) q) : Ends given Q (orFail f q) :=
  h

end Ends

/-! ## Refusals -/

/-- What was read of an answer, and no refusal. -/
def NotRefused (refuses : ε → Prop) (P : α → Prop) : Except ε α → Prop
  | .ok a => P a
  | .error e => ¬refuses e

/-- What was read of an answer, or a refusal before any statement. -/
def RefusedEarly (refuses : ε → Prop) (P : α → Prop) (put : List Statement) : Except ε α → Prop
  | .ok a => P a
  | .error e => refuses e → put = []

theorem NotRefused.refusedEarly {refuses : ε → Prop} {P : α → Prop} {r : Except ε α}
    (h : NotRefused refuses P r) (put : List Statement) : RefusedEarly refuses P put r := by
  cases r with
  | ok a => exact h
  | error e => exact fun he => absurd he h

/-- An inquiry that puts no statement. -/
def Silent (q : Inquiry ε α) : Prop := ∀ session, Went session [] (q.run.run session).2

/-- An inquiry that is not refused. -/
def Firm (refuses : ε → Prop) (given : Prop) (P : α → Prop) (q : Inquiry ε α) : Prop :=
  Ends given (fun _ r => NotRefused refuses P r) q

/-- An inquiry that is refused before it puts a statement, if it is refused. -/
def Early (refuses : ε → Prop) (given : Prop) (P : α → Prop) (q : Inquiry ε α) : Prop :=
  Ends given (RefusedEarly refuses P) q

namespace Silent

theorem liftExcept (r : Except ε α) : Silent (liftExcept r : Inquiry ε α) := by
  intro session
  cases r <;> exact .none rfl rfl

theorem read (r : Except CellError α) : Silent (read r) := by
  intro session
  cases r <;> exact .none rfl rfl

theorem orFail {q : Inquiry ε α} (h : Silent q) (f : ε → ε') : Silent (orFail f q) := h

theorem ends {q : Inquiry ε α} (h : Silent q) (given : Prop) : Ends given (fun put _ => put = []) q :=
  fun session => ⟨[], h session, fun _ _ => rfl⟩

end Silent

variable {refuses : ε → Prop} {given : Prop} {P : α → Prop} {S : β → Prop} {q : Inquiry ε α}
  {f : α → Inquiry ε β}

namespace Firm

theorem of_silent (hq : Silent q)
    (h : given → ∀ session, NotRefused refuses P (q.run.run session).1) :
    Firm refuses given P q :=
  fun session => ⟨[], hq session, fun hgiven _ => h hgiven session⟩

theorem pure {a : α} (h : given → P a) : Firm refuses given P (pure a) := Ends.pure h

theorem throw {e : ε} (h : ¬refuses e) : Firm refuses given P (throw e) := Ends.throw fun _ => h

theorem modify {g : Session → Session} (hasked : ∀ session, (g session).asked = session.asked)
    (houtcomes : ∀ session, (g session).outcomes = session.outcomes) :
    Firm refuses given (fun _ => True) (modify g) :=
  fun session => ⟨[], .none (hasked session) (houtcomes session), fun _ _ => trivial⟩

theorem bind (hq : Firm refuses given P q) (hf : ∀ a, Firm refuses (given ∧ P a) S (f a)) :
    Firm refuses given S (q >>= f) :=
  Ends.bind hq (fun _ _ h => h) fun _ => hf

theorem orFail {refuses : ε' → Prop} {g : ε → ε'}
    (h : Firm (fun e => refuses (g e)) given P q) : Firm refuses given P (orFail g q) :=
  Ends.orFail <| Ends.mono h id fun _ _ r hr => by cases r <;> exact hr

/-- What was read does not count. -/
theorem forget (h : Firm refuses given P q) : Firm refuses given (fun _ => True) q :=
  Ends.mono h id fun _ _ r hr => by
    cases r with
    | ok => trivial
    | error => exact hr

theorem mapM {l : List α} (h : ∀ a ∈ l, Firm refuses given S (f a)) :
    Firm refuses given (fun bs => ∀ b ∈ bs, S b) (l.mapM f) := by
  induction l with
  | nil => exact pure fun _ => nofun
  | cons a l ih =>
    rw [List.mapM_cons]
    have hrest := ih fun a' ha' => h a' (List.mem_cons_of_mem a ha')
    refine (h a List.mem_cons_self).bind fun b => ?_
    refine bind (Ends.mono hrest And.left fun _ _ _ h => h) fun bs => ?_
    exact pure fun hgiven => List.forall_mem_cons.2 ⟨hgiven.1.2, hgiven.2⟩

end Firm

namespace Early

theorem of_firm (h : Firm refuses given P q) : Early refuses given P q :=
  Ends.mono h id fun _ put _ hr => hr.refusedEarly put

theorem of_silent_bind {q : Inquiry ε γ} {f : γ → Inquiry ε α} (hq : Silent q)
    (hf : ∀ a, Early refuses given P (f a)) : Early refuses given P (q >>= f) :=
  Ends.bind (hq.ends given) (fun _ _ h _ => h) fun _ a =>
    Ends.mono (hf a) And.left fun hgiven more r hr => by rwa [hgiven.2, List.nil_append]

/-- Checks come first; behind what may ask nothing is refused. -/
theorem bind (hq : Early refuses given P q) (hf : ∀ a, Firm refuses (given ∧ P a) S (f a)) :
    Early refuses given S (q >>= f) :=
  Ends.bind hq (fun _ _ h => h) fun _ a => Ends.mono (hf a) id fun _ _ _ hr => hr.refusedEarly _

theorem throw (e : ε) : Early refuses given P (throw e) := Ends.throw fun _ _ => rfl

theorem orFail {refuses : ε' → Prop} {g : ε → ε'}
    (h : Early (fun e => refuses (g e)) given P q) : Early refuses given P (orFail g q) :=
  Ends.orFail <| Ends.mono h id fun _ _ r hr => by cases r <;> exact hr

end Early

end Electorate.Store

namespace Electorate

open Electorate.Store

/-! ## Failures of the store -/

/-- A refusal gets a response of the status 400 or 422. -/
def Web.Refusal.Refuses (e : Web.Refusal) : Prop :=
  ∃ response, e.response? = some response ∧ response.status ∈ [400, 422]

/-- A failure that is answered as a refused request. -/
def Store.Failure.Refuses (f : Failure) : Prop := (Web.Refusal.failed f).Refuses

namespace Store.Failure

theorem not_refuses_unavailable : ¬Refuses .unavailable := by
  rintro ⟨response, hresponse, hstatus⟩
  obtain rfl := Option.some.inj hresponse
  revert hstatus
  decide

theorem not_refuses_fault {f : Fault} (h : f.kind ≠ .value) : ¬Refuses (.fault f) := by
  rintro ⟨response, hresponse, -⟩
  have hnone : Web.failureResponse? (.fault f) = none := if_neg h
  rw [Web.Refusal.response?, hnone] at hresponse
  cases hresponse

theorem not_refuses_unreadable {e : CellError} (h : e.ofValue = false) :
    ¬Refuses (.unreadable e) := by
  rintro ⟨response, hresponse, -⟩
  have hnone : Web.failureResponse? (.unreadable e) = none := if_neg (by simp [h])
  rw [Web.Refusal.response?, hnone] at hresponse
  cases hresponse

end Store.Failure

namespace Store.Firm

variable {given : Prop}

/-- A suited outcome is an answer of the form that was asked for, or no refusal. -/
theorem askGuarded (covered : FaultKind → Bool) (s : Sql.Statement) :
    Firm Failure.Refuses given (fun a => a.Suits s) (askGuarded covered s) := by
  intro session
  rw [run_askGuarded]
  refine ⟨[s], .one s session, fun _ hsuited => ?_⟩
  have hsuits := hsuited.nextOutcome
  cases hnext : nextOutcome session with
  | ok a =>
    rw [hnext] at hsuits
    exact hsuits
  | error f =>
    rw [hnext] at hsuits
    show ¬Failure.Refuses (report covered f)
    unfold report
    split
    · exact Failure.not_refuses_unavailable
    · exact Failure.not_refuses_fault hsuits

/-- A fault that is not passed on refuses nothing. -/
theorem attempt (refuses : ε → Prop) (s : Sql.Statement) :
    Firm refuses given (fun _ => True) (attempt s) := by
  intro session
  rw [run_attempt]
  exact ⟨[s], .one s session, fun _ _ => trivial⟩

theorem read {r : Except CellError α} {P : α → Prop}
    (h : given → (∃ a, r = .ok a ∧ P a) ∨ ∃ e, r = .error e ∧ e.ofValue = false) :
    Firm Failure.Refuses given P (read r) := by
  refine .of_silent (.read r) fun hgiven session => ?_
  obtain ⟨a, rfl, ha⟩ | ⟨e, rfl, he⟩ := h hgiven
  · exact ha
  · exact Failure.not_refuses_unreadable he

theorem liftExcept {refuses : ε → Prop} {r : Except ε α} {P : α → Prop}
    (h : given → ∃ a, r = .ok a ∧ P a) :
    Firm refuses given P (liftExcept r : Inquiry ε α) := by
  refine .of_silent (.liftExcept r) fun hgiven session => ?_
  obtain ⟨a, rfl, ha⟩ := h hgiven
  exact ha

theorem fitting {c : Form.Checked α} {P : α → Prop} (h : given → ∃ a, c = .value a ∧ P a) :
    Firm Web.Refusal.Refuses given P (Web.fitting c) :=
  liftExcept fun hgiven => by
    obtain ⟨a, rfl, ha⟩ := h hgiven
    exact ⟨a, rfl, ha⟩

theorem inquire {q : Inquiry Failure α} {P : α → Prop} (h : Firm Failure.Refuses given P q) :
    Firm Web.Refusal.Refuses given P (Web.inquire q) :=
  orFail h

end Store.Firm

namespace Store.Early

theorem inquire {given : Prop} {q : Inquiry Failure α} {P : α → Prop}
    (h : Early Failure.Refuses given P q) : Early Web.Refusal.Refuses given P (Web.inquire q) :=
  orFail h

end Store.Early

/-! ## What the endpoints ask -/

namespace Roster

theorem early_listVoters (year : Int) (spec : FilterSpec) (page : Page)
    (field direction : String) :
    Early Failure.Refuses True
      (fun listing => listing.total.IsWhole ∧ ∀ row ∈ listing.voters, row.WellTyped)
      (listVoters year spec page field direction) :=
  .of_silent_bind (.liftExcept _) fun _ => .of_silent_bind (.liftExcept _) fun _ => .of_firm <|
    .bind (.askGuarded _ _) fun _ => .bind (.askGuarded _ _) fun _ =>
      .pure fun hgiven => ⟨hgiven.1.2, hgiven.2⟩

theorem firm_household (number : String) :
    Firm Failure.Refuses True (fun members => ∀ rows ∈ members, ∀ row ∈ rows, row.WellTyped)
      (household number) := by
  refine .bind (.askGuarded _ _) fun found => ?_
  split
  · exact .pure fun _ => nofun
  · split
    · exact .pure fun _ rows hrows => by
        obtain rfl := Option.some.inj hrows
        exact nofun
    · refine .bind (.askGuarded _ _) fun others => .pure fun hgiven rows hrows => ?_
      obtain rfl := Option.some.inj hrows
      exact hgiven.2

theorem firm_mapStats (year : Int) (spec : FilterSpec) (box : Geo.Box Float) :
    Firm Failure.Refuses True (fun s => ∀ x ∈ s.score, x.isFinite = true)
      (mapStats year spec box) :=
  .bind (.askGuarded _ _) fun answer => .read fun hgiven => by
    obtain ⟨c, n, hrow, hc⟩ := hgiven.2
    rw [hrow]
    exact .inl (exists_readStats hc)

theorem firm_lookupOne (field : LookupField) :
    Firm Failure.Refuses True (fun entry => ∀ c ∈ entry.2, c.IsText) (lookupOne field) :=
  .bind (.askGuarded _ _) fun _ =>
    .bind (.read fun hgiven => .inl (exists_mapM_firstCell hgiven.2)) fun _ =>
      .pure fun hgiven => hgiven.2

theorem early_lookup (names : List String) :
    Early Failure.Refuses True (fun found => ∀ entry ∈ found, ∀ c ∈ entry.2, c.IsText)
      (lookup names) :=
  .of_silent_bind (.liftExcept _) fun _ => .of_firm <| .mapM fun field _ => firm_lookupOne field

end Roster

namespace Chart

theorem early_snapshot (year : Int) (spec : FilterSpec) (groupBy : String) :
    Early Failure.Refuses True (fun _ => True) (snapshot year spec groupBy) := by
  unfold snapshot
  cases Grouping.ofName? groupBy with
  | none => exact .throw _
  | some grouping =>
    refine .of_firm <| .bind (.askGuarded _ _) fun answer => ?_
    refine .bind (.mapM (S := fun _ => True) fun row hrow => .liftExcept fun hgiven => ?_)
      fun _ => .pure fun _ => trivial
    obtain ⟨c, n, rfl, hc⟩ := hgiven.2 row hrow
    exact (exists_ofRow hc n).imp fun _ h => ⟨h, trivial⟩

theorem firm_combinationCounts (year : Int) (combinations : List Combination) (base : FilterSpec)
    (withTotal : Bool) : Firm Failure.Refuses True (fun _ => True)
      (combinationCounts year combinations base withTotal) :=
  .bind (.mapM fun _ _ => .bind (.attempt _ _) fun _ => .pure (P := fun _ => True) fun _ => trivial)
    fun _ => .pure fun _ => trivial

theorem early_countTotals (years : List Int) :
    Early Failure.Refuses True (fun _ => True) (countTotals years) :=
  .of_silent_bind (.liftExcept _) fun _ => .of_firm <|
    .bind (.askGuarded _ _) fun _ => .read fun hgiven =>
      .inl ((exists_readYearCounts hgiven.2).imp fun _ h => ⟨h, trivial⟩)

theorem early_totals (years : List Int) :
    Early Failure.Refuses True (fun _ => True) (totals years) := by
  intro session
  rcases hget : session.totals.get session.now (totalsKey years) with ⟨_ | counts, cache⟩
  · rw [run_totals_of_none hget]
    have hfresh : Early Failure.Refuses True (fun _ => True) (freshTotals years) :=
      .bind (early_countTotals years) fun counts =>
        .bind (.modify (fun _ => rfl) fun _ => rfl) fun _ => .pure fun _ => trivial
    obtain ⟨put, hwent, hresult⟩ := hfresh { session with totals := cache }
    exact ⟨put, ⟨hwent.asked, hwent.outcomes⟩, hresult⟩
  · rw [run_totals_of_some hget]
    exact ⟨[], .none rfl rfl, fun _ _ => trivial⟩

/-- Every value of a share that there is can be sent. -/
theorem shareData_cases (years : List Int) (totals counts : YearCounts) :
    (∃ data, shareData years totals counts = .ok data ∧
      ∀ d ∈ data, (Web.datumJson d).isSendable = true) ∨
      ∃ e, shareData years totals counts = .error e ∧ e.ofValue = false := by
  refine mapM_or_error fun y _ => ?_
  obtain ⟨v, hv, hshare⟩ | ⟨hlarge, -⟩ :=
    share_cases ((countOf counts y).getD 0) (countOf totals y)
  · have hsent : (Web.datumJson (.share v)).isSendable = true := by
      simpa [Web.datumJson, Option.all_eq_true] using hshare.isFinite
    rw [hv]
    exact .inl ⟨.share v, rfl, hsent⟩
  · rw [hlarge]
    exact .inr ⟨_, rfl, rfl⟩

theorem forall_mem_series {combinations : List Combination} {data : List (List Datum)}
    (h : ∀ l ∈ data, ∀ d ∈ l, (Web.datumJson d).isSendable = true) :
    ∀ s ∈ List.zipWith (fun (c : Combination) d => Series.mk c.label c.filters d) combinations data,
      ∀ d ∈ s.data, (Web.datumJson d).isSendable = true := by
  intro s hs
  obtain ⟨i, hi⟩ := List.mem_iff_getElem?.1 hs
  obtain ⟨c, l, -, hl, rfl⟩ := List.getElem?_zipWith_eq_some.1 hi
  exact h l (List.mem_of_getElem? hl)

theorem early_countsOverTime (year : Int) (combinations : List Combination) (years : List Int)
    (base : FilterSpec) (ratio : Bool) :
    Early Failure.Refuses True
      (fun c => ∀ s ∈ c.series, ∀ d ∈ s.data, (Web.datumJson d).isSendable = true)
      (countsOverTime year combinations years base ratio) := by
  unfold countsOverTime
  refine .of_silent_bind (.liftExcept _) fun ys => ?_
  -- A combination whose statement fails has no counts, but it does not fail the chart.
  have hcounts : Firm Failure.Refuses (True ∧ True) (fun _ => True)
      (combinations.mapM (countYears year base ys)) :=
    .forget <| .mapM (S := fun _ => True) fun _ _ => .bind (.attempt _ _) fun _ =>
      .pure fun _ => trivial
  cases ratio with
  | false =>
    refine .of_firm <| .bind (P := fun _ => True) (.pure fun _ => trivial) fun _ =>
      hcounts.bind fun counts => .pure fun _ => forall_mem_series fun l hl d hd => ?_
    obtain ⟨c, -, rfl⟩ := List.mem_map.1 hl
    obtain ⟨y, -, rfl⟩ := List.mem_map.1 hd
    rfl
  | true =>
    exact .bind (early_totals ys) fun totals => hcounts.bind fun counts =>
      .bind (.read fun _ => mapM_or_error fun c _ => shareData_cases ys totals c) fun _ =>
        .pure fun hgiven => forall_mem_series hgiven.2

end Chart

namespace Web

theorem firm_summaries {given : Prop} {rows : List VoterRow}
    (h : given → ∀ row ∈ rows, row.WellTyped) :
    Firm Refusal.Refuses given (fun items => ∀ j ∈ items, j.isSendable = true) (summaries rows) :=
  .mapM fun row hrow =>
    .bind (.fitting fun hgiven => Roster.VoterSummary.exists_ofRow (h hgiven row hrow)) fun _ =>
      .pure fun hgiven => isSendable_summaryJson hgiven.2

theorem firm_readTotal {given : Prop} {c : Cell} (h : given → c.IsWhole) :
    Firm Refusal.Refuses given (fun _ => True) (readTotal c) := by
  have hsilent : Silent (readTotal c) := by
    cases c with
    | null | text | date => exact fun _ => .none rfl rfl
    | bool | int | float | decimal => exact .liftExcept _
  refine .of_silent hsilent fun hgiven session => ?_
  obtain ⟨n, rfl⟩ := h hgiven
  trivial

theorem firm_sendable {given : Prop} {j : Json} (h : given → j.isSendable = true) :
    Firm Refusal.Refuses given (fun _ => True) (sendable j) := by
  by_cases hj : j.isSendable = true
  · rw [sendable, if_pos hj]
    exact .pure fun _ => trivial
  · exact fun session => ⟨[], by rw [sendable, if_neg hj]; exact .none rfl rfl,
      fun hgiven => absurd (h hgiven) hj⟩

/-- The answer of an endpoint is refused early, and can be sent otherwise. -/
abbrev EarlyAnswer (q : Inquiry Refusal Json) : Prop :=
  Early Refusal.Refuses True (fun j => j.isSendable = true) q

theorem early_answerVoters (year : Int) (q : Query) : EarlyAnswer (answerVoters year q) := by
  unfold answerVoters
  refine .of_silent_bind (.liftExcept _) fun fields => .of_silent_bind (.liftExcept _) fun spec => ?_
  refine .bind (.inquire (Roster.early_listVoters _ _ _ _ _)) fun listing => ?_
  refine .bind (firm_summaries fun hgiven => hgiven.2.2) fun items => ?_
  refine .bind (firm_readTotal fun hgiven => hgiven.1.2.1) fun total => .pure fun hgiven => ?_
  simpa using hgiven.1.2

theorem early_answerSummary (year : Int) (q : Query) : EarlyAnswer (answerSummary year q) :=
  .of_silent_bind (.liftExcept _) fun _ => .of_silent_bind (.liftExcept _) fun _ =>
    .bind (.inquire (Chart.early_snapshot _ _ _)) fun s => .pure fun _ => isSendable_snapshotJson s

theorem silent_readYears (raw : Option String) (default : List Int) :
    Silent (readYears raw default) := by
  unfold readYears
  split
  · exact fun _ => .none rfl rfl
  · split
    · exact fun _ => .none rfl rfl
    · split
      · exact .liftExcept _
      · exact fun _ => .none rfl rfl

theorem early_answerChart (settings : Settings) (year : Int) (q : Query) :
    EarlyAnswer (answerChart settings year q) := by
  unfold answerChart
  refine .of_silent_bind (.liftExcept _) fun kind => .of_silent_bind (.liftExcept _) fun spec => ?_
  refine .of_silent_bind (.orFail (.liftExcept _) _) fun combinations => ?_
  split
  · exact .bind (.of_firm <| .inquire (Chart.firm_combinationCounts _ _ _ _)) fun c =>
      .pure fun _ => isSendable_countsJson c
  · refine .of_silent_bind (.orFail (.read _) _) fun default => ?_
    refine .of_silent_bind (silent_readYears _ default) fun years => ?_
    exact .bind (.inquire (Chart.early_countsOverTime _ _ _ _ _)) fun c =>
      .pure fun hgiven => isSendable_seriesJson hgiven.2

theorem early_answerMapStats (year : Int) (q : Query) : EarlyAnswer (answerMapStats year q) :=
  .of_silent_bind (.liftExcept _) fun _ => .of_silent_bind (.liftExcept _) fun _ =>
    .of_silent_bind (.liftExcept _) fun _ => .of_firm <|
      .bind (.inquire (Roster.firm_mapStats _ _ _)) fun _ => .pure fun hgiven =>
        isSendable_statsJson hgiven.2

theorem early_answerLookup (q : Query) : EarlyAnswer (answerLookup q) :=
  .of_silent_bind (.liftExcept _) fun _ =>
    .bind (.inquire (Roster.early_lookup _)) fun _ =>
      .fitting fun hgiven => exists_lookupJson hgiven.2

theorem not_refuses_noVoter : ¬Refusal.Refuses .noVoter := by
  rintro ⟨response, hresponse, hstatus⟩
  obtain rfl := Option.some.inj hresponse
  revert hstatus
  decide

theorem early_answerHousehold (number : String) : EarlyAnswer (answerHousehold number) := by
  unfold answerHousehold
  refine .of_silent_bind (.liftExcept _) fun id => .of_firm <|
    .bind (.inquire (Roster.firm_household id)) fun members => ?_
  cases members with
  | none => exact .throw not_refuses_noVoter
  | some members =>
    exact .bind (firm_summaries fun hgiven => hgiven.2 members rfl) fun items =>
      .pure fun hgiven => by simpa using hgiven.2

/-- Whatever is asked for, it is refused before the store is asked. -/
theorem early_answer (settings : Settings) (year : Int) (q : Query) (e : Endpoint) :
    EarlyAnswer (answer settings year q e) := by
  cases e with
  | voters => exact early_answerVoters year q
  | summary => exact early_answerSummary year q
  | chartData => exact early_answerChart settings year q
  | mapStats => exact early_answerMapStats year q
  | lookup => exact early_answerLookup q
  | household number => exact early_answerHousehold number

namespace Application

theorem early_respondAt (app : Application) (year : Int) (q : Query) (e : Endpoint) :
    ∃ put, Went app.session put (app.respondAt year q e).2 ∧
      (Suited app.session put → ∀ response, (app.respondAt year q e).1 = some response →
        response.status ∈ [400, 422] → put = []) := by
  have hearly : Early Refusal.Refuses True (fun _ => True)
      (do sendable (← answer app.settings year q e)) :=
    (early_answer app.settings year q e).bind fun _ => firm_sendable And.right
  obtain ⟨put, hwent, hresult⟩ := hearly app.session
  unfold respondAt
  split
  · split
    · rename_i j session hrun
      have hrun' : (do sendable (← answer app.settings year q e)).run.run app.session =
        (.ok j, session) := hrun
      rw [hrun'] at hwent
      refine ⟨put, hwent, fun _ response hresponse hstatus => ?_⟩
      obtain rfl := Option.some.inj hresponse
      exact absurd hstatus (by simp)
    · rename_i refusal session hrun
      have hrun' : (do sendable (← answer app.settings year q e)).run.run app.session =
        (.error refusal, session) := hrun
      rw [hrun'] at hwent hresult
      exact ⟨put, hwent, fun hsuited response hresponse hstatus =>
        hresult trivial hsuited ⟨response, hresponse, hstatus⟩⟩
  · exact ⟨[], .none rfl rfl, fun _ _ _ _ => rfl⟩

theorem early_route (app : Application) (year : Int) (r : Request) :
    ∃ put, Went app.session put (app.route year r).2 ∧
      (Suited app.session put → ∀ response, (app.route year r).1 = some response →
        response.status ∈ [400, 422] → put = []) := by
  unfold route
  split
  · exact ⟨[], .none rfl rfl, fun _ _ _ _ => rfl⟩
  · exact ⟨[], .none rfl rfl, fun _ _ _ _ => rfl⟩
  · split
    · exact early_respondAt app year r.query _
    · exact ⟨[], .none rfl rfl, fun _ _ _ _ => rfl⟩

/-- A refused request has put no statement, if those that requests put are answered as they ask:
with rows of the right form, numbers within the range of doubles, and no fault that is one of a
value. -/
theorem refused_puts_nothing (app : Application) (year : Int) (r : Request) :
    ∃ put, Went app.session put (app.respond year r).2.session ∧
      (Suited app.session put → (app.respond year r).1.status ∈ [400, 422, 429] → put = []) := by
  by_cases hadmits : admits app.settings.rateLimitPerMinute (app.counted r).1
  · rw [respond_of_admits hadmits]
    obtain ⟨put, hwent, hresult⟩ := early_route app year r
    refine ⟨put, hwent, fun hsuited hstatus => ?_⟩
    have hlimit : (throughLayers (app.route year r).1).status ≠ 429 := status_throughLayers_ne year r
    cases hroute : (app.route year r).1 with
    | none =>
      -- A program at fault responds with the status 500, whatever it has put.
      rw [hroute] at hstatus
      have hcrash : crash.status ∈ [400, 422, 429] := hstatus
      exact absurd hcrash (by decide)
    | some response =>
      rw [hroute] at hstatus hlimit
      refine hresult hsuited response hroute ?_
      simp only [throughLayers, status_withHeaders, List.mem_cons, List.not_mem_nil, or_false]
        at hstatus hlimit ⊢
      omega
  · rw [respond_of_not_admits hadmits]
    exact ⟨[], .none rfl rfl, fun _ _ => rfl⟩

/-- A list in an unknown order is refused with the status 400, and the store has been asked
nothing. -/
theorem refused_puts_nothing_badOrder :
    let app : Application := ⟨Settings.ofUrl "db", true, .empty,
      ⟨[.ok .nothing], [], .empty 1 1, 0⟩⟩
    let r : Request := ⟨"GET", "/api/v1/voters", [("sortField", "age")], [], some "a"⟩
    (app.respond 2024 r).1.status = 400 ∧ (app.respond 2024 r).2.session.asked = [] := by
  intro app r
  have hstatus : (app.respond 2024 r).1.status = 400 := by decide +kernel
  obtain ⟨put, hwent, hnothing⟩ := refused_puts_nothing app 2024 r
  have hsuited : Suited app.session put := by
    intro n s o _ ho
    obtain rfl : o = .ok .nothing := List.mem_singleton.1 (List.mem_of_getElem? ho)
    exact Answer.nothing_suits s
  have hrefused : (app.respond 2024 r).1.status ∈ [400, 422, 429] := by
    rw [hstatus]
    decide
  refine ⟨hstatus, ?_⟩
  rw [hwent.asked, hnothing hsuited hrefused]
  rfl

end Application

end Web

end Electorate
