import Electorate.CommandLine.Run
import Electorate.Proofs.Inquiry
import Electorate.Proofs.Traversal
import Electorate.Web.Handler

/-!
# The statements of an inquiry

* `Puts`: what all statements of an inquiry are, and what it gives.
* `Puts.pure`, `Puts.bind`, `Puts.mapM`, ...: one rule for each way to build an inquiry.
* `puts_checked`, `puts_summaries`, ...: the parts of answers that put no statement.
* `reported_snd`, `reported_of_ok`: an inquiry whose result a command writes.
-/

namespace Electorate.Store

open Electorate.Sql (Statement)

/-- Every statement that an inquiry puts is of a kind, and so is what it gives. -/
def Puts (S : Statement → Prop) (P : α → Prop) (q : Inquiry ε α) : Prop :=
  ∀ session, ∃ put, (q.run.run session).2.asked = session.asked ++ put ∧ (∀ s ∈ put, S s) ∧
    ∀ a, (q.run.run session).1 = .ok a → P a

namespace Puts

variable {S : Statement → Prop} {P : α → Prop} {R : β → Prop} {q : Inquiry ε α}
  {f : α → Inquiry ε β}

/-- What puts no statement. -/
theorem of_silent (hasked : ∀ session, (q.run.run session).2.asked = session.asked)
    (hgives : ∀ session a, (q.run.run session).1 = .ok a → P a) : Puts S P q := fun session =>
  ⟨[], by rw [hasked, List.append_nil], nofun, hgives session⟩

theorem pure {a : α} (h : P a) : Puts S P (pure a : Inquiry ε α) :=
  of_silent (fun _ => rfl) fun _ _ hok => Except.ok.inj hok ▸ h

theorem throw (e : ε) : Puts S P (throw e : Inquiry ε α) :=
  of_silent (fun _ => rfl) nofun

/-- Something is given only where it was there, however the failure is named. -/
theorem liftExcept (r : Except ε' α) (g : ε' → ε) :
    Puts S (fun a => r = .ok a) (liftExcept (r.mapError g) : Inquiry ε α) := by
  cases r with
  | ok a => exact pure rfl
  | error e => exact throw (g e)

theorem mono {P' : α → Prop} (h : Puts S P q) (hP : ∀ a, P a → P' a) : Puts S P' q := by
  intro session
  obtain ⟨put, hasked, hput, hgives⟩ := h session
  exact ⟨put, hasked, hput, fun a ha => hP a (hgives a ha)⟩

theorem bind (hq : Puts S P q) (hf : ∀ a, P a → Puts S R (f a)) : Puts S R (q >>= f) := by
  intro session
  obtain ⟨put, hasked, hput, hgives⟩ := hq session
  rcases hrun : q.run.run session with ⟨e | a, mid⟩ <;> rw [hrun] at hasked hgives
  · rw [run_bind_of_error hrun]
    exact ⟨put, hasked, hput, nofun⟩
  · rw [run_bind_of_ok hrun]
    obtain ⟨more, hasked', hmore, hgives'⟩ := hf a (hgives a rfl) mid
    have hboth : ∀ s ∈ put ++ more, S s := fun s hs =>
      (List.mem_append.mp hs).elim (hput s) (hmore s)
    exact ⟨put ++ more, by rw [hasked', hasked, List.append_assoc], hboth, hgives'⟩

/-- What was given does not count. -/
theorem any (h : Puts S P q) : Puts S (fun _ => True) q := h.mono fun _ _ => trivial

theorem orFail {g : ε → ε'} (h : Puts S P q) : Puts S P (orFail g q) := by
  intro session
  obtain ⟨put, hasked, hput, hgives⟩ := h session
  exact ⟨put, hasked, hput, fun a ha => hgives a (mapError_eq_ok.mp ha)⟩

theorem mapM {l : List α} (h : ∀ a ∈ l, Puts S R (f a)) :
    Puts S (fun _ => True) (l.mapM f) := by
  induction l with
  | nil => exact pure trivial
  | cons a l ih =>
    have hrest : Puts S (fun _ => True) (l.mapM f) := ih fun a' ha' =>
      h a' (List.mem_cons_of_mem a ha')
    rw [List.mapM_cons]
    exact (h a List.mem_cons_self).bind fun b _ => hrest.bind fun bs _ => pure trivial

theorem askGuarded {covered : FaultKind → Bool} {s : Statement} (h : S s) :
    Puts S (fun _ => True) (askGuarded covered s) := by
  intro session
  rw [run_askGuarded]
  exact ⟨[s], rfl, by simpa using h, fun _ _ => trivial⟩

theorem attempt {s : Statement} (h : S s) :
    Puts S (fun _ => True) (attempt s : Inquiry ε Outcome) := by
  intro session
  rw [run_attempt]
  exact ⟨[s], rfl, by simpa using h, fun _ _ => trivial⟩

theorem modify {g : Session → Session} (hasked : ∀ session, (g session).asked = session.asked) :
    Puts S (fun _ => True) (modify g : Inquiry ε PUnit) :=
  of_silent hasked fun _ _ _ => trivial

theorem read (r : Except CellError α) : Puts S (fun a => r = .ok a) (read r) := by
  cases r with
  | ok a => exact pure rfl
  | error e => exact throw _

end Puts

end Electorate.Store

namespace Electorate.Web

open Electorate.Store
open Electorate.Sql (Statement)

variable {S : Statement → Prop}

theorem puts_checked (c : Form.Checked α) : Puts S (fun _ => True) (checked c) :=
  (Puts.liftExcept _ _).any

theorem puts_accepted (r : Except FilterError α) : Puts S (fun a => r = .ok a) (accepted r) :=
  Puts.liftExcept _ _

theorem puts_fitting (c : Form.Checked α) : Puts S (fun _ => True) (fitting c) :=
  (Puts.liftExcept _ _).any

theorem puts_summaries (rows : List VoterRow) : Puts S (fun _ => True) (summaries rows) :=
  Puts.mapM (R := fun _ => True) fun _ _ => (puts_fitting _).bind fun _ _ => .pure trivial

/-- An integer is read as it is. -/
theorem puts_readTotal (c : Cell) :
    Puts S (fun total => ∀ n, c = .int n → total = n) (readTotal c) := by
  unfold readTotal
  split
  · exact .throw _
  · exact .throw _
  · exact .throw _
  · refine (Puts.liftExcept _ _).mono fun total htotal n hn => ?_
    subst hn
    exact (Except.ok.inj htotal).symm

end Electorate.Web

namespace Electorate.CommandLine

open Electorate.Store

/-- The session after a report is the one after the questions. -/
theorem reported_snd (q : Inquiry Failure α) (f : α → String) (session : Session) :
    (reported q f session).2 = (q.run.run session).2 := by
  unfold reported
  split
  · rename_i a after hrun
    exact congrArg Prod.snd hrun.symm
  · rename_i e after hrun
    exact congrArg Prod.snd hrun.symm

theorem reported_of_ok {q : Inquiry Failure α} {a : α} {session after : Session}
    (h : q.run.run session = (.ok a, after)) (f : α → String) :
    reported q f session = (.wrote (f a), after) := by
  unfold reported
  split
  · rename_i a' after' hrun
    obtain ⟨ha, rfl⟩ := Prod.mk.inj (hrun.symm.trans h)
    obtain rfl := Except.ok.inj ha
    rfl
  · rename_i e after' hrun
    cases (Prod.mk.inj (hrun.symm.trans h)).1

end Electorate.CommandLine
