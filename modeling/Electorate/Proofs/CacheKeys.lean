import Electorate.Cache.Key
import Electorate.Proofs.JsonTexts

/-!
# Keys of different computations

A key is the name of a computation, a colon and the text of its arguments. The name may be any
text, also one that reads like arguments, so the place where the arguments begin has to be found from
the right: no text of arguments ends in another one. Where an object opens inside a text and its
first member has a name that starts like `args`, the place is not within a string, so what begins
there is a value of the text, and something stands behind it.

* `Opens`: how texts of arguments begin.
* `suffix_canonical`: in the text of a value only objects of the value open so.
* `payload_eq_of_suffix`: no text of arguments ends in another.
* `cacheKey_eq_iff`: two computations have one key exactly if they have one name, the same
  arguments in order and the same named arguments in any order.
-/

namespace Electorate

namespace Json

open Electorate.Text (backslash joinWith)

variable {B cs r : List Char}

/-- A text that opens an object whose first member has a name with `a` in front. -/
def Opens (B : List Char) : Prop := ∃ rest, B = '\x7b' :: '\x22' :: 'a' :: rest

/-- A text that starts with the text of a value, with more behind it. -/
def StartsValue (B : List Char) : Prop :=
  ∃ v r, Plain v ∧ Stop r ∧ r ≠ [] ∧ B = v.canonical.toList ++ r

theorem Opens.ne_cons {c : Char} (h : Opens B) (hc : c ≠ '\x7b') (hB : B = c :: cs) : False := by
  obtain ⟨rest, rfl⟩ := h
  exact hc (List.cons.inj hB).1.symm

/-! ## Strings open nothing -/

/-- Nothing opens where there is no brace. -/
theorem suffix_of_brace_not_mem (hcs : '\x7b' ∉ cs) (hB : B <:+ cs ++ r) (hopen : Opens B) :
    B <:+ r := by
  induction cs with
  | nil => exact hB
  | cons c cs ih =>
    obtain ⟨hc, hcs⟩ := not_or.mp (mt List.mem_cons.mpr hcs)
    rcases List.suffix_cons_iff.mp hB with hwhole | hrest
    · exact (hopen.ne_cons (Ne.symm hc) hwhole).elim
    · exact ih hcs hrest

/-- The quotation mark behind a brace in a string ends the string, and no name goes on from
there. -/
theorem suffix_flatMap_escapeChar (hB : B <:+ cs.flatMap escapeChar ++ '\x22' :: r)
    (hopen : Opens B) (hr : r.head? ≠ some 'a') : B <:+ r := by
  induction cs with
  | nil =>
    rcases List.suffix_cons_iff.mp hB with hwhole | hrest
    · exact (hopen.ne_cons (by decide) hwhole).elim
    · exact hrest
  | cons c cs ih =>
    rw [List.flatMap_cons, List.append_assoc] at hB
    rcases escapeChar_self_or_marked c with ⟨hself, -⟩ | ⟨-, hbrace⟩
    · rw [hself, List.singleton_append] at hB
      rcases List.suffix_cons_iff.mp hB with hwhole | hrest
      · obtain ⟨rest, rfl⟩ := hopen
        have hquote := (List.cons.inj hwhole).2
        cases cs with
        | nil => exact absurd (congrArg List.head? (List.cons.inj hquote).2).symm hr
        | cons d cs =>
          rw [List.flatMap_cons, List.append_assoc] at hquote
          exact absurd (congrArg List.head? hquote).symm (head?_escapeChar_append d _)
      · exact ih hrest
    · exact ih (suffix_of_brace_not_mem hbrace hB hopen)

theorem suffix_stringText {s : String} (hB : B <:+ (stringText s).toList ++ r) (hopen : Opens B)
    (hr : r.head? ≠ some 'a') : B <:+ r := by
  rw [toList_stringText_append] at hB
  rcases List.suffix_cons_iff.mp hB with hwhole | hrest
  · exact (hopen.ne_cons (by decide) hwhole).elim
  · exact suffix_flatMap_escapeChar hrest hopen hr

/-! ## Lists and objects -/

theorem Stop.head?_ne (h : Stop r) : r.head? ≠ some 'a' := fun ha => by
  rcases h 'a' ha with h | h | h <;> exact absurd h (by decide)

section Following

variable {α : Type} {f : α → String} {close : Char} {l : List α}

theorem following_ne_nil : following f close l r ≠ [] := by
  cases l <;> exact List.cons_ne_nil _ _

theorem joinWith_suffix_following :
    (joinWith "," (l.map f)).toList ++ close :: r <:+ following f close l r := by
  cases l with
  | nil => exact List.suffix_refl _
  | cons a l =>
    rw [joinWith_append_cons]
    exact List.suffix_cons _ _

theorem suffix_following (hclose : close = ']' ∨ close = '\x7d')
    (hitem : ∀ a ∈ l, ∀ {r B}, Stop r → r ≠ [] → B <:+ (f a).toList ++ r → Opens B →
      StartsValue B ∨ B <:+ r)
    (hB : B <:+ following f close l r) (hopen : Opens B) : StartsValue B ∨ B <:+ r := by
  -- Arguments open with a brace: the bracket at the end and the commas between items do not.
  induction l with
  | nil =>
    rcases List.suffix_cons_iff.mp hB with hwhole | hrest
    · refine (hopen.ne_cons ?_ hwhole).elim
      rcases hclose with rfl | rfl <;> decide
    · exact .inr hrest
  | cons a l ih =>
    rcases List.suffix_cons_iff.mp hB with hwhole | hrest
    · exact (hopen.ne_cons (by decide) hwhole).elim
    · rcases hitem a List.mem_cons_self (stop_following hclose) following_ne_nil hrest hopen with
        hstart | hfollow
      · exact .inl hstart
      · exact ih (fun b hb => hitem b (List.mem_cons_of_mem a hb)) hfollow

end Following

/-- In the members of an object and what stands behind it, values open where they do in the values
of the members. -/
theorem suffix_members {members : List (String × Json)}
    (hvalue : ∀ m ∈ members, ∀ {r B}, Stop r → r ≠ [] → B <:+ m.2.canonical.toList ++ r → Opens B →
      StartsValue B ∨ B <:+ r)
    (hB : B <:+ (joinWith "," ((sortMembers members).map memberOf)).toList ++ '\x7d' :: r)
    (hopen : Opens B) : StartsValue B ∨ B <:+ r := by
  refine suffix_following (.inr rfl) (fun m hm r B hr hne hB hopen => ?_)
    (hB.trans joinWith_suffix_following) hopen
  rw [memberOf_append] at hB
  rcases List.suffix_cons_iff.mp (suffix_stringText hB hopen (by simp)) with hwhole | hrest
  · exact (hopen.ne_cons (by decide) hwhole).elim
  · exact hvalue m (mem_sortMembers.mp hm) hr hne hrest hopen

/-- In the text of a value and what stands behind it, only values open an object whose first
member has a name with `a` in front. -/
theorem suffix_canonical {v : Json} (hv : Plain v) (hr : Stop r) (hne : r ≠ [])
    (hB : B <:+ v.canonical.toList ++ r) (hopen : Opens B) : StartsValue B ∨ B <:+ r := by
  induction hv generalizing r B with
  -- A value without parts has no brace outside of its strings.
  | null =>
    have hnone : '\x7b' ∉ null.canonical.toList := by
      rw [canonical]
      decide
    exact .inr (suffix_of_brace_not_mem hnone hB hopen)
  | bool b =>
    have hnone : '\x7b' ∉ (bool b).canonical.toList := by
      rw [canonical]
      cases b <;> decide
    exact .inr (suffix_of_brace_not_mem hnone hB hopen)
  | int n =>
    rw [canonical_int] at hB
    have hnone : '\x7b' ∉ n.repr.toList := fun hmem =>
      absurd (isNumeral_of_mem_repr hmem) (by decide)
    exact .inr (suffix_of_brace_not_mem hnone hB hopen)
  | text s =>
    rw [canonical] at hB
    exact .inr (suffix_stringText hB hopen hr.head?_ne)
  | list _ ih =>
    rw [canonical_list_append] at hB
    rcases List.suffix_cons_iff.mp hB with hwhole | hrest
    · exact (hopen.ne_cons (by decide) hwhole).elim
    · exact suffix_following (.inl rfl) (fun v hv => ih v hv) (hrest.trans joinWith_suffix_following) hopen
  | @object members hnodup hvalues ih =>
    rw [canonical_object_append] at hB
    rcases List.suffix_cons_iff.mp hB with hwhole | hrest
    · refine .inl ⟨.object members, r, .object hnodup hvalues, hr, hne, ?_⟩
      rw [canonical_object_append, hwhole]
    · exact suffix_members (fun m hm => ih m hm) hrest hopen

end Json

/-! ## Keys -/

open Json

variable {args args' : List Json} {named named' : List (String × Json)}

/-- The arguments of a computation as one value. -/
def payload (args : List Json) (named : List (String × Json)) : Json :=
  .object [("args", .list args), ("kwargs", .object named)]

theorem plain_payload (hargs : (Json.list args).Plain) (hnamed : (Json.object named).Plain) :
    (payload args named).Plain :=
  .object (by simp) fun m hm => by
    rcases List.mem_pair.mp hm with rfl | rfl
    · exact hargs
    · exact hnamed

/-- Arguments are the same exactly if those in order are and those by name are. -/
theorem same_payload : (payload args named).Same (payload args' named') ↔
    (Json.list args).Same (.list args') ∧ (Json.object named).Same (.object named') := by
  constructor
  · intro h
    cases h with
    | object _ hvalues =>
      exact ⟨hvalues "args" _ _ (by simp) (by simp), hvalues "kwargs" _ _ (by simp) (by simp)⟩
  · rintro ⟨hargs, hnamed⟩
    refine .object (fun _ => Iff.rfl) fun name v w hv hw => ?_
    rw [List.mem_pair, Prod.mk.injEq, Prod.mk.injEq] at hv hw
    rcases hv with ⟨rfl, rfl⟩ | ⟨rfl, rfl⟩ <;> rcases hw with ⟨hname, rfl⟩ | ⟨hname, rfl⟩
    · exact hargs
    · exact absurd hname (by decide)
    · exact absurd hname (by decide)
    · exact hnamed

theorem sortMembers_payload : sortMembers [("args", Json.list args), ("kwargs", .object named)] =
    [("args", .list args), ("kwargs", .object named)] :=
  List.mergeSort_of_pairwise (by simp)

theorem opens_payload (args : List Json) (named : List (String × Json)) :
    Opens (payload args named).canonical.toList := by
  rw [← List.append_nil (canonical _).toList, payload, canonical_object_append, sortMembers_payload,
    joinWith_append_cons, memberOf_append, toList_stringText_append]
  have hname : "args".toList.flatMap escapeChar = "args".toList := by decide
  rw [hname]
  exact ⟨_, rfl⟩

/-- No text of arguments ends in another one. -/
theorem payload_eq_of_suffix (hargs : (Json.list args).Plain) (hnamed : (Json.object named).Plain)
    (hargs' : (Json.list args').Plain) (hnamed' : (Json.object named').Plain)
    (h : (payload args' named').canonical.toList <:+ (payload args named).canonical.toList) :
    (payload args' named').canonical.toList = (payload args named).canonical.toList := by
  have hopen := opens_payload args' named'
  have hplain' := plain_payload hargs' hnamed'
  cases plain_payload hargs hnamed with
  | object _ hvalues =>
    have hshape := canonical_object_append [("args", .list args), ("kwargs", .object named)] []
    rw [List.append_nil] at hshape
    rw [show payload args named = .object [("args", .list args), ("kwargs", .object named)] from rfl,
      hshape] at h ⊢
    rcases List.suffix_cons_iff.mp h with hwhole | hinside
    · exact hwhole
    · rcases suffix_members (fun m hm _ _ => suffix_canonical (hvalues m hm)) hinside hopen with
        ⟨v, r, hv, hr, hne, heq⟩ | hnothing
      · rw [← List.append_nil (canonical _).toList] at heq
        exact absurd (same_of_append_eq hplain' hv stop_nil hr heq).2.symm hne
      · obtain ⟨rest, hrest⟩ := hopen
        rw [List.suffix_nil.mp hnothing] at hrest
        cases hrest

/-- A colon in front of texts of which neither ends in the other is found from the right. -/
theorem append_colon_inj {s t p q : List Char} (hpq : q <:+ p → q = p) (hqp : p <:+ q → p = q)
    (h : s ++ ':' :: p = t ++ ':' :: q) : s = t ∧ p = q := by
  have hlater {s p q : List Char} (hpq : q <:+ p → q = p) (h : ':' :: p = s ++ ':' :: q) :
      s = [] := by
    cases s with
    | nil => rfl
    | cons c s =>
      have hp : p = (s ++ [':']) ++ q := by simpa using (List.cons.inj h).2
      have hlength := congrArg List.length (hpq ⟨_, hp.symm⟩ ▸ hp)
      simp at hlength
      omega
  rcases List.append_eq_append_iff.mp h with ⟨middle, rfl, hmiddle⟩ | ⟨middle, rfl, hmiddle⟩
  · obtain rfl := hlater hpq hmiddle
    exact ⟨(List.append_nil s).symm, (List.cons.inj hmiddle).2⟩
  · obtain rfl := hlater hqp hmiddle
    exact ⟨List.append_nil t, (List.cons.inj hmiddle).2.symm⟩

theorem toList_cacheKey (computation : String) (args : List Json) (named : List (String × Json)) :
    (cacheKey computation args named).toList =
      computation.toList ++ ':' :: (payload args named).canonical.toList := by
  rw [cacheKey, String.toList_append, String.toList_append, List.append_assoc]
  rfl

/-- Two computations have one key exactly if they have the same name, the same arguments in order
and the same named arguments in any order. The name may be any text. -/
theorem cacheKey_eq_iff {computation computation' : String} (hargs : (Json.list args).Plain)
    (hnamed : (Json.object named).Plain) (hargs' : (Json.list args').Plain)
    (hnamed' : (Json.object named').Plain) :
    cacheKey computation args named = cacheKey computation' args' named' ↔
      computation = computation' ∧ (Json.list args).Same (.list args') ∧
        (Json.object named).Same (.object named') := by
  have hplain := plain_payload hargs hnamed
  have hplain' := plain_payload hargs' hnamed'
  rw [← same_payload, ← canonical_eq_iff hplain hplain']
  constructor
  · intro h
    have hchars := congrArg String.toList h
    rw [toList_cacheKey, toList_cacheKey] at hchars
    obtain ⟨hname, hpayload⟩ := append_colon_inj
      (payload_eq_of_suffix hargs hnamed hargs' hnamed')
      (payload_eq_of_suffix hargs' hnamed' hargs hnamed) hchars
    exact ⟨String.toList_injective hname, String.toList_injective hpayload⟩
  · rintro ⟨rfl, hpayload⟩
    exact congrArg (computation ++ ":" ++ ·) hpayload

/-- Members in another order make the same key. A colon that ends the name does not. -/
theorem cacheKey_eq_iff_colon :
    cacheKey "a" [.object [("x", .int 1), ("y", .null)]] [("k", .text "\x22")] =
        cacheKey "a" [.object [("y", .null), ("x", .int 1)]] [("k", .text "\x22")] ∧
      cacheKey "a" [] [("k", .text "\x22")] ≠ cacheKey "a:" [] [("k", .text "\x22")] := by
  have hxy : (Json.list [.object [("x", .int 1), ("y", .null)]]).Plain :=
    .list (by simpa using .object (by simp) (by simp [Plain.int, Plain.null]))
  have hyx : (Json.list [.object [("y", .null), ("x", .int 1)]]).Plain :=
    .list (by simpa using .object (by simp) (by simp [Plain.int, Plain.null]))
  have hnone : (Json.list []).Plain := .list (by simp)
  have hk : (Json.object [("k", .text "\x22")]).Plain := .object (by simp) (by simp [Plain.text])
  constructor
  · refine (cacheKey_eq_iff hxy hk hyx hk).mpr ⟨rfl, .list rfl ?_, ?_⟩
    · simp only [List.zip_cons_cons, List.zip_nil_left, List.forall_mem_singleton]
      refine .object (by simp [or_comm]) fun name v w hv hw => ?_
      simp only [List.mem_pair, Prod.mk.injEq] at hv hw
      rcases hv with ⟨rfl, rfl⟩ | ⟨rfl, rfl⟩ <;> rcases hw with ⟨hname, rfl⟩ | ⟨hname, rfl⟩
      · exact absurd hname (by decide)
      · exact .int 1
      · exact .null
      · exact absurd hname (by decide)
    · exact (canonical_eq_iff hk hk).mp rfl
  · intro h
    exact absurd ((cacheKey_eq_iff hnone hk hnone hk).mp h).1 (by decide)

end Electorate
