import Electorate.Proofs.Extraction
import Electorate.Proofs.FilterMeaning
import Electorate.Proofs.Inquiry
import Electorate.Proofs.VoterFile
import Electorate.Roster.Household

/-!
# Households

Who is returned as living with a voter. Empty parts of the voter's residence ask for nothing, and
the street name asks for a beginning, so that living with somebody is not mutual.

* `Voter.SharesResidence`: two voters have the same residence.
* `Voter.LivesWith`: what the statement for the others asks of them.
* `Voter.LivesWith.swap_iff`: living with somebody is mutual exactly under the same residence.
* `VoterFile.GivesFrom`, `VoterFile.Gives`: what an inquiry gives whose statements a voter file
  answers, with one rule for a statement (`givesFrom_bind`) and one for the end (`givesFrom_pure`).
* `Roster.gives_household`: the household of a number, by what is stored under the number.
* `Roster.household_complete`: whoever has the residence of a voter is in the household.
* `Roster.Lists`, `Roster.lists_swap_iff`: when two voters are in the household of one another.
-/

namespace Electorate

open Electorate.Sql Electorate.Store

/-! ## Residences -/

namespace AddressPart

/-- A text of a part as it is compared: house number and postal code as they are, the others in
upper case. -/
def fold (upper : String → String) : AddressPart → String → String
  | .streetNumber | .zipcode => id
  | _ => upper

/-- A compared text fits another one if it is the same, or the beginning of it in a street name. -/
def Fits (p : AddressPart) (x y : String) : Prop :=
  match p with
  | .streetName => x.toList <+: y.toList
  | _ => y = x

variable {p : AddressPart} {x y s : String}

theorem Fits.refl (p : AddressPart) (x : String) : p.Fits x x := by
  cases p
  case streetName => exact List.prefix_rfl
  all_goals rfl

theorem Fits.antisymm (hxy : p.Fits x y) (hyx : p.Fits y x) : x = y := by
  cases p
  case streetName => exact String.toList_injective (hxy.eq_of_length_le hyx.length_le)
  all_goals exact hyx

theorem Fits.eq_of_ne (h : p.Fits x y) (hp : p ≠ .streetName) : x = y := by
  cases p
  case streetName => exact absurd rfl hp
  all_goals exact h.symm

theorem Fits.ne_empty (h : p.Fits x y) (hx : x ≠ "") : y ≠ "" := by
  cases p
  case streetName =>
    rintro rfl
    exact hx (String.toList_injective (List.prefix_nil.mp h))
  all_goals exact h ▸ hx

theorem fold_ne_empty (hs : s ≠ "") : p.fold Text.upper s ≠ "" := by
  cases p
  case streetNumber | zipcode => exact hs
  all_goals exact Text.upper_ne_empty hs

end AddressPart

namespace Voter

variable {w : World} {a b : Voter} {p : AddressPart} {s : String}

/-- A part of the residence. An empty text is none. -/
def residence (v : Voter) (p : AddressPart) : Option String :=
  (v.text (.residence p)).filter (· ≠ "")

/-- Two voters have the same part of a residence, or both have none. -/
def SharesPart (w : World) (a b : Voter) (p : AddressPart) : Prop :=
  (a.residence p).map (p.fold w.upper) = (b.residence p).map (p.fold w.upper)

/-- Two voters have the same residence. -/
def SharesResidence (w : World) (a b : Voter) : Prop := ∀ p, SharesPart w a b p

/-- A voter resides as given by all parts that another one's residence has. -/
def LivesWith (w : World) (b a : Voter) : Prop :=
  ∀ p s, a.residence p = some s → b.ResidesAt w p s

/-- The database writes the residence of a voter in upper case as the program does. This is an
assumption on the database and its collation: the two agree on ASCII, and may differ on letters that
change their number in upper case. -/
def Raised (w : World) (v : Voter) : Prop :=
  ∀ p s, v.text (.residence p) = some s → w.upper s = Text.upper s

theorem residence_eq_some_iff :
    a.residence p = some s ↔ a.text (.residence p) = some s ∧ s ≠ "" := by
  simp [residence, Option.filter_eq_some_iff]

theorem residesAt_iff : a.ResidesAt w p s ↔
    ∃ t, a.text (.residence p) = some t ∧ p.Fits (p.fold Text.upper s) (p.fold w.upper t) := by
  cases p
  case streetNumber | zipcode =>
    refine ⟨fun h => ⟨s, h, rfl⟩, ?_⟩
    rintro ⟨t, ht, rfl⟩
    exact ht
  all_goals exact Iff.rfl

theorem Raised.fold_eq (ha : a.Raised w) (hs : a.text (.residence p) = some s) :
    p.fold w.upper s = p.fold Text.upper s := by
  cases p
  case streetNumber | zipcode => rfl
  all_goals exact ha _ s hs

/-- Who lives with a voter has all parts that the voter's residence has. -/
theorem LivesWith.exists_residence (h : b.LivesWith w a) (ha : a.Raised w) (hb : b.Raised w)
    (hs : a.residence p = some s) :
    ∃ t, b.residence p = some t ∧ p.Fits (p.fold w.upper s) (p.fold w.upper t) := by
  obtain ⟨t, ht, hfits⟩ := residesAt_iff.mp (h p s hs)
  obtain ⟨htext, hne⟩ := residence_eq_some_iff.mp hs
  refine ⟨t, residence_eq_some_iff.mpr ⟨ht, ?_⟩, ha.fold_eq htext ▸ hfits⟩
  -- An empty text would be the upper case of one that is not.
  rintro rfl
  refine hfits.ne_empty (AddressPart.fold_ne_empty hne) ?_
  rw [hb.fold_eq ht]
  cases p <;> rfl

/-- Who has the same residence lives there. -/
theorem SharesResidence.livesWith (h : SharesResidence w a b) (ha : a.Raised w) :
    b.LivesWith w a := by
  intro p s hs
  have hmap : (a.residence p).map (p.fold w.upper) = (b.residence p).map (p.fold w.upper) := h p
  rw [hs, Option.map_some] at hmap
  obtain ⟨t, ht, hfold⟩ := Option.map_eq_some_iff.mp hmap.symm
  refine residesAt_iff.mpr ⟨t, (residence_eq_some_iff.mp ht).1, ?_⟩
  rw [hfold, ha.fold_eq (residence_eq_some_iff.mp hs).1]
  exact .refl p _

theorem SharesResidence.symm (h : SharesResidence w a b) : SharesResidence w b a :=
  fun p => Eq.symm (h p)

/-- Who lives with a voter has the same residence, if it has no other parts than that of the voter
and its street name is no longer one. -/
theorem LivesWith.sharesResidence_iff (h : b.LivesWith w a) (ha : a.Raised w) (hb : b.Raised w) :
    SharesResidence w a b ↔
      (∀ p, a.residence p = none → b.residence p = none) ∧ SharesPart w a b .streetName := by
  refine ⟨fun hshares => ⟨fun p hp => ?_, hshares _⟩, fun ⟨hnone, hstreet⟩ p => ?_⟩
  · have hmap : (a.residence p).map (p.fold w.upper) = (b.residence p).map (p.fold w.upper) :=
      hshares p
    rw [hp] at hmap
    exact Option.map_eq_none_iff.mp hmap.symm
  · by_cases hp : p = .streetName
    · exact hp ▸ hstreet
    · unfold SharesPart
      cases hs : a.residence p with
      | none => rw [hnone p hs]
      | some s =>
        obtain ⟨t, ht, hfits⟩ := h.exists_residence ha hb hs
        rw [ht, Option.map_some, Option.map_some, hfits.eq_of_ne hp]

/-- Living with somebody is mutual exactly under the same residence. -/
theorem LivesWith.swap_iff (h : b.LivesWith w a) (ha : a.Raised w) (hb : b.Raised w) :
    a.LivesWith w b ↔ SharesResidence w a b := by
  refine ⟨fun hswap p => ?_, fun hshares => hshares.symm.livesWith hb⟩
  unfold SharesPart
  cases hs : a.residence p with
  | none =>
    have hnone : b.residence p = none := by
      by_contra hsome
      obtain ⟨t, ht⟩ := Option.ne_none_iff_exists'.mp hsome
      obtain ⟨s, hs', -⟩ := hswap.exists_residence hb ha ht
      rw [hs] at hs'
      cases hs'
    rw [hnone]
  | some s =>
    -- Either text starts with the other.
    obtain ⟨t, ht, hfits⟩ := h.exists_residence ha hb hs
    obtain ⟨s', hs', hfits'⟩ := hswap.exists_residence hb ha ht
    obtain rfl : s = s' := Option.some.inj (hs.symm.trans hs')
    rw [ht, Option.map_some, Option.map_some, hfits.antisymm hfits']

end Voter

/-! ## Inquiries of a voter file -/

namespace VoterFile

variable {file : VoterFile} {send : Voter → VoterRow} {session : Session} {put : List Statement}

/-- Every voter has a registration number. -/
def Numbered (file : VoterFile) : Prop := ∀ v ∈ file.voters, v.text .registrationNumber ≠ none

/-- From a session an inquiry puts the statements `put`, which the file answers, and it gives
`result`. -/
def GivesFrom (file : VoterFile) (send : Voter → VoterRow) (session : Session) (q : Inquiry ε α)
    (put : List Statement) (result : Except ε α) : Prop :=
  ∃ after, q.run.run session = (result, after) ∧ after.asked = session.asked ++ put ∧
    ∃ answers rest, session.outcomes = answers.map .ok ++ rest ∧
      List.Forall₂ (file.Answers send) put answers

/-- An inquiry that puts the statements `put` to the file may give `result`. -/
def Gives (file : VoterFile) (send : Voter → VoterRow) (q : Inquiry ε α) (put : List Statement)
    (result : Except ε α) : Prop :=
  ∃ session, file.GivesFrom send session q put result

theorem givesFrom_pure {a : α} {result : Except ε α} :
    file.GivesFrom send session (pure a) put result ↔ put = [] ∧ result = .ok a := by
  constructor
  · rintro ⟨after, hrun, hasked, -⟩
    obtain ⟨rfl, rfl⟩ := Prod.mk.inj hrun
    exact ⟨List.append_right_eq_self.mp hasked.symm, rfl⟩
  · rintro ⟨rfl, rfl⟩
    exact ⟨session, rfl, (List.append_nil _).symm, [], session.outcomes, rfl, .nil⟩

/-- A statement takes an answer, and what follows goes on with it. -/
theorem givesFrom_bind {covered : FaultKind → Bool} {s : Statement} {f : Answer → Inquiry Failure α}
    (hf : ∀ x, Reports covered (f x)) {result : Except Failure α} :
    file.GivesFrom send session (askGuarded covered s >>= f) put result ↔
      ∃ x rest more, session.outcomes = .ok x :: rest ∧ file.Answers send s x ∧ put = s :: more ∧
        file.GivesFrom send (session.afterPut s) (f x) more result := by
  constructor
  · rintro ⟨after, hrun, hasked, answers, rest, houtcomes, hanswers⟩
    obtain ⟨more, hmore⟩ := Reports.exists_asked_askGuarded_bind (s := s) hf session
    rw [hrun] at hmore
    obtain rfl : put = s :: more := List.append_cancel_left (hasked.symm.trans hmore)
    obtain ⟨x, xs, hx, hxs, rfl⟩ := List.forall₂_cons_left_iff.mp hanswers
    have hfirst : session.outcomes = .ok x :: (xs.map .ok ++ rest) := houtcomes
    rw [run_askGuarded_bind_of_ok (nextOutcome_of_cons hfirst)] at hrun
    exact ⟨x, _, more, hfirst, hx, rfl, after, hrun, hmore.trans (session.asked_afterPut s more).symm,
      xs, rest, Session.outcomes_afterPut hfirst, hxs⟩
  · rintro ⟨x, outcomes, more, hfirst, hx, rfl, after, hrun, hasked, xs, rest, hxs, hanswers⟩
    rw [Session.outcomes_afterPut hfirst] at hxs
    refine ⟨after, (run_askGuarded_bind_of_ok (nextOutcome_of_cons hfirst)).trans hrun,
      hasked.trans (session.asked_afterPut s more), x :: xs, rest, ?_, .cons hx hanswers⟩
    rw [hfirst, hxs]
    rfl

/-- The voters of a registration number: one or none. -/
theorem Arranges.eq_of_number {number : String} {order : List SortKey} {rows : List Voter}
    (h : file.Arranges (.equals (.plain .registrationNumber) number) order rows) :
    (rows = [] ∧ ∀ v ∈ file.voters, v.text .registrationNumber ≠ some number) ∨
      ∃ a ∈ file.voters, a.text .registrationNumber = some number ∧ rows = [a] := by
  have hmem (v : Voter) : v ∈ rows ↔ v ∈ file.voters ∧ v.text .registrationNumber = some number :=
    h.1.mem_iff.trans (mem_selected.trans (and_congr_right' Predicate.selects_equals))
  cases rows with
  | nil => exact .inl ⟨rfl, fun v hv hn => by simpa using (hmem v).mpr ⟨hv, hn⟩⟩
  | cons a rest =>
    obtain ⟨ha, hnumber⟩ := (hmem a).mp List.mem_cons_self
    have hnodup : (a :: rest).Nodup := h.1.nodup_iff.mpr (file.selected_nodup _)
    refine .inr ⟨a, ha, hnumber, ?_⟩
    -- Another row would have the number too, and be the same voter.
    cases rest with
    | nil => rfl
    | cons b rest =>
      obtain ⟨hb, hnumber'⟩ := (hmem b).mp (by simp)
      obtain rfl := file.eq_of_number_eq ha hb (hnumber.trans hnumber'.symm)
      simp at hnodup

end VoterFile

/-! ## The household of a number -/

/-- The texts of a voter are sent as they are stored. -/
def SendsTexts (send : Voter → VoterRow) : Prop :=
  ∀ v c, (send v).cell (.text c) = (v.text c).elim .null .text

namespace Roster

variable {file : VoterFile} {send : Voter → VoterRow} {session : Session} {put : List Statement}
  {number : String} {w : World} {a b : Voter} {q : Predicate}

/-- The condition on the others is made of the residence as it is stored. -/
theorem residence_bind_predicate? (hsend : SendsTexts send) (a : Voter) :
    (residence (send a)).bind (·.predicate?) =
      (ResidentAddress.ofParts fun p => (a.residence p).getD "").predicate? := by
  have hparts : (fun p => ((send a).cell (.text (.residence p))).orEmpty) =
      fun p => (a.residence p).getD "" := by
    funext p
    rw [hsend]
    cases hs : a.text (.residence p) with
    | none => simp [Voter.residence, hs, Cell.orEmpty]
    | some s => by_cases hne : s = "" <;> simp [Voter.residence, Option.filter, hs, hne, Cell.orEmpty]
  unfold residence
  rw [hparts]
  generalize (ResidentAddress.ofParts fun p => (a.residence p).getD "") = address
  dsimp only
  split
  · -- An address without a part has no condition of its own either.
    rename_i hempty
    have hnone : address.predicate? = none := if_pos hempty
    rw [hnone, Option.bind_none]
  · rw [Option.bind_some]

/-- There is a condition if a part of the residence is stored. -/
theorem residence_bind_eq_none_iff (hsend : SendsTexts send) :
    (residence (send a)).bind (·.predicate?) = none ↔ ∀ p, a.residence p = none := by
  rw [residence_bind_predicate? hsend, ← Option.not_isSome_iff_eq_none, isSome_address,
    Bool.not_eq_false, ResidentAddress.isEmpty, List.all_eq_true]
  refine ⟨fun h p => ?_, fun h p _ => by simp [ResidentAddress.part_ofParts, h p]⟩
  have hp := h p (AddressPart.mem_all p)
  rw [ResidentAddress.part_ofParts, String.isEmpty_iff] at hp
  cases hs : a.residence p with
  | none => rfl
  | some s =>
    rw [hs] at hp
    exact absurd hp (Voter.residence_eq_some_iff.mp hs).2

/-- The condition selects who lives with the voter. -/
theorem selects_residence (hsend : SendsTexts send)
    (h : (residence (send a)).bind (·.predicate?) = some q) :
    Predicate.Selects w b q ↔ b.LivesWith w a := by
  rw [residence_bind_predicate? hsend] at h
  rw [selects_address h]
  unfold Voter.LivesAt Voter.LivesWith
  refine forall_congr' fun p => ?_
  rw [ResidentAddress.part_ofParts]
  cases hs : a.residence p with
  | none => simp
  | some s => simp [(Voter.residence_eq_some_iff.mp hs).2]

/-- What is asked for once the voters of the number are known. -/
def others (number : String) (rows : List VoterRow) : Inquiry Failure (Option (List VoterRow)) :=
  match rows with
  | [] => return none
  | voter :: _ =>
    match (residence voter).bind (·.predicate?) with
    | none => return some []
    | some atAddress => do
      let others ← askGuarded ofDriver (membersStatement atAddress number)
      return some others.voters

theorem reports_others (rows : List VoterRow) : Reports ofDriver (others number rows) := by
  unfold others
  split
  · exact .pure _
  · split
    · exact .pure _
    · exact (Reports.askGuarded _).bind fun _ => .pure _

theorem givesFrom_household {result : Except Failure (Option (List VoterRow))} :
    file.GivesFrom send session (household number) put result ↔
      ∃ x rest more, session.outcomes = .ok x :: rest ∧
        file.Answers send (voterStatement number) x ∧ put = voterStatement number :: more ∧
        file.GivesFrom send (session.afterPut (voterStatement number)) (others number x.voters) more
          result :=
  VoterFile.givesFrom_bind fun x => reports_others x.voters

/-- The statements put for the household of a number and what is returned for it. -/
inductive HouseholdAnswer (file : VoterFile) (send : Voter → VoterRow) (number : String) :
    List Statement → Except Failure (Option (List VoterRow)) → Prop
  | unknown (h : ∀ v ∈ file.voters, v.text .registrationNumber ≠ some number) :
    HouseholdAnswer file send number [voterStatement number] (.ok none)
  | blank {a : Voter} (ha : a ∈ file.voters) (hnumber : a.text .registrationNumber = some number)
      (hblank : ∀ p, a.residence p = none) :
    HouseholdAnswer file send number [voterStatement number] (.ok (some []))
  | members {a : Voter} {p : AddressPart} {atAddress : Predicate} {members : List Voter}
      (ha : a ∈ file.voters) (hnumber : a.text .registrationNumber = some number)
      (hpart : a.residence p ≠ none) (hnodup : members.Nodup)
      (hmem : ∀ b, b ∈ members ↔ b ∈ file.voters ∧ b ≠ a ∧ b.LivesWith file.world a) :
    HouseholdAnswer file send number [voterStatement number, membersStatement atAddress number]
      (.ok (some (members.map send)))

/-- The statement for the others returns who lives with the voter. -/
theorem mem_of_arranges (hnumbered : file.Numbered) (hsend : SendsTexts send) (ha : a ∈ file.voters)
    (hnumber : a.text .registrationNumber = some number)
    (hq : (residence (send a)).bind (·.predicate?) = some q) {order : List SortKey}
    {members : List Voter}
    (h : file.Arranges (q.both (.differs .registrationNumber number)) order members) :
    b ∈ members ↔ b ∈ file.voters ∧ b ≠ a ∧ b.LivesWith file.world a := by
  refine (h.1.mem_iff.trans VoterFile.mem_selected).trans (and_congr_right fun hb => ?_)
  have hdiffers : Predicate.Selects file.world b (.differs .registrationNumber number) ↔ b ≠ a := by
    rw [Predicate.selects_differs]
    constructor
    · rintro ⟨s, hs, hne⟩ rfl
      exact hne (Option.some.inj (hs.symm.trans hnumber))
    · intro hne
      obtain ⟨s, hs⟩ := Option.ne_none_iff_exists'.mp (hnumbered b hb)
      refine ⟨s, hs, ?_⟩
      rintro rfl
      exact hne (file.eq_of_number_eq hb ha (hs.trans hnumber.symm))
  exact Predicate.selects_both.trans
    ((and_congr (selects_residence hsend hq) hdiffers).trans and_comm)

theorem gives_household (hnumbered : file.Numbered) (hsend : SendsTexts send)
    {result : Except Failure (Option (List VoterRow))}
    (h : file.Gives send (household number) put result) :
    HouseholdAnswer file send number put result := by
  obtain ⟨session, hfrom⟩ := h
  obtain ⟨x, rest, more, -, ⟨rows, hrows, hx⟩, rfl, h⟩ := givesFrom_household.mp hfrom
  rw [hx] at h
  rcases VoterFile.Arranges.eq_of_number hrows with ⟨rfl, hnone⟩ | ⟨a, ha, hnumber, rfl⟩
  · obtain ⟨rfl, rfl⟩ := VoterFile.givesFrom_pure.mp h
    exact .unknown hnone
  · rw [List.map_singleton, others] at h
    split at h
    · next hq =>
      obtain ⟨rfl, rfl⟩ := VoterFile.givesFrom_pure.mp h
      exact .blank ha hnumber ((residence_bind_eq_none_iff hsend).mp hq)
    · next q hq =>
      obtain ⟨y, rest, more, -, ⟨members, hmembers, hy⟩, rfl, hpure⟩ :=
        (VoterFile.givesFrom_bind fun _ => .pure _).mp h
      obtain ⟨rfl, rfl⟩ := VoterFile.givesFrom_pure.mp hpure
      have hpart : ¬∀ p, a.residence p = none := by
        rw [← residence_bind_eq_none_iff hsend, hq]
        simp
      obtain ⟨p, hp⟩ := not_forall.mp hpart
      rw [hy]
      exact .members ha hnumber hp (hmembers.1.nodup_iff.mpr (file.selected_nodup _))
        fun b => mem_of_arranges hnumbered hsend ha hnumber hq hmembers

/-- A file has answers for a household. -/
theorem exists_gives_household (file : VoterFile) (send : Voter → VoterRow) (number : String) :
    ∃ put result, file.Gives send (household number) put result := by
  have hanswer (p : Predicate) (order : List SortKey) :
      ∃ x : Answer, file.Answers send (.voters p order none) x := by
    obtain ⟨rows, hrows⟩ := file.exists_arranges p order
    exact ⟨⟨[], .null, rows.map send⟩, rows, hrows, rfl⟩
  obtain ⟨x, hx⟩ := hanswer (.equals (.plain .registrationNumber) number) []
  obtain ⟨y, more, result, h⟩ : ∃ y more result, file.GivesFrom send
      ⟨[.ok y], [voterStatement number], .empty 256 3600, 0⟩ (others number x.voters) more
        result := by
    unfold others
    split
    · exact ⟨x, _, _, VoterFile.givesFrom_pure.mpr ⟨rfl, rfl⟩⟩
    · split
      · exact ⟨x, _, _, VoterFile.givesFrom_pure.mpr ⟨rfl, rfl⟩⟩
      · next q hq =>
        obtain ⟨y, hy⟩ := hanswer (q.both (.differs .registrationNumber number))
          [⟨.text .lastName, none⟩, ⟨.text .firstName, none⟩]
        exact ⟨y, _, _, (VoterFile.givesFrom_bind fun _ => .pure _).mpr
          ⟨y, [], [], rfl, hy, rfl, VoterFile.givesFrom_pure.mpr ⟨rfl, rfl⟩⟩⟩
  exact ⟨_, result, ⟨[.ok x, .ok y], [], .empty 256 3600, 0⟩,
    givesFrom_household.mpr ⟨x, [.ok y], more, rfl, hx, rfl, h⟩⟩

/-- A row with the texts of a voter. -/
def textRow (v : Voter) : VoterRow where
  cell
    | .text c => (v.text c).elim .null .text
    | _ => .null

theorem sendsTexts_textRow : SendsTexts textRow := fun _ _ => rfl

/-- A voter of whom the number and a residence with all parts are kept. -/
def resident (number street : String) : Voter :=
  { (default : Voter) with
    text := fun
      | .registrationNumber => some number
      | .residence .streetNumber => some "12"
      | .residence .preDirection => some "n"
      | .residence .streetName => some street
      | .residence .streetType => some "St"
      | .residence .postDirection => some "SE"
      | .residence .aptUnitNumber => some "A,1"
      | .residence .city => some "Atlanta"
      | .residence .zipcode => some "30303"
      | _ => none }

/-- Two voters whose residences differ in the street alone, if they differ at all. The database
writes upper case as the program does. -/
def twoResidents (street street' : String) : VoterFile where
  world := { (default : World) with upper := Text.upper }
  collation := .byCodePoint
  voters := [resident "1" street, resident "2" street']
  numbers_nodup := show [some "1", some "2"].Nodup by decide

theorem numbered_twoResidents (street street' : String) : (twoResidents street street').Numbered := by
  intro v hv
  rcases List.mem_pair.mp hv with rfl | rfl
  · exact Option.some_ne_none "1"
  · exact Option.some_ne_none "2"

/-- The residences of two residents differ in the street name alone. -/
theorem sharesResidence_resident {w : World} {m n street street' : String}
    (h : ((some street).filter (· ≠ "")).map w.upper = ((some street').filter (· ≠ "")).map w.upper) :
    Voter.SharesResidence w (resident m street) (resident n street') := by
  intro p
  cases p
  case streetName => exact h
  all_goals rfl

/-- Whoever has the residence of a voter is in the voter's household, and the voter is not. Of a
voter without a residence no second statement is put, and nothing is returned for a number that no
voter has. That nobody is missed assumes `Voter.Raised` of the voter who is asked for: the stored
residence has one upper case in the database and in the program. -/
theorem household_complete (hnumbered : file.Numbered) (hsend : SendsTexts send) (number : String) :
    (∃ put result, file.Gives send (household number) put result) ∧
    ∀ put result, file.Gives send (household number) put result →
      (result = .ok none ↔ ∀ v ∈ file.voters, v.text .registrationNumber ≠ some number) ∧
      ∀ a ∈ file.voters, a.text .registrationNumber = some number →
        ((∀ p, a.residence p = none) → result = .ok (some []) ∧ put = [voterStatement number]) ∧
        ((∃ p, a.residence p ≠ none) → ∃ members : List Voter,
          result = .ok (some (members.map send)) ∧
          members.Nodup ∧
          (∀ b ∈ members, b ∈ file.voters ∧ b.text .registrationNumber ≠ some number) ∧
          (a.Raised file.world → ∀ b ∈ file.voters, b ≠ a →
            Voter.SharesResidence file.world a b → b ∈ members)) := by
  refine ⟨exists_gives_household file send number, fun put result h => ?_⟩
  cases gives_household hnumbered hsend h with
  | unknown hnone => exact ⟨by simpa using hnone, fun a ha hn => absurd hn (hnone a ha)⟩
  | @blank a ha hnumber hblank =>
    refine ⟨by simpa using ⟨a, ha, hnumber⟩, fun a' ha' hnumber' => ?_⟩
    obtain rfl := file.eq_of_number_eq ha ha' (hnumber.trans hnumber'.symm)
    exact ⟨fun _ => ⟨rfl, rfl⟩, fun ⟨p, hp⟩ => absurd (hblank p) hp⟩
  | @members a p _ members ha hnumber hp hnodup hmem =>
    refine ⟨by simpa using ⟨a, ha, hnumber⟩, fun a' ha' hnumber' => ?_⟩
    obtain rfl := file.eq_of_number_eq ha ha' (hnumber.trans hnumber'.symm)
    refine ⟨fun hblank => absurd (hblank p) hp, fun _ => ⟨members, rfl, hnodup, ?_, ?_⟩⟩
    · intro b hb
      obtain ⟨hfile, hne, -⟩ := (hmem b).mp hb
      exact ⟨hfile, fun hn => hne (file.eq_of_number_eq hfile ha (hn.trans hnumber.symm))⟩
    · exact fun hraised b hb hne hshares => (hmem b).mpr ⟨hb, hne, hshares.livesWith hraised⟩

/-- Two spellings of a street whose name is full of marks. -/
theorem household_complete_spellings :
    (twoResidents "Oak_%\\" "OAK_%\\").Numbered ∧ SendsTexts textRow ∧
    (∃ p, (resident "1" "Oak_%\\").residence p ≠ none) ∧
    (resident "1" "Oak_%\\").Raised (twoResidents "Oak_%\\" "OAK_%\\").world ∧
    ∃ put, ∃ members : List Voter, (twoResidents "Oak_%\\" "OAK_%\\").Gives textRow (household "1") put
      (.ok (some (members.map textRow))) ∧ resident "2" "OAK_%\\" ∈ members := by
  have hnumbered := numbered_twoResidents "Oak_%\\" "OAK_%\\"
  have hpart : ∃ p, (resident "1" "Oak_%\\").residence p ≠ none := ⟨.city, by decide⟩
  have hraised : (resident "1" "Oak_%\\").Raised (twoResidents "Oak_%\\" "OAK_%\\").world :=
    fun _ _ _ => rfl
  have hshares : Voter.SharesResidence (twoResidents "Oak_%\\" "OAK_%\\").world
      (resident "1" "Oak_%\\") (resident "2" "OAK_%\\") := sharesResidence_resident (by decide)
  obtain ⟨⟨put, result, h⟩, hall⟩ :=
    household_complete hnumbered sendsTexts_textRow "1"
  obtain ⟨members, rfl, -, -, hmem⟩ :=
    ((hall put result h).2 (resident "1" "Oak_%\\") List.mem_cons_self rfl).2 hpart
  refine ⟨hnumbered, sendsTexts_textRow, hpart, hraised, put, members, h, ?_⟩
  refine hmem hraised _ (List.mem_cons_of_mem _ List.mem_cons_self) (fun he => ?_) hshares
  have hnumber := congrArg (fun v => v.text .registrationNumber) he
  exact absurd (Option.some.inj hnumber) (by decide)

/-! ## Two households -/

/-- A number is in the household of another one. -/
def Lists (file : VoterFile) (send : Voter → VoterRow) (number other : String) : Prop :=
  ∃ put rows, file.Gives send (household number) put (.ok (some rows)) ∧
    ∃ row ∈ rows, row.cell (.text .registrationNumber) = .text other

theorem lists_iff {other : String} (hnumbered : file.Numbered) (hsend : SendsTexts send)
    (ha : a ∈ file.voters) (hb : b ∈ file.voters) (hnumber : a.text .registrationNumber = some number)
    (hother : b.text .registrationNumber = some other) :
    Lists file send number other ↔
      (∃ p, a.residence p ≠ none) ∧ b ≠ a ∧ b.LivesWith file.world a := by
  constructor
  · rintro ⟨put, rows, h, row, hrow, hcell⟩
    generalize hresult : Except.ok (some rows) = result at h
    cases gives_household hnumbered hsend h with
    | unknown => simp at hresult
    | blank =>
      obtain rfl : rows = [] := by simpa using hresult
      simp at hrow
    | @members a' p _ members ha' hnumber' hp _ hmem =>
      obtain rfl : rows = members.map send := by simpa using hresult
      obtain rfl := file.eq_of_number_eq ha' ha (hnumber'.trans hnumber.symm)
      obtain ⟨b', hb', rfl⟩ := List.mem_map.mp hrow
      obtain ⟨hfile, hne, hlives⟩ := (hmem b').mp hb'
      have hnumber'' : b'.text .registrationNumber = some other := by
        rw [hsend] at hcell
        cases hn : b'.text .registrationNumber with
        | none => simp [hn] at hcell
        | some n => simpa [hn] using hcell
      obtain rfl := file.eq_of_number_eq hfile hb (hnumber''.trans hother.symm)
      exact ⟨⟨p, hp⟩, hne, hlives⟩
  · rintro ⟨⟨p, hp⟩, hne, hlives⟩
    obtain ⟨put, result, h⟩ := exists_gives_household file send number
    have hanswer := gives_household hnumbered hsend h
    cases hanswer with
    | unknown hnone => exact absurd hnumber (hnone a ha)
    | @blank a' ha' hnumber' hblank =>
      obtain rfl := file.eq_of_number_eq ha' ha (hnumber'.trans hnumber.symm)
      exact absurd (hblank p) hp
    | @members a' _ _ members ha' hnumber' _ _ hmem =>
      obtain rfl := file.eq_of_number_eq ha' ha (hnumber'.trans hnumber.symm)
      refine ⟨_, _, h, send b, List.mem_map_of_mem ((hmem b).mpr ⟨hb, hne, hlives⟩), ?_⟩
      rw [hsend, hother]
      rfl

/-- Of two voters, one of whom is in the household of the other, each is in the household of the
other exactly if they have the same residence. They have not where the one has a part that the
other lacks, or a street name that goes on. Both residences are assumed to have one upper case in
the database and in the program (`Voter.Raised`). -/
theorem lists_swap_iff {other : String} (hnumbered : file.Numbered) (hsend : SendsTexts send)
    (ha : a ∈ file.voters) (hb : b ∈ file.voters) (hnumber : a.text .registrationNumber = some number)
    (hother : b.text .registrationNumber = some other) (hraised : a.Raised file.world)
    (hraised' : b.Raised file.world) (h : Lists file send number other) :
    (Lists file send other number ↔ Voter.SharesResidence file.world a b) ∧
    (Voter.SharesResidence file.world a b ↔
      (∀ p, a.residence p = none → b.residence p = none) ∧
        Voter.SharesPart file.world a b .streetName) := by
  obtain ⟨⟨p, hp⟩, hne, hlives⟩ := (lists_iff hnumbered hsend ha hb hnumber hother).mp h
  obtain ⟨s, hs⟩ := Option.ne_none_iff_exists'.mp hp
  obtain ⟨t, ht, -⟩ := hlives.exists_residence hraised hraised' hs
  have hpart : ∃ p, b.residence p ≠ none := ⟨p, by simp [ht]⟩
  refine ⟨?_, hlives.sharesResidence_iff hraised hraised'⟩
  rw [lists_iff hnumbered hsend hb ha hother hnumber, ← hlives.swap_iff hraised hraised']
  exact ⟨fun hback => hback.2.2, fun hback => ⟨hpart, hne.symm, hback⟩⟩

theorem livesWith_resident {w : World} (hw : w.upper = Text.upper) {m n street street' : String} :
    (resident m street').LivesWith w (resident n street) ↔
      (Text.upper street).toList <+: (Text.upper street').toList := by
  constructor
  · intro h
    by_cases hne : street = ""
    · subst hne
      exact List.nil_prefix
    · obtain ⟨t, ht, hprefix⟩ := h .streetName street (Voter.residence_eq_some_iff.mpr ⟨rfl, hne⟩)
      obtain rfl : street' = t := Option.some.inj ht
      rwa [hw] at hprefix
  · intro h p t ht
    have htext := (Voter.residence_eq_some_iff.mp ht).1
    by_cases hp : p = .streetName
    · subst hp
      obtain rfl : street = t := Option.some.inj htext
      refine ⟨street', rfl, ?_⟩
      rwa [hw]
    · have htext' : (resident m street').text (.residence p) = some t := by
        rw [← htext]
        cases p
        case streetName => exact absurd rfl hp
        all_goals rfl
      refine Voter.residesAt_iff.mpr ⟨t, htext', ?_⟩
      rw [hw]
      exact .refl p _

theorem lists_resident {m n street street' : String} (hnumbered : file.Numbered)
    (hw : file.world.upper = Text.upper) (ha : resident m street ∈ file.voters)
    (hb : resident n street' ∈ file.voters) (hne : n ≠ m) :
    Lists file textRow m n ↔ (Text.upper street).toList <+: (Text.upper street').toList := by
  rw [lists_iff hnumbered sendsTexts_textRow ha hb rfl rfl, livesWith_resident hw]
  refine ⟨fun h => h.2.2, fun h => ⟨⟨.city, by simp [Voter.residence, resident, Option.filter]⟩, ?_, h⟩⟩
  intro he
  exact hne (Option.some.inj (congrArg (fun v => v.text .registrationNumber) he))

/-- Two residents of one street, which is spelled in two ways. -/
theorem lists_swap_spellings :
    (twoResidents "Oak" "OAK").Numbered ∧ SendsTexts textRow ∧
    Lists (twoResidents "Oak" "OAK") textRow "1" "2" ∧
    Lists (twoResidents "Oak" "OAK") textRow "2" "1" := by
  have hnumbered := numbered_twoResidents "Oak" "OAK"
  have ha : resident "1" "Oak" ∈ (twoResidents "Oak" "OAK").voters := List.mem_cons_self
  have hb : resident "2" "OAK" ∈ (twoResidents "Oak" "OAK").voters :=
    List.mem_cons_of_mem _ List.mem_cons_self
  have hlists : Lists (twoResidents "Oak" "OAK") textRow "1" "2" :=
    (lists_resident hnumbered rfl ha hb (by decide)).mpr (by decide)
  have hshares : Voter.SharesResidence (twoResidents "Oak" "OAK").world (resident "1" "Oak")
      (resident "2" "OAK") := sharesResidence_resident (by decide)
  exact ⟨hnumbered, sendsTexts_textRow, hlists,
    (lists_swap_iff hnumbered sendsTexts_textRow ha hb rfl rfl (fun _ _ _ => rfl)
      (fun _ _ _ => rfl) hlists).1.mpr hshares⟩

/-- A street whose name goes on is taken for the street of the voter, but not the other way round. -/
theorem not_lists_swap :
    (∀ p, (resident "1" "Oak").residence p ≠ none) ∧
    (∀ p, (resident "2" "Oakwood").residence p ≠ none) ∧
    Lists (twoResidents "Oak" "Oakwood") textRow "1" "2" ∧
    ¬Lists (twoResidents "Oak" "Oakwood") textRow "2" "1" := by
  have hnumbered := numbered_twoResidents "Oak" "Oakwood"
  have ha : resident "1" "Oak" ∈ (twoResidents "Oak" "Oakwood").voters := List.mem_cons_self
  have hb : resident "2" "Oakwood" ∈ (twoResidents "Oak" "Oakwood").voters :=
    List.mem_cons_of_mem _ List.mem_cons_self
  refine ⟨fun p => by cases p <;> decide, fun p => by cases p <;> decide, ?_, ?_⟩
  · exact (lists_resident hnumbered rfl ha hb (by decide)).mpr (by decide)
  · rw [lists_resident hnumbered rfl hb ha (by decide)]
    decide

end Roster

end Electorate
