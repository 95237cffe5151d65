import Electorate.Proofs.Extraction
import Electorate.Proofs.FilterMeaning
import Electorate.Roster.Summary
import Mathlib.Data.List.Chain

/-!
# Addresses on one line

The line of an address lists the parts that are there, each behind the text that leads in to it. The
street is led in to by nothing, so that a line which has no street begins with the lead-in of what
comes first.

* `AddressPart.leadIn`, `AddressLine.line`: the parts of a line with what leads in to each, every
  character with the mark whether it belongs to a part.
* `AddressLine.getLast?_line`, `isChain_line`, `head?_chars`: the end of a line, the blanks in it
  and its beginning.
* `VoterSummary.residenceAddress_eq`: the address is the line of the parts that are there.
* `VoterSummary.residenceAddress_onOneLine`: the line of an address ends with its last part, has no
  two blanks between its parts, and begins with a separator just when it lacks the street.
* `VoterSummary.not_begins_with_part`: a city alone is listed behind a comma.
-/

namespace Electorate

open Electorate.Roster
open Text (joinWith strip)

/-! ## Parts and what leads in to them -/

namespace AddressPart

/-- The parts of the street. -/
def streetParts : List AddressPart :=
  [streetNumber, preDirection, streetName, streetType, postDirection]

/-- What stands before a part. Nothing stands before the street where it comes first. -/
def leadIn (first : Bool) : AddressPart → String
  | aptUnitNumber => " APT "
  | city | zipcode => ", "
  | _ => if first then "" else " "

theorem leadIn_of_mem_streetParts {p : AddressPart} (h : p ∈ streetParts) (first : Bool) :
    p.leadIn first = if first then "" else " " := by
  cases p with
  | aptUnitNumber | city | zipcode => simp [streetParts] at h
  | _ => rfl

theorem leadIn_of_notMem_streetParts {p : AddressPart} (h : p ∉ streetParts) (first : Bool) :
    p.leadIn first = p.leadIn false ∧
      ∃ c ∈ (p.leadIn false).toList.head?, c = ' ' ∨ c = ',' := by
  cases p with
  | aptUnitNumber | city | zipcode => simp [leadIn]
  | _ => simp [streetParts] at h

end AddressPart

/-! ## Lines -/

namespace AddressLine

variable {l : List (AddressPart × String)}

/-- A text, each character with a mark. -/
def marked (inPart : Bool) (s : String) : List (Char × Bool) := s.toList.map (·, inPart)

/-- The line of parts with their texts. The characters of the texts are marked. -/
def line (first : Bool) : List (AddressPart × String) → List (Char × Bool)
  | [] => []
  | (p, s) :: rest => marked false (p.leadIn first) ++ marked true s ++ line false rest

/-- The characters of a line. -/
def chars (first : Bool) (l : List (AddressPart × String)) : List Char :=
  (line first l).map Prod.fst

@[simp]
theorem map_fst_marked (inPart : Bool) (s : String) :
    (marked inPart s).map Prod.fst = s.toList := by
  simp [marked, Function.comp_def]

@[simp]
theorem chars_nil (first : Bool) : chars first [] = [] := rfl

@[simp]
theorem chars_cons (first : Bool) (p : AddressPart) (s : String)
    (rest : List (AddressPart × String)) :
    chars first ((p, s) :: rest) = (p.leadIn first).toList ++ s.toList ++ chars false rest := by
  simp [chars, line]

theorem chars_eq_nil_iff (h : ∀ x ∈ l, x.2 ≠ "") (first : Bool) :
    chars first l = [] ↔ l = [] := by
  cases l with
  | nil => simp
  | cons x rest =>
    obtain ⟨p, s⟩ := x
    simp [h (p, s) List.mem_cons_self]

theorem chars_append (first : Bool) (l l' : List (AddressPart × String)) :
    chars first (l ++ l') = chars first l ++ chars (first && l.isEmpty) l' := by
  induction l generalizing first with
  | nil => simp
  | cons x l ih =>
    obtain ⟨p, s⟩ := x
    simp [ih]

/-- What leads in to other parts than those of the street is the same in every place. -/
theorem chars_of_notMem_streetParts (h : ∀ x ∈ l, x.1 ∉ AddressPart.streetParts)
    (first : Bool) : chars first l = chars false l := by
  cases l with
  | nil => rfl
  | cons x rest =>
    obtain ⟨p, s⟩ := x
    rw [chars_cons, chars_cons,
      (AddressPart.leadIn_of_notMem_streetParts (h (p, s) List.mem_cons_self) first).1]

/-- Texts with one separator between them are a line in which it leads in to all but the first. -/
theorem toList_joinWith_cons {sep : String} {rest : List (AddressPart × String)}
    (hsep : ∀ x ∈ rest, x.1.leadIn false = sep) (s : String) :
    (joinWith sep (s :: rest.map Prod.snd)).toList = s.toList ++ chars false rest := by
  induction rest generalizing s with
  | nil => simp [joinWith]
  | cons x rest ih =>
    obtain ⟨p, t⟩ := x
    obtain ⟨hp, hrest⟩ := List.forall_mem_cons.mp hsep
    have htail := ih hrest t
    simp only [List.map_cons, joinWith, String.toList_append, chars_cons, hp, List.append_assoc]
      at htail ⊢
    rw [htail]

/-! ## Ends and blanks of a line -/

/-- The characters that stand at the ends of what leads in to a part. -/
def IsSeparator (c : Char) : Prop := c = ' ' ∨ c = ','

/-- A text that has neither blanks nor commas at its ends. -/
def Trimmed (s : String) : Prop :=
  strip s = s ∧ s.toList.head? ≠ some ',' ∧ s.toList.getLast? ≠ some ','

instance : DecidablePred Trimmed := fun _ => inferInstanceAs (Decidable (_ ∧ _))

/-- Of two neighbours in a line, both are blanks only inside a part. -/
def Spaced (a b : Char × Bool) : Prop := a.1 = ' ' → b.1 = ' ' → a.2 = true ∧ b.2 = true

theorem Trimmed.not_isSeparator_head {s : String} (h : Trimmed s) :
    ∀ c ∈ s.toList.head?, ¬IsSeparator c := by
  rintro c hc (rfl | rfl)
  · exact absurd ((Text.strip_eq_self_iff.mp h.1).1 ' ' hc) (by decide)
  · exact h.2.1 hc

theorem Trimmed.not_isSeparator_getLast {s : String} (h : Trimmed s) :
    ∀ c ∈ s.toList.getLast?, ¬IsSeparator c := by
  rintro c hc (rfl | rfl)
  · exact absurd ((Text.strip_eq_self_iff.mp h.1).2 ' ' hc) (by decide)
  · exact h.2.2 hc

/-- A line ends as its last part does. -/
theorem getLast?_line (h : ∀ x ∈ l, x.2 ≠ "" ∧ Trimmed x.2) (first : Bool) :
    ∀ c ∈ (line first l).getLast?, ¬IsSeparator c.1 := by
  induction l generalizing first with
  | nil => simp [line]
  | cons x rest ih =>
    obtain ⟨p, s⟩ := x
    obtain ⟨⟨hne, hs⟩, hrest⟩ := List.forall_mem_cons.mp h
    intro c hc
    rw [line, List.getLast?_append, Option.mem_def, Option.or_eq_some_iff] at hc
    rcases hc with hc | ⟨-, hc⟩
    · exact ih hrest false c hc
    · have hchars : marked true s ≠ [] := by simpa [marked] using hne
      rw [List.getLast?_append_of_ne_nil _ hchars, marked, List.getLast?_map,
        Option.map_eq_some_iff] at hc
      obtain ⟨c, hc, rfl⟩ := hc
      exact hs.not_isSeparator_getLast c hc

theorem isChain_marked_true (s : String) : (marked true s).IsChain Spaced := by
  rw [marked, List.isChain_map]
  exact (List.pairwise_of_forall fun _ _ _ _ => ⟨rfl, rfl⟩).isChain

theorem isChain_leadIn (p : AddressPart) (first : Bool) :
    (marked false (p.leadIn first)).IsChain Spaced := by
  cases p <;> cases first <;> simp [marked, AddressPart.leadIn, Spaced]

/-- The blanks of a line stand alone, but for those inside a part. -/
theorem isChain_line (h : ∀ x ∈ l, x.2 ≠ "" ∧ Trimmed x.2) (first : Bool) :
    (line first l).IsChain Spaced := by
  induction l generalizing first with
  | nil => simp [line]
  | cons x rest ih =>
    obtain ⟨p, s⟩ := x
    obtain ⟨⟨hne, hs⟩, hrest⟩ := List.forall_mem_cons.mp h
    have hlast := getLast?_line (List.forall_mem_singleton.mpr ⟨hne, hs⟩) first
    rw [line, line, List.append_nil] at hlast
    rw [line, List.isChain_append, List.isChain_append]
    refine ⟨⟨isChain_leadIn p first, isChain_marked_true s, ?_⟩, ih hrest false, ?_⟩
    · -- A part does not begin with a blank.
      intro a _ b hb _ hblank
      rw [marked, List.head?_map, Option.mem_map] at hb
      obtain ⟨c, hc, rfl⟩ := hb
      exact absurd (.inl hblank) (hs.not_isSeparator_head c hc)
    · -- Nor does it end with one.
      intro a ha b _ hblank _
      exact absurd (.inl hblank) (hlast a ha)

/-- A line begins with a separator when its first part is none of the street's. -/
theorem head?_chars (h : ∀ x ∈ l, x.2 ≠ "" ∧ Trimmed x.2) :
    (∃ c ∈ (chars true l).head?, IsSeparator c) ↔
      ∃ x ∈ l.head?, x.1 ∉ AddressPart.streetParts := by
  cases l with
  | nil => simp
  | cons x rest =>
    obtain ⟨p, s⟩ := x
    obtain ⟨hne, hs⟩ := h (p, s) List.mem_cons_self
    simp only [List.head?_cons, Option.mem_some_iff, exists_eq_left']
    by_cases hp : p ∈ AddressPart.streetParts
    · have hchars : s.toList ≠ [] := by simpa using hne
      have hhead : (chars true ((p, s) :: rest)).head? = s.toList.head? := by
        rw [chars_cons, AddressPart.leadIn_of_mem_streetParts hp, if_pos rfl]
        simp [List.head?_append_of_ne_nil _ hchars]
      rw [hhead]
      simpa [hp] using hs.not_isSeparator_head
    · obtain ⟨hlead, c, hc, hsep⟩ := AddressPart.leadIn_of_notMem_streetParts hp true
      refine iff_of_true ⟨c, ?_, hsep⟩ hp
      rw [chars_cons, hlead, List.append_assoc, List.head?_append, Option.mem_def.mp hc]
      rfl

end AddressLine

namespace Roster.VoterSummary

open AddressLine

/-! ## The parts that are there -/

variable {v : VoterSummary}

/-- The parts that are there and not empty, with their texts. -/
def listedOf (v : VoterSummary) (parts : List AddressPart) : List (AddressPart × String) :=
  parts.filterMap fun p => ((v.residence p).filter (· != "")).map (p, ·)

theorem mem_listedOf {parts : List AddressPart} {p : AddressPart} {s : String} :
    (p, s) ∈ v.listedOf parts ↔ p ∈ parts ∧ v.residence p = some s ∧ s ≠ "" := by
  have hone (q : AddressPart) (t : String) :
      (v.residence q).filter (· != "") = some t ↔ v.residence q = some t ∧ t ≠ "" := by
    rw [Option.filter_eq_some_iff, bne_iff_ne]
  simp only [listedOf, List.mem_filterMap, Option.map_eq_some_iff, hone, Prod.mk.injEq]
  constructor
  · rintro ⟨q, hq, t, ⟨ht, hne⟩, rfl, rfl⟩
    exact ⟨hq, ht, hne⟩
  · rintro ⟨hp, hs, hne⟩
    exact ⟨p, hp, s, ⟨hs, hne⟩, rfl, rfl⟩

/-- What holds of the parts asked for holds of the parts listed. -/
theorem forall_listedOf {parts : List AddressPart} (P : AddressPart → Prop)
    (h : ∀ p ∈ parts, P p) : ∀ x ∈ v.listedOf parts, P x.1 :=
  fun _ hx => h _ (mem_listedOf.mp hx).1

theorem listedOf_append (parts parts' : List AddressPart) :
    v.listedOf (parts ++ parts') = v.listedOf parts ++ v.listedOf parts' :=
  List.filterMap_append

theorem presentParts_eq (parts : List AddressPart) :
    v.presentParts parts = (v.listedOf parts).map Prod.snd := by
  rw [presentParts, listedOf, List.filter_filterMap, List.map_filterMap]
  congr 1
  funext p
  cases v.residence p with
  | none => rfl
  | some s => by_cases hs : s = "" <;> simp [hs]

/-- The parts of the street, with blanks between them. -/
theorem toList_street :
    (joinWith " " (v.presentParts AddressPart.streetParts)).toList =
      chars true (v.listedOf AddressPart.streetParts) := by
  have hstreet : ∀ x ∈ v.listedOf AddressPart.streetParts, x.1 ∈ AddressPart.streetParts :=
    forall_listedOf (· ∈ AddressPart.streetParts) fun _ hp => hp
  rw [presentParts_eq]
  generalize v.listedOf AddressPart.streetParts = l at hstreet ⊢
  cases l with
  | nil => rfl
  | cons x rest =>
    obtain ⟨p, s⟩ := x
    obtain ⟨hp, hrest⟩ := List.forall_mem_cons.mp hstreet
    have hsep : ∀ x ∈ rest, x.1.leadIn false = " " := fun x hx =>
      AddressPart.leadIn_of_mem_streetParts (hrest x hx) false
    rw [List.map_cons, toList_joinWith_cons hsep, chars_cons,
      AddressPart.leadIn_of_mem_streetParts hp, if_pos rfl]
    simp

/-- The unit, behind its word. -/
theorem toList_withUnit (street : String) :
    (match v.presentParts [.aptUnitNumber] with
      | unit :: _ => street ++ " APT " ++ unit
      | [] => street).toList =
    street.toList ++ chars false (v.listedOf [.aptUnitNumber]) := by
  rw [presentParts_eq]
  simp only [listedOf, List.filterMap_cons, List.filterMap_nil]
  cases (v.residence .aptUnitNumber).filter (· != "") with
  | none => simp
  | some unit => simp [AddressPart.leadIn]

/-- The city and the zip code, each behind a comma. -/
theorem toList_withPlace (front : String) :
    (match v.presentParts [.city, .zipcode] with
      | [] => front
      | place => front ++ ", " ++ joinWith ", " place).toList =
    front.toList ++ chars false (v.listedOf [.city, .zipcode]) := by
  have hplace : ∀ x ∈ v.listedOf [.city, .zipcode], x.1.leadIn false = ", " :=
    forall_listedOf (AddressPart.leadIn false · = ", ") (by decide)
  rw [presentParts_eq]
  generalize v.listedOf [.city, .zipcode] = l at hplace ⊢
  cases l with
  | nil => simp
  | cons x rest =>
    obtain ⟨p, s⟩ := x
    obtain ⟨hp, hrest⟩ := List.forall_mem_cons.mp hplace
    simp only [List.map_cons, String.toList_append, toList_joinWith_cons hrest, chars_cons, hp,
      List.append_assoc]

/-- The address is the line of the parts that are there. -/
theorem residenceAddress_eq (v : VoterSummary) :
    v.residenceAddress.toList = chars true (v.listedOf AddressPart.all) := by
  have hunit : ∀ x ∈ v.listedOf [.aptUnitNumber], x.1 ∉ AddressPart.streetParts :=
    forall_listedOf (· ∉ AddressPart.streetParts) (by decide)
  have hplace : ∀ x ∈ v.listedOf [.city, .zipcode], x.1 ∉ AddressPart.streetParts :=
    forall_listedOf (· ∉ AddressPart.streetParts) (by decide)
  have hparts : AddressPart.all =
      AddressPart.streetParts ++ [.aptUnitNumber] ++ [.city, .zipcode] := rfl
  rw [hparts, listedOf_append, listedOf_append, chars_append, chars_append,
    chars_of_notMem_streetParts hunit, chars_of_notMem_streetParts hplace, ← toList_street,
    ← toList_withUnit, ← toList_withPlace]
  rfl

/-! ## The address -/

/-- A part that is there and not empty. -/
def HasPart (v : VoterSummary) (p : AddressPart) : Prop := ∃ s, v.residence p = some s ∧ s ≠ ""

/-- Some parts are there, and none of them is of the street. -/
def LacksStreet (v : VoterSummary) : Prop :=
  (∃ p, v.HasPart p) ∧ ∀ p ∈ AddressPart.streetParts, ¬v.HasPart p

/-- An address as one line. -/
structure OnOneLine (v : VoterSummary) : Prop where
  /-- The parts are listed in their order, each behind what leads in to it. -/
  lists : v.residenceAddress.toList = (line true (v.listedOf AddressPart.all)).map Prod.fst
  eq_empty_iff : v.residenceAddress = "" ↔ ∀ p, ¬v.HasPart p
  /-- Only where the street is lacking, a separator stands in front. -/
  begins_iff : (∃ c ∈ v.residenceAddress.toList.head?, IsSeparator c) ↔ v.LacksStreet
  ends : ∀ c ∈ v.residenceAddress.toList.getLast?, ¬IsSeparator c
  spaced : (line true (v.listedOf AddressPart.all)).IsChain Spaced

theorem hasPart_of_mem {parts : List AddressPart} {x : AddressPart × String}
    (hx : x ∈ v.listedOf parts) : v.HasPart x.1 :=
  ⟨x.2, (mem_listedOf.mp hx).2⟩

/-- Nothing is listed of parts that are not there. -/
theorem listedOf_eq_nil_iff {parts : List AddressPart} :
    v.listedOf parts = [] ↔ ∀ p ∈ parts, ¬v.HasPart p := by
  simp only [List.eq_nil_iff_forall_not_mem, Prod.forall, mem_listedOf, HasPart]
  grind

/-- The first part listed is none of the street's when the street is lacking. -/
theorem lacksStreet_iff :
    v.LacksStreet ↔ ∃ x ∈ (v.listedOf AddressPart.all).head?, x.1 ∉ AddressPart.streetParts := by
  have hparts : AddressPart.all = AddressPart.streetParts ++ [.aptUnitNumber, .city, .zipcode] :=
    rfl
  rw [LacksStreet, ← listedOf_eq_nil_iff]
  -- The parts of the street come first, so that one of them is the first part if any is there.
  cases hstreet : v.listedOf AddressPart.streetParts with
  | cons x rest =>
    have hx : x ∈ v.listedOf AddressPart.streetParts := hstreet ▸ List.mem_cons_self
    rw [hparts, listedOf_append, hstreet]
    simpa using (mem_listedOf.mp hx).1
  | nil =>
    cases hothers : v.listedOf [.aptUnitNumber, .city, .zipcode] with
    | nil =>
      have hall : v.listedOf AddressPart.all = [] := by
        rw [hparts, listedOf_append, hstreet, hothers]; rfl
      have hnone : ∀ p, ¬v.HasPart p := fun p =>
        listedOf_eq_nil_iff.mp hall p (AddressPart.mem_all p)
      simp [hall, hnone]
    | cons x rest =>
      have hx : x ∈ v.listedOf [.aptUnitNumber, .city, .zipcode] := hothers ▸ List.mem_cons_self
      have hp := forall_listedOf (· ∉ AddressPart.streetParts) (by decide) x hx
      rw [hparts, listedOf_append, hstreet, hothers]
      simpa [hp] using ⟨x.1, hasPart_of_mem hx⟩

/-- A voter of whom only the given parts of an address are known. -/
def residing (parts : List (AddressPart × String)) : VoterSummary where
  id := "12345678-1234-5678-1234-567812345678"
  registrationNumber := "1"
  countyName := "FULTON"
  status := "A"
  lastName := "S"
  firstName := "J"
  middleName := none
  birthYear := none
  gender := none
  race := none
  residence p := (parts.find? (·.1 = p)).map Prod.snd
  score := none
  lastVoteDate := none

/-- The parts of an address with a street. -/
def oak : List (AddressPart × String) :=
  [(.streetNumber, "12"), (.streetName, "OAK"), (.aptUnitNumber, "B"), (.city, "ATLANTA")]

theorem trimmed_residing {parts : List (AddressPart × String)} (h : ∀ x ∈ parts, Trimmed x.2)
    (p : AddressPart) : ∀ s ∈ (residing parts).residence p, Trimmed s := by
  intro s hs
  simp only [residing, Option.mem_map] at hs
  obtain ⟨x, hx, rfl⟩ := hs
  exact h x (List.mem_of_find?_eq_some hx)

/-- The address lists the parts that are there, is empty when there are none, does not end with a
separator and has no two blanks between its parts. It begins with a separator just when it lacks
the street. -/
theorem residenceAddress_onOneLine (v : VoterSummary)
    (h : ∀ p, ∀ s ∈ v.residence p, Trimmed s) : v.OnOneLine := by
  have hlisted : ∀ x ∈ v.listedOf AddressPart.all, x.2 ≠ "" ∧ Trimmed x.2 := fun x hx =>
    have ⟨_, hs, hne⟩ := mem_listedOf.mp hx
    ⟨hne, h x.1 x.2 hs⟩
  exact {
    lists := residenceAddress_eq v
    eq_empty_iff := by
      rw [← String.toList_eq_nil_iff, residenceAddress_eq,
        chars_eq_nil_iff fun x hx => (hlisted x hx).1, listedOf_eq_nil_iff]
      exact ⟨fun hno p => hno p (AddressPart.mem_all p), fun hno p _ => hno p⟩
    begins_iff := by
      rw [residenceAddress_eq, head?_chars hlisted, lacksStreet_iff]
    ends := by
      intro c hc
      rw [residenceAddress_eq, chars, List.getLast?_map, Option.mem_map] at hc
      obtain ⟨c, hc, rfl⟩ := hc
      exact getLast?_line hlisted true c hc
    spaced := isChain_line hlisted true }

theorem residenceAddress_onOneLine_oak :
    (∀ p, ∀ s ∈ (residing oak).residence p, Trimmed s) ∧ (residing oak).OnOneLine ∧
      (residing oak).residenceAddress = "12 OAK APT B, ATLANTA" := by
  have h : ∀ p, ∀ s ∈ (residing oak).residence p, Trimmed s :=
    trimmed_residing (by decide +kernel)
  exact ⟨h, residenceAddress_onOneLine _ h, by decide +kernel⟩

/-- A line need not begin with a part: a city alone stands behind a comma. -/
theorem not_begins_with_part :
    ¬∀ v : VoterSummary, (∀ p, ∀ s ∈ v.residence p, Trimmed s) →
      ∀ c ∈ v.residenceAddress.toList.head?, ¬IsSeparator c := by
  intro h
  have hcity := h (residing [(.city, "ATLANTA")]) (trimmed_residing (by decide +kernel))
  exact hcity ',' (by decide +kernel) (.inr rfl)

example : (residing [(.aptUnitNumber, "2B")]).residenceAddress = " APT 2B" := by decide +kernel

end Roster.VoterSummary

end Electorate
