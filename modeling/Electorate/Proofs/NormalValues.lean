import Electorate.Proofs.UpperCase

/-!
# Values in normal form

A filter keeps a value in one form, which is told by the value and by what its name stands for. Most
values are kept without the blanks around them; an address is written anew, a registration number is
checked, and what the voter file has in upper case may be raised to it.

* `ResidentAddress.strip_toParam`, `ResidentAddress.ofParam?_of_blank`: how addresses are written, and
  that blanks are none.
* `IsRegistrationNumber`, `numberOf?`: what counts as a registration number, and the one that a
  parameter asks for.
* `keepsUpper`, `respelled`: names whose values are in upper case, and a value once case is raised.
* `Normalizes`: the form in which a value is kept under a name, or that it is dropped.
* `normalizeValue_eq_ok_iff`, `normalizeValue_eq_error_iff`: a value is brought into that form, unless
  it asks for a registration number that is none.
* `normalizeValue_normal`: a value in normal form is not empty and has no blanks at its ends.
-/

namespace Electorate

/-! ## Texts and addresses -/

namespace Text

/-- Nothing is dropped of a text with no blanks at its ends. -/
theorem trimBlanks_eq_self_iff {cs : List Char} : trimBlanks cs = cs ↔
    (∀ c ∈ cs.head?, isBlank c = false) ∧ ∀ c ∈ cs.getLast?, isBlank c = false := by
  have hfront : cs.dropWhile isBlank = cs ↔ ∀ c ∈ cs.head?, isBlank c = false := by
    cases cs with
    | nil => simp
    | cons c cs => simp [List.dropWhile_eq_self_iff]
  have hback : cs.rdropWhile isBlank = cs ↔ ∀ c ∈ cs.getLast?, isBlank c = false := by
    rw [List.rdropWhile_eq_self_iff]
    cases cs using List.reverseRecOn with
    | nil => simp
    | append_singleton cs c => simp
  rw [trimBlanks_eq, ← hfront, ← hback]
  constructor
  · intro h
    -- Neither end can be shorter, since the whole is not.
    have hle := (List.rdropWhile_prefix isBlank (cs.dropWhile isBlank)).length_le
    rw [h] at hle
    have hsuffix := List.dropWhile_suffix isBlank (l := cs)
    have hcs : cs.dropWhile isBlank = cs := hsuffix.eq_of_length_le hle
    rw [hcs] at h
    exact ⟨hcs, h⟩
  · rintro ⟨hcs, h⟩
    rw [hcs, h]

theorem strip_eq_self_iff {s : String} : strip s = s ↔
    (∀ c ∈ s.toList.head?, isBlank c = false) ∧ ∀ c ∈ s.toList.getLast?, isBlank c = false := by
  rw [← trimBlanks_eq_self_iff, strip]
  constructor
  · intro h
    simpa using congrArg String.toList h
  · intro h
    rw [h, String.ofList_toList]

/-- A text of blanks has no other characters. -/
theorem isBlank_of_strip_eq_empty {s : String} (h : strip s = "") {c : Char}
    (hc : c ∈ s.toList) : isBlank c = true := by
  have htrim : (s.toList.dropWhile isBlank).rdropWhile isBlank = [] :=
    String.ofList_eq_empty_iff.mp h
  have hdrop : s.toList.dropWhile isBlank = [] := by
    by_contra hne
    have hfirst := List.head_dropWhile_not isBlank hne
    rw [List.rdropWhile_eq_nil_iff.mp htrim _ (List.head_mem hne)] at hfirst
    exact absurd hfirst (by decide)
  exact List.dropWhile_eq_nil_iff.mp hdrop c hc

/-- Texts with no blanks at their ends are joined to one by a separator that is not blank. -/
theorem strip_joinWith (sep : Char) (hsep : isBlank sep = false) {l : List String}
    (h : ∀ s ∈ l, strip s = s) :
    strip (joinWith (String.singleton sep) l) = joinWith (String.singleton sep) l := by
  match l with
  | [] => rfl
  | [s] => exact h s (by simp)
  | s :: t :: rest =>
    have htail := strip_joinWith sep hsep (l := t :: rest) fun u hu => h u (List.mem_cons_of_mem s hu)
    have hs := h s (by simp)
    rw [strip_eq_self_iff] at hs htail ⊢
    simp only [joinWith, String.toList_append, String.toList_singleton, List.append_assoc,
      List.singleton_append]
    constructor
    · intro c hc
      rw [List.head?_append, Option.mem_def, Option.or_eq_some_iff] at hc
      rcases hc with hc | ⟨-, hc⟩
      · exact hs.1 c hc
      · obtain rfl : sep = c := by simpa using hc
        exact hsep
    · intro c hc
      rw [List.getLast?_append_cons, List.getLast?_cons, Option.mem_def, Option.some.injEq] at hc
      cases hlast : (joinWith (String.singleton sep) (t :: rest)).toList.getLast? with
      | none =>
        rw [hlast, Option.getD_none] at hc
        exact hc ▸ hsep
      | some d =>
        rw [hlast, Option.getD_some] at hc
        exact hc ▸ htail.2 d hlast

/-- What is not empty has an upper case that is not. -/
theorem upper_ne_empty {s : String} (h : s ≠ "") : upper s ≠ "" := by
  obtain ⟨c, cs, hcs⟩ : ∃ c cs, s.toList = c :: cs :=
    List.exists_cons_of_ne_nil (by simpa using h)
  have hc : upperChar c ≠ [] := by
    rcases upperChar_cases c with he | ⟨hne, -⟩
    · simp [he]
    · exact hne
  simp [upper, hcs, upperChars_cons, hc]

end Text

namespace ResidentAddress

/-- The parts of an address that is read have no blanks at their ends. -/
theorem strip_part {s : String} {a : ResidentAddress} (h : ofParam? s = some a) (p : AddressPart) :
    Text.strip (a.part p) = a.part p := by
  have hstrip : ∀ x ∈ (Text.splitOn ',' s).map Text.strip, Text.strip x = x := by
    intro x hx
    obtain ⟨y, -, rfl⟩ := List.mem_map.mp hx
    exact Text.strip_strip y
  unfold ofParam? at h
  split at h
  · rename_i heq
    rw [heq] at hstrip
    obtain rfl := Option.some.inj h
    cases p <;> exact hstrip _ (by simp [part])
  · cases h

/-- An address that is read is written without blanks at its ends. -/
theorem strip_toParam {s : String} {a : ResidentAddress} (h : ofParam? s = some a) :
    Text.strip a.toParam = a.toParam := by
  refine Text.strip_joinWith ',' (by decide) fun x hx => ?_
  obtain ⟨p, -, rfl⟩ := List.mem_map.mp hx
  exact strip_part h p

/-- An address is written with commas, so that there is always something. -/
theorem toParam_ne_empty (a : ResidentAddress) : a.toParam ≠ "" := by
  have hcomma : (',' : Char) ∈ a.toParam.toList := by
    simp [toParam, AddressPart.all, Text.joinWith]
  intro h
  rw [h] at hcomma
  simp at hcomma

/-- A text of blanks is no address. -/
theorem ofParam?_of_blank {s : String} (h : Text.strip s = "") : ofParam? s = none := by
  have hcomma : ',' ∉ s.toList := fun hmem =>
    absurd (Text.isBlank_of_strip_eq_empty h hmem) (by decide)
  have hpieces : Text.splitOn ',' s = [s] := by
    rw [Text.splitOn, Text.splitChars_of_not_mem hcomma, List.map_singleton, String.ofList_toList]
  unfold ofParam?
  rw [hpieces]
  rfl

end ResidentAddress

/-! ## Registration numbers -/

/-- One of the letters and digits of ASCII. -/
def IsLetterOrDigit (c : Char) : Prop :=
  ('0' ≤ c ∧ c ≤ '9') ∨ ('A' ≤ c ∧ c ≤ 'Z') ∨ ('a' ≤ c ∧ c ≤ 'z')

/-- One to twenty letters and digits of ASCII. -/
def IsRegistrationNumber (id : String) : Prop :=
  1 ≤ id.length ∧ id.length ≤ 20 ∧ ∀ c ∈ id.toList, IsLetterOrDigit c

theorem IsRegistrationNumber.ne_empty {id : String} (h : IsRegistrationNumber id) : id ≠ "" := by
  rintro rfl
  exact absurd h.1 (by decide)

/-- The registration number of a parameter that has one: its value without the blanks around it,
if that is not empty. -/
def numberOf? (param : String × String) : Option String :=
  if param.1 = Dimension.exactId.name ∧ Text.strip param.2 ≠ "" then some (Text.strip param.2)
  else none

theorem numberOf?_eq_some_iff {name value id : String} : numberOf? (name, value) = some id ↔
    name = Dimension.exactId.name ∧ Text.strip value ≠ "" ∧ Text.strip value = id := by
  unfold numberOf?
  split
  · rename_i h
    rw [Option.some.injEq]
    exact ⟨fun hid => ⟨h.1, h.2, hid⟩, fun hid => hid.2.2⟩
  · rename_i h
    constructor
    · nofun
    · rintro ⟨hname, hne, -⟩
      exact absurd ⟨hname, hne⟩ h

theorem isAsciiAlphanumeric_iff (c : Char) : isAsciiAlphanumeric c = true ↔ IsLetterOrDigit c := by
  have hbetween (a b : Char) : (decide (a ≤ c) && decide (c ≤ b)) = true ↔ a ≤ c ∧ c ≤ b := by simp
  have hupper : c.isUpper = true ↔ 'A' ≤ c ∧ c ≤ 'Z' := decide_eq_true_iff
  have hlower : c.isLower = true ↔ 'a' ≤ c ∧ c ≤ 'z' := hbetween 'a' 'z'
  have hdigit : c.isDigit = true ↔ '0' ≤ c ∧ c ≤ '9' := hbetween '0' '9'
  show (c.isUpper || c.isLower || c.isDigit) = true ↔ _
  rw [Bool.or_eq_true, Bool.or_eq_true, hupper, hlower, hdigit]
  exact or_comm

/-- A number is accepted without the blanks around it, and nothing else is. -/
theorem registrationNumber_eq_ok_iff {value id : String} :
    registrationNumber value = .ok id ↔ Text.strip value = id ∧ IsRegistrationNumber id := by
  have hproper : IsRegistrationNumber (Text.strip value) ↔
      1 ≤ (Text.strip value).length ∧ (Text.strip value).length ≤ 20 ∧
        (Text.strip value).toList.all isAsciiAlphanumeric := by
    simp only [IsRegistrationNumber, List.all_eq_true, isAsciiAlphanumeric_iff]
  simp only [registrationNumber]
  split
  · next h =>
    rw [Except.ok.injEq]
    constructor
    · rintro rfl
      exact ⟨rfl, hproper.mpr h⟩
    · exact And.left
  · next h =>
    constructor
    · nofun
    · rintro ⟨rfl, hid⟩
      exact absurd (hproper.mp hid) h

/-- What is no number is refused as it stands. -/
theorem registrationNumber_of_not {value : String}
    (h : ¬IsRegistrationNumber (Text.strip value)) :
    registrationNumber value = .error (.badRegistrationNumber value) := by
  cases hid : registrationNumber value with
  | ok id =>
    obtain ⟨rfl, hproper⟩ := registrationNumber_eq_ok_iff.mp hid
    exact absurd hproper h
  | error e =>
    unfold registrationNumber at hid
    simp only at hid
    split at hid
    · cases hid
    · exact hid.symm

/-! ## Letter case -/

/-- Whether the voter file keeps the values of a name in upper case. -/
def keepsUpper (name : String) : Bool := (Dimension.ofName? name).any Dimension.foldsCase

/-- A value under a name, once case is raised. -/
def respelled (name value : String) : String :=
  if keepsUpper name then Text.upper value else value

theorem respelled_of_keepsUpper {name : String} (h : keepsUpper name = true) :
    respelled name = Text.upper := by
  funext value
  rw [respelled, if_pos h]

theorem respelled_of_not_keepsUpper {name : String} (h : keepsUpper name = false) :
    respelled name = id := by
  funext value
  rw [respelled, if_neg (by simp [h])]
  rfl

theorem keepsUpper_name (d : Dimension) : keepsUpper d.name = d.foldsCase := by
  rw [keepsUpper, Dimension.ofName?_name]
  rfl

theorem respelled_respelled (name value : String) :
    respelled name (respelled name value) = respelled name value := by
  unfold respelled
  split
  · exact Text.upper_upper value
  · rfl

/-! ## One value -/

/-- The form in which a value is kept under a name, or `none` where it is dropped. -/
inductive Normalizes (raiseCase : Bool) (name value : String) : Option String → Prop
  /-- Nothing is left of a blank value. -/
  | blank (hblank : Text.strip value = "") : Normalizes raiseCase name value none
  /-- An address is written anew from the parts that are read. -/
  | address {a : ResidentAddress} (hname : name = Dimension.residentAddress.name)
      (hread : ResidentAddress.ofParam? value = some a) (hpart : ¬a.isEmpty = true) :
      Normalizes raiseCase name value (some a.toParam)
  /-- What is no address is dropped, and so is an address that has no part. -/
  | noAddress (hname : name = Dimension.residentAddress.name)
      (hread : ∀ a, ResidentAddress.ofParam? value = some a → a.isEmpty = true) :
      Normalizes raiseCase name value none
  | number (hname : name = Dimension.exactId.name)
      (hproper : IsRegistrationNumber (Text.strip value)) :
      Normalizes raiseCase name value (some (Text.strip value))
  /-- Any other value is kept, in upper case if that is asked for and the file has it so. -/
  | text (haddress : name ≠ Dimension.residentAddress.name) (hid : name ≠ Dimension.exactId.name)
      (hne : Text.strip value ≠ "") :
      Normalizes raiseCase name value
        (some (if raiseCase then respelled name (Text.strip value) else Text.strip value))

variable {name value : String} {raiseCase : Bool} {v : Option String}

/-- An address is kept as it is written, unless it has no part. -/
theorem normalizeValue_residentAddress (value : String) (raiseCase : Bool) :
    normalizeValue Dimension.residentAddress.name value raiseCase =
      .ok ((ResidentAddress.ofParam? value).bind fun address =>
        if address.isEmpty then none else some address.toParam) := by
  unfold normalizeValue
  simp only [String.isEmpty_iff, Dimension.ofName?_name]
  split
  · rename_i hblank
    rw [ResidentAddress.ofParam?_of_blank hblank]
    rfl
  · rfl

/-- A registration number is checked, unless it is blank. -/
theorem normalizeValue_exactId (value : String) (raiseCase : Bool) :
    normalizeValue Dimension.exactId.name value raiseCase =
      if Text.strip value = "" then .ok none
      else (registrationNumber (Text.strip value)).map some := by
  unfold normalizeValue
  simp only [String.isEmpty_iff, Dimension.ofName?_name]

/-- Any other value is kept without the blanks around it, unless it is blank. -/
theorem normalizeValue_text (haddress : name ≠ Dimension.residentAddress.name)
    (hid : name ≠ Dimension.exactId.name) (value : String) (raiseCase : Bool) :
    normalizeValue name value raiseCase =
      .ok (if Text.strip value = "" then none
        else some (if raiseCase then respelled name (Text.strip value) else Text.strip value)) := by
  unfold normalizeValue
  simp only [String.isEmpty_iff]
  split
  · rfl
  · split
    · rename_i hd
      exact absurd (Dimension.ofName?_eq_some_iff.mp hd).symm haddress
    · rename_i hd
      exact absurd (Dimension.ofName?_eq_some_iff.mp hd).symm hid
    · rename_i d _ _ hd
      obtain rfl := Dimension.ofName?_eq_some_iff.mp hd
      rw [respelled, keepsUpper_name]
      cases d.foldsCase <;> simp
    · rename_i hnone
      have hkeeps : keepsUpper name = false := by rw [keepsUpper, hnone]; rfl
      rw [respelled_of_not_keepsUpper hkeeps, id_eq, ite_self]

theorem normalizes_residentAddress
    (h : normalizeValue Dimension.residentAddress.name value raiseCase = .ok v) :
    Normalizes raiseCase Dimension.residentAddress.name value v := by
  rw [normalizeValue_residentAddress, Except.ok.injEq] at h
  subst h
  cases hread : ResidentAddress.ofParam? value with
  | none => exact .noAddress rfl (by simp [hread])
  | some a =>
    rw [Option.bind_some]
    split
    · rename_i hempty
      have hnone : ∀ b, ResidentAddress.ofParam? value = some b → b.isEmpty = true := by
        intro b hb
        obtain rfl := Option.some.inj (hread.symm.trans hb)
        exact hempty
      exact .noAddress rfl hnone
    · rename_i hpart
      exact .address rfl hread hpart

theorem normalizes_exactId (h : normalizeValue Dimension.exactId.name value raiseCase = .ok v) :
    Normalizes raiseCase Dimension.exactId.name value v := by
  rw [normalizeValue_exactId] at h
  split at h
  · rename_i hblank
    cases h
    exact .blank hblank
  · cases hnumber : registrationNumber (Text.strip value) with
    | error e =>
      rw [hnumber] at h
      cases h
    | ok id =>
      rw [hnumber] at h
      cases h
      obtain ⟨hsame, hproper⟩ := registrationNumber_eq_ok_iff.mp hnumber
      rw [Text.strip_strip] at hsame
      subst hsame
      exact .number rfl hproper

/-- A value that is accepted is kept in its normal form. -/
theorem normalizes_of_eq_ok (h : normalizeValue name value raiseCase = .ok v) :
    Normalizes raiseCase name value v := by
  by_cases haddress : name = Dimension.residentAddress.name
  · subst haddress
    exact normalizes_residentAddress h
  by_cases hid : name = Dimension.exactId.name
  · subst hid
    exact normalizes_exactId h
  · rw [normalizeValue_text haddress hid, Except.ok.injEq] at h
    subst h
    split
    · rename_i hblank
      exact .blank hblank
    · rename_i hne
      exact .text haddress hid hne

/-- A value that has a normal form is accepted. -/
theorem normalizeValue_of_normalizes (h : Normalizes raiseCase name value v) :
    normalizeValue name value raiseCase = .ok v := by
  cases h with
  | blank hblank =>
    unfold normalizeValue
    simp only [String.isEmpty_iff, if_pos hblank]
  | address hname hread hpart =>
    rw [hname, normalizeValue_residentAddress, hread, Option.bind_some, if_neg hpart]
  | noAddress hname hread =>
    rw [hname, normalizeValue_residentAddress]
    cases hvalue : ResidentAddress.ofParam? value with
    | none => rfl
    | some a => rw [Option.bind_some, if_pos (hread a hvalue)]
  | number hname hproper =>
    rw [hname, normalizeValue_exactId, if_neg hproper.ne_empty,
      registrationNumber_eq_ok_iff.mpr ⟨Text.strip_strip value, hproper⟩]
    rfl
  | text haddress hid hne => rw [normalizeValue_text haddress hid, if_neg hne]

/-- Values are accepted in their normal form, and in no other. -/
theorem normalizeValue_eq_ok_iff :
    normalizeValue name value raiseCase = .ok v ↔ Normalizes raiseCase name value v :=
  ⟨normalizes_of_eq_ok, normalizeValue_of_normalizes⟩

/-- A value is refused only as a registration number that is none. -/
theorem normalizeValue_eq_error_iff {e : FilterError} :
    normalizeValue name value raiseCase = .error e ↔
      ∃ id, numberOf? (name, value) = some id ∧ ¬IsRegistrationNumber id ∧
        e = .badRegistrationNumber id := by
  constructor
  · intro h
    have hid : name = Dimension.exactId.name := by
      by_contra hid
      -- Under any other name every value is accepted.
      by_cases haddress : name = Dimension.residentAddress.name
      · rw [haddress, normalizeValue_residentAddress] at h
        cases h
      · rw [normalizeValue_text haddress hid] at h
        cases h
    rw [hid, normalizeValue_exactId] at h
    split at h
    · cases h
    · rename_i hne
      refine ⟨Text.strip value, numberOf?_eq_some_iff.mpr ⟨hid, hne, rfl⟩, ?_⟩
      have hproper : ¬IsRegistrationNumber (Text.strip value) := by
        intro hproper
        rw [registrationNumber_eq_ok_iff.mpr ⟨Text.strip_strip value, hproper⟩] at h
        cases h
      rw [registrationNumber_of_not (by rwa [Text.strip_strip])] at h
      exact ⟨hproper, (Except.error.inj h).symm⟩
  · rintro ⟨id, hid, hbad, rfl⟩
    obtain ⟨rfl, hne, rfl⟩ := numberOf?_eq_some_iff.mp hid
    rw [normalizeValue_exactId, if_neg hne, registrationNumber_of_not (by rwa [Text.strip_strip])]
    rfl

/-- Under the name of the registration number, the number that is asked for is kept. -/
theorem Normalizes.eq_numberOf? (h : Normalizes raiseCase Dimension.exactId.name value v) :
    v = numberOf? (Dimension.exactId.name, value) := by
  cases h with
  | blank hblank => simp [numberOf?, hblank]
  | address hname _ _ => exact absurd hname (by decide)
  | noAddress hname _ => exact absurd hname (by decide)
  | number _ hproper => exact (numberOf?_eq_some_iff.mpr ⟨rfl, hproper.ne_empty, rfl⟩).symm
  | text _ hid _ => exact absurd rfl hid

/-- A value in normal form is not empty and has no blanks at its ends. -/
theorem normalizeValue_normal {v : String} (h : normalizeValue name value raiseCase = .ok (some v)) :
    Text.strip v = v ∧ v ≠ "" := by
  cases normalizes_of_eq_ok h with
  | @address a _ hread _ => exact ⟨ResidentAddress.strip_toParam hread, a.toParam_ne_empty⟩
  | number _ hproper => exact ⟨Text.strip_strip value, hproper.ne_empty⟩
  | text _ _ hne =>
    unfold respelled
    split
    · split
      · exact ⟨by rw [Text.strip_upper, Text.strip_strip], Text.upper_ne_empty hne⟩
      · exact ⟨Text.strip_strip value, hne⟩
    · exact ⟨Text.strip_strip value, hne⟩

/-- Most values are selected as they stand, without the blanks around them. -/
theorem normalizeValue_eq_strip {d : Dimension} (hcase : d.foldsCase = false)
    (haddress : d ≠ .residentAddress) {raw x : String} {raiseCase : Bool}
    (h : normalizeValue d.name raw raiseCase = .ok (some x)) : x = Text.strip raw := by
  cases normalizes_of_eq_ok h with
  | address hname _ _ => exact absurd (Dimension.name_injective hname) haddress
  | number _ _ => rfl
  | text _ _ _ =>
    rw [respelled_of_not_keepsUpper ((keepsUpper_name d).trans hcase), id_eq, ite_self]

end Electorate
