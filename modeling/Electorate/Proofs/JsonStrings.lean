import Electorate.Json
import Electorate.Web.Query

/-!
# Strings in JSON texts

Each character of a string is read back from its escape before anything else is known of the text,
so no two strings have texts of which one begins the other.

* `readChar`, `readChar_escapeChar`: one character is read from the front of a text.
* `head?_escapeChar_append`: no escape starts with a quotation mark.
* `stringText_append_inj`: a string and what stands behind it are known from the text of both.
-/

namespace Electorate.Json

open Electorate.Text (backslash hexDigits)

variable {c : Char} {cs : List Char} {n : Nat}

/-! ## Hexadecimal digits -/

/-- The number that digits stand for. -/
def hexNumber (cs : List Char) : Nat :=
  cs.foldl (fun n c => 16 * n + (Web.hexValue? c).getD 0) 0

theorem hexValue?_digitChar {d : Nat} (h : d < 16) : Web.hexValue? d.digitChar = some d := by
  have hall : ∀ d < 16, Web.hexValue? (Nat.digitChar d) = some d := by decide
  exact hall d h

theorem hexNumber_append_singleton (cs : List Char) (c : Char) :
    hexNumber (cs ++ [c]) = 16 * hexNumber cs + (Web.hexValue? c).getD 0 := by
  simp only [hexNumber, List.foldl_append, List.foldl_cons, List.foldl_nil]

theorem hexNumber_toDigits (n : Nat) : hexNumber (Nat.toDigits 16 n) = n := by
  induction n using Nat.strongRecOn with
  | ind n ih =>
    rcases Nat.lt_or_ge n 16 with hsmall | hlarge
    · rw [Nat.toDigits_of_lt_base hsmall]
      simp [hexNumber, hexValue?_digitChar hsmall]
    · have hdigit : n % 16 < 16 := by omega
      rw [Nat.toDigits_of_base_le (by decide) hlarge, hexNumber_append_singleton,
        ih (n / 16) (by omega), hexValue?_digitChar hdigit, Option.getD_some]
      omega

theorem hexNumber_replicate_append (k : Nat) (cs : List Char) :
    hexNumber (List.replicate k '0' ++ cs) = hexNumber cs := by
  induction k with
  | zero => rfl
  | succ k ih => exact ih

/-- A number is read back from its digits. -/
theorem hexNumber_hexDigits (width n : Nat) : hexNumber (hexDigits width n) = n := by
  rw [hexDigits, hexNumber_replicate_append, hexNumber_toDigits]

theorem length_hexDigits (h : n < 0x10000) : (hexDigits 4 n).length = 4 := by
  have hle : (Nat.toDigits 16 n).length ≤ 4 :=
    (Nat.length_toDigits_le_iff (by decide) (by decide)).mpr h
  simp only [hexDigits, List.length_append, List.length_replicate]
  omega

/-! ## Characters -/

/-- What a letter behind a backslash stands for. -/
def unmarked : Char → Char
  | 'n' => '\n'
  | 'r' => '\r'
  | 't' => '\t'
  | 'b' => '\x08'
  | 'f' => '\x0c'
  | c => c

/-- Reads the character of one code unit or of two, from the digits of the first. -/
def readUnits (cs : List Char) : Char × List Char :=
  let unit := hexNumber (cs.take 4)
  if unit < 0xd800 ∨ 0xe000 ≤ unit then (Char.ofNat unit, cs.drop 4)
  else
    let low := hexNumber ((cs.drop 6).take 4)
    (Char.ofNat (0x10000 + (unit - 0xd800) * 0x400 + (low - 0xdc00)), cs.drop 10)

/-- Reads one character from the front of the text of a string. -/
def readChar : List Char → Option (Char × List Char)
  | [] => none
  | [c] => some (c, [])
  | c :: letter :: rest =>
    if c = backslash then
      some (if letter = 'u' then readUnits rest else (unmarked letter, rest))
    else some (c, letter :: rest)

theorem readChar_of_ne (h : c ≠ backslash) (rest : List Char) :
    readChar (c :: rest) = some (c, rest) := by
  cases rest with
  | nil => rfl
  | cons letter rest => exact if_neg h

theorem readChar_letter {letter : Char} (h : letter ≠ 'u') (rest : List Char) :
    readChar (backslash :: letter :: rest) = some (unmarked letter, rest) := by
  rw [readChar, if_pos rfl, if_neg h]

theorem readChar_units (rest : List Char) :
    readChar (backslash :: 'u' :: rest) = some (readUnits rest) := by
  rw [readChar, if_pos rfl, if_pos rfl]

/-- The code units of which two make a character are no characters themselves. -/
theorem toNat_range (c : Char) : (c.toNat < 0xd800 ∨ 0xe000 ≤ c.toNat) ∧ c.toNat < 0x110000 := by
  have h := c.valid
  simp only [UInt32.isValidChar, Nat.isValidChar] at h
  simp only [Char.toNat]
  omega

theorem readUnits_one (h : c.toNat < 0x10000) (rest : List Char) :
    readUnits (hexDigits 4 c.toNat ++ rest) = (c, rest) := by
  simp only [readUnits, List.take_left' (length_hexDigits h), List.drop_left' (length_hexDigits h),
    hexNumber_hexDigits, if_pos (toNat_range c).1, Char.ofNat_toNat]

theorem readUnits_two {high low : Nat} (hhigh : 0xd800 ≤ high ∧ high < 0xdc00)
    (hlow : low < 0x10000) (rest : List Char) :
    readUnits (hexDigits 4 high ++ (unitEscape low ++ rest)) =
      (Char.ofNat (0x10000 + (high - 0xd800) * 0x400 + (low - 0xdc00)), rest) := by
  have hlength : (hexDigits 4 high).length = 4 := length_hexDigits (by omega)
  have hfirst : (hexDigits 4 high ++ backslash :: 'u' :: (hexDigits 4 low ++ rest)).drop 6 =
      hexDigits 4 low ++ rest := by
    rw [show 6 = 4 + 2 by rfl, ← List.drop_drop, List.drop_left' hlength]
    rfl
  have hboth : (hexDigits 4 high ++ backslash :: 'u' :: (hexDigits 4 low ++ rest)).drop 10 =
      rest := by
    rw [show 10 = 6 + 4 by rfl, ← List.drop_drop, hfirst, List.drop_left' (length_hexDigits hlow)]
  have hpair : ¬(high < 0xd800 ∨ 0xe000 ≤ high) := by omega
  simp only [readUnits, unitEscape, List.cons_append, List.take_left' hlength, hfirst, hboth,
    List.take_left' (length_hexDigits hlow), hexNumber_hexDigits, if_neg hpair]

/-- The four forms of an escape: a letter behind a backslash, the character itself, one code unit
and two of them. -/
theorem escapeChar_cases (c : Char) :
    (∃ letter, escapeChar c = [backslash, letter] ∧ letter ≠ 'u' ∧ letter ≠ '\x7b' ∧
      unmarked letter = c) ∨
    (escapeChar c = [c] ∧ c ≠ '\x22' ∧ c ≠ backslash) ∨
    (escapeChar c = unitEscape c.toNat ∧ c.toNat < 0x10000) ∨
    ∃ high low, escapeChar c = unitEscape high ++ unitEscape low ∧
      (0xd800 ≤ high ∧ high < 0xdc00) ∧ low < 0x10000 ∧
      0x10000 + (high - 0xd800) * 0x400 + (low - 0xdc00) = c.toNat := by
  have hc := (toNat_range c).2
  unfold escapeChar
  split
  · rename_i hmark
    rcases hmark with rfl | rfl <;> exact .inl ⟨_, rfl, by decide⟩
  split
  · exact .inl ⟨_, rfl, by subst_vars; decide⟩
  split
  · exact .inl ⟨_, rfl, by subst_vars; decide⟩
  split
  · exact .inl ⟨_, rfl, by subst_vars; decide⟩
  split
  · exact .inl ⟨_, rfl, by subst_vars; decide⟩
  split
  · exact .inl ⟨_, rfl, by subst_vars; decide⟩
  split
  · rename_i hmark _ _ _ _ _ _
    exact .inr (.inl ⟨rfl, not_or.mp hmark⟩)
  split
  · rename_i hshort
    exact .inr (.inr (.inl ⟨rfl, hshort⟩))
  · exact .inr (.inr (.inr ⟨_, _, rfl, by omega, by omega, by omega⟩))

/-- Every character is read back from its escape, whatever stands behind it. -/
theorem readChar_escapeChar (c : Char) (rest : List Char) :
    readChar (escapeChar c ++ rest) = some (c, rest) := by
  rcases escapeChar_cases c with ⟨letter, heq, hunit, -, hletter⟩ | ⟨heq, -, hmark⟩ |
    ⟨heq, hshort⟩ | ⟨high, low, heq, hhigh, hlow, hvalue⟩
  · rw [heq, List.cons_append, List.singleton_append, readChar_letter hunit, hletter]
  · rw [heq, List.singleton_append, readChar_of_ne hmark]
  · rw [heq, unitEscape, List.cons_append, List.cons_append, readChar_units, readUnits_one hshort]
  · rw [heq, List.append_assoc, unitEscape, List.cons_append, List.cons_append, readChar_units,
      readUnits_two hhigh hlow, hvalue, Char.ofNat_toNat]

/-! ## Strings -/

theorem exists_digitChar_of_mem_toDigits (h : c ∈ Nat.toDigits 16 n) :
    ∃ d < 16, c = Nat.digitChar d := by
  induction n using Nat.strongRecOn with
  | ind n ih =>
    rcases Nat.lt_or_ge n 16 with hsmall | hlarge
    · rw [Nat.toDigits_of_lt_base hsmall, List.mem_singleton] at h
      exact ⟨n, hsmall, h⟩
    · rw [Nat.toDigits_of_base_le (by decide) hlarge, List.mem_append, List.mem_singleton] at h
      rcases h with hfront | hlast
      · exact ih (n / 16) (by omega) hfront
      · exact ⟨n % 16, by omega, hlast⟩

theorem brace_not_mem_unitEscape (n : Nat) : '\x7b' ∉ unitEscape n := by
  have hdigit : ∀ d < 16, Nat.digitChar d ≠ '\x7b' := by decide
  intro hmem
  rcases List.mem_cons.mp hmem with hmark | hmem
  · exact absurd hmark (by decide)
  rcases List.mem_cons.mp hmem with hletter | hmem
  · exact absurd hletter (by decide)
  rcases List.mem_append.mp hmem with hzero | hdigits
  · exact absurd (List.eq_of_mem_replicate hzero) (by decide)
  · obtain ⟨d, hd, heq⟩ := exists_digitChar_of_mem_toDigits hdigits
    exact hdigit d hd heq.symm

/-- A character stands for itself, and then it ends no string, or its escape starts with a
backslash and has no brace. -/
theorem escapeChar_self_or_marked (c : Char) :
    (escapeChar c = [c] ∧ c ≠ '\x22') ∨
      (escapeChar c).head? = some backslash ∧ '\x7b' ∉ escapeChar c := by
  rcases escapeChar_cases c with ⟨letter, heq, -, hbrace, -⟩ | ⟨heq, hquote, -⟩ | ⟨heq, -⟩ |
    ⟨high, low, heq, -⟩
  · rw [heq]
    refine .inr ⟨rfl, ?_⟩
    simp [hbrace.symm, backslash]
  · exact .inl ⟨heq, hquote⟩
  · rw [heq]
    exact .inr ⟨rfl, brace_not_mem_unitEscape _⟩
  · rw [heq]
    have hnone : '\x7b' ∉ unitEscape high ++ unitEscape low := by
      rw [List.mem_append]
      exact not_or.mpr ⟨brace_not_mem_unitEscape high, brace_not_mem_unitEscape low⟩
    exact .inr ⟨rfl, hnone⟩

/-- No escape starts with the quotation mark that ends a string. -/
theorem head?_escapeChar_append (c : Char) (rest : List Char) :
    (escapeChar c ++ rest).head? ≠ some '\x22' := by
  rcases escapeChar_self_or_marked c with ⟨hself, hc⟩ | ⟨hmark, -⟩
  · rw [hself]
    exact fun h => hc (Option.some.inj h)
  · rw [List.head?_append, hmark]
    exact fun h => absurd (Option.some.inj h) (by decide)

theorem flatMap_escapeChar_append_inj {cs' : List Char} {r r' : List Char}
    (h : cs.flatMap escapeChar ++ '\x22' :: r = cs'.flatMap escapeChar ++ '\x22' :: r') :
    cs = cs' ∧ r = r' := by
  induction cs generalizing cs' with
  | nil =>
    cases cs' with
    | nil => exact ⟨rfl, (List.cons.inj h).2⟩
    | cons c' cs' =>
      rw [List.flatMap_cons, List.append_assoc] at h
      exact absurd (congrArg List.head? h).symm (head?_escapeChar_append c' _)
  | cons c cs ih =>
    cases cs' with
    | nil =>
      rw [List.flatMap_cons, List.append_assoc] at h
      exact absurd (congrArg List.head? h) (head?_escapeChar_append c _)
    | cons c' cs' =>
      have hread := congrArg readChar h
      rw [List.flatMap_cons, List.flatMap_cons, List.append_assoc, List.append_assoc,
        readChar_escapeChar, readChar_escapeChar] at hread
      obtain ⟨rfl, hrest⟩ := Prod.mk.inj (Option.some.inj hread)
      obtain ⟨rfl, hr⟩ := ih hrest
      exact ⟨rfl, hr⟩

theorem toList_stringText_append (s : String) (r : List Char) :
    (stringText s).toList ++ r = '\x22' :: (s.toList.flatMap escapeChar ++ '\x22' :: r) := by
  simp [stringText]

/-- A string and what stands behind it are known from the text of both. -/
theorem stringText_append_inj {s s' : String} {r r' : List Char}
    (h : (stringText s).toList ++ r = (stringText s').toList ++ r') : s = s' ∧ r = r' := by
  rw [toList_stringText_append, toList_stringText_append] at h
  obtain ⟨hchars, hr⟩ := flatMap_escapeChar_append_inj (List.cons.inj h).2
  exact ⟨String.toList_injective hchars, hr⟩

end Electorate.Json
