import Electorate.Filter.Bracket
import Electorate.Proofs.FilterSpec
import Mathlib.Data.Nat.ModEq

/-!
# Upper case is raised once

A text in upper case stays as it is when it is raised again, and blanks may be dropped before or
after.

* `CaseRun.apart`: two runs of a case table without a common code point, by comparing their ends or
  their remainders; `CaseRun.shifted`: where a run goes.
* `Settled`: no entry of the upper case table is about the code point. Where a run goes is settled,
  and so is what a character expands to: the table is compared with itself.
* `upperChar_cases`: a character is in upper case, or becomes characters that are and that are not
  blank.
* `upper_upper`, `strip_upper`: upper case of a text, twice and beside `strip`.
* `raceStoreValue_upper`: the stored value of a race does not depend on case.
-/

namespace Electorate.Text

/-! ## Runs -/

namespace CaseRun

variable {r s : CaseRun} {n : Nat}

theorem covers_iff : r.covers n = true ↔
    r.first ≤ n ∧ n ≤ r.last ∧ (n - r.first) % r.step = 0 := by
  simp [covers, and_assoc]

/-- The run of one code point. -/
def point (n : Nat) : CaseRun := ⟨n, n, 1, 0⟩

theorem covers_point (n : Nat) : (point n).covers n = true := by
  simp [covers_iff, point]

/-- The code points that a run maps to. -/
def shifted (r : CaseRun) : CaseRun := ⟨r.image r.first, r.image r.last, r.step, 0⟩

/-- Two runs of which one ends before the other begins, or of which the first has a fixed remainder
by the step of the second, and it is not the remainder of the second. -/
def apart (r s : CaseRun) : Bool :=
  r.last.blt s.first || s.last.blt r.first ||
    ((r.step % s.step == 0 || r.first == r.last) && r.first % s.step != s.first % s.step)

theorem covers_shifted (hdelta : 0 ≤ r.first + r.delta) (h : r.covers n = true) :
    r.shifted.covers (r.image n) = true := by
  obtain ⟨hfirst, hlast, hmod⟩ := covers_iff.mp h
  have hdist : r.image n - r.image r.first = n - r.first := by
    unfold image
    omega
  refine covers_iff.mpr ⟨?_, ?_, ?_⟩
  · show r.image r.first ≤ r.image n
    unfold image
    omega
  · show r.image n ≤ r.image r.last
    unfold image
    omega
  · show (r.image n - r.image r.first) % r.step = 0
    rw [hdist, hmod]

theorem mod_eq_of_covers (h : r.covers n = true) : n % r.step = r.first % r.step := by
  obtain ⟨hfirst, -, hmod⟩ := covers_iff.mp h
  have hdvd := Nat.dvd_of_mod_eq_zero hmod
  exact ((Nat.modEq_iff_dvd' hfirst).mpr hdvd).symm

/-- Runs that are apart have no common code point. -/
theorem not_covers_of_apart (hapart : r.apart s = true) (h : r.covers n = true) :
    s.covers n = false := by
  rw [Bool.eq_false_iff]
  intro hs
  obtain ⟨hfirst, hlast, -⟩ := covers_iff.mp h
  obtain ⟨hfirst', hlast', -⟩ := covers_iff.mp hs
  simp only [apart, Bool.or_eq_true, Bool.and_eq_true, Nat.blt_eq, beq_iff_eq, bne_iff_ne] at hapart
  rcases hapart with (hends | hends) | ⟨hfixed, hmod⟩
  · omega
  · omega
  · have hn : n % s.step = r.first % s.step := by
      rcases hfixed with hstep | hone
      · have hdvd := Nat.dvd_of_mod_eq_zero hstep
        rw [← Nat.mod_mod_of_dvd n hdvd, mod_eq_of_covers h, Nat.mod_mod_of_dvd _ hdvd]
      · rw [show n = r.first by omega]
    -- A common code point would have both remainders.
    exact hmod (hn.symm.trans (mod_eq_of_covers hs))

end CaseRun

/-! ## The upper case table -/

/-- The blanks, as runs. -/
def blankRuns : List CaseRun :=
  [⟨0x09, 0x0d, 1, 0⟩, ⟨0x1c, 0x20, 1, 0⟩, .point 0x85, .point 0xa0, .point 0x1680,
    ⟨0x2000, 0x200a, 1, 0⟩, .point 0x2028, .point 0x2029, .point 0x202f, .point 0x205f,
    .point 0x3000]

theorem isBlank_iff {c : Char} : isBlank c = true ↔ ∃ b ∈ blankRuns, b.covers c.toNat = true := by
  simp only [isBlank, blankRuns, CaseRun.point, CaseRun.covers_iff, Nat.mod_one, and_true,
    List.mem_cons, List.not_mem_nil, or_false, exists_eq_or_imp, exists_eq_left, Bool.or_eq_true,
    Bool.and_eq_true, decide_eq_true_eq, beq_iff_eq]
  omega

/-- No entry of the upper case table is about the code point. -/
structure Settled (n : Nat) : Prop where
  runs : ∀ r ∈ upperRuns, r.covers n = false
  expansions : ∀ e ∈ upperExpansions, e.1 ≠ n

/-! ### The table against itself

Each check compares runs, not code points: there are some hundred runs and many more characters. -/

/-- No run goes to what a run is about. -/
theorem shifted_apart : ∀ r ∈ upperRuns, ∀ s ∈ upperRuns, r.shifted.apart s = true := by
  have h : upperRuns.all (fun r => upperRuns.all fun s => r.shifted.apart s) = true := by
    decide +kernel
  simpa only [List.all_eq_true] using h

/-- No run goes to a character that expands. -/
theorem point_apart_shifted : ∀ r ∈ upperRuns, ∀ e ∈ upperExpansions,
    (CaseRun.point e.1).apart r.shifted = true := by
  have h : upperRuns.all (fun r => upperExpansions.all fun e =>
      (CaseRun.point e.1).apart r.shifted) = true := by
    decide +kernel
  simpa only [List.all_eq_true] using h

/-- A character expands to something, and the table is not about it. -/
theorem expansions_apart : ∀ e ∈ upperExpansions, e.2 ≠ [] ∧ ∀ n ∈ e.2,
    (∀ r ∈ upperRuns, (CaseRun.point n).apart r = true) ∧ ∀ f ∈ upperExpansions, f.1 ≠ n := by
  have h : upperExpansions.all (fun e => !e.2.isEmpty && e.2.all fun n =>
      upperRuns.all (CaseRun.point n).apart && upperExpansions.all (·.1 != n)) = true := by
    decide +kernel
  simpa only [List.all_eq_true, Bool.and_eq_true, bne_iff_ne, Bool.not_eq_true', ne_eq,
    List.isEmpty_eq_false_iff] using h

/-- The table is not about blanks and does not lead to them. -/
theorem blankRuns_apart : ∀ b ∈ blankRuns,
    (∀ r ∈ upperRuns, b.apart r = true ∧ b.apart r.shifted = true) ∧
    ∀ e ∈ upperExpansions, b.covers e.1 = false ∧ ∀ n ∈ e.2, b.covers n = false := by
  have h : blankRuns.all (fun b => upperRuns.all (fun r => b.apart r && b.apart r.shifted) &&
      upperExpansions.all fun e => !b.covers e.1 && e.2.all (!b.covers ·)) = true := by
    decide +kernel
  simpa only [List.all_eq_true, Bool.and_eq_true, Bool.not_eq_true'] using h

theorem delta_nonneg : ∀ r ∈ upperRuns, 0 ≤ r.first + r.delta := by decide +kernel

/-! ### What is settled -/

variable {r : CaseRun} {e : Nat × List Nat} {n : Nat} {c : Char}

theorem covers_shifted_image (hr : r ∈ upperRuns) (h : r.covers n = true) :
    r.shifted.covers (r.image n) = true :=
  CaseRun.covers_shifted (delta_nonneg r hr) h

theorem settled_image (hr : r ∈ upperRuns) (h : r.covers n = true) : Settled (r.image n) where
  runs := fun s hs => CaseRun.not_covers_of_apart (shifted_apart r hr s hs)
    (covers_shifted_image hr h)
  expansions := fun e he hn => by
    have hfree := CaseRun.not_covers_of_apart (point_apart_shifted r hr e he)
      (CaseRun.covers_point e.1)
    rw [hn, covers_shifted_image hr h] at hfree
    cases hfree

theorem settled_expansion (he : e ∈ upperExpansions) (hn : n ∈ e.2) : Settled n where
  runs := fun r hr => CaseRun.not_covers_of_apart (((expansions_apart e he).2 n hn).1 r hr)
    (CaseRun.covers_point n)
  expansions := ((expansions_apart e he).2 n hn).2

theorem settled_of_isBlank (h : isBlank c = true) : Settled c.toNat := by
  obtain ⟨b, hb, hc⟩ := isBlank_iff.mp h
  obtain ⟨hruns, hkeys⟩ := blankRuns_apart b hb
  refine ⟨fun r hr => CaseRun.not_covers_of_apart (hruns r hr).1 hc, fun e he hn => ?_⟩
  have hkey := (hkeys e he).1
  rw [hn, hc] at hkey
  cases hkey

/-- A character in upper case that is not blank. -/
structure Raised (c : Char) : Prop where
  settled : Settled c.toNat
  visible : isBlank c = false

/-- A number that is no character becomes the null character, which is raised too. -/
theorem raised_ofNat (hs : Settled n) (hb : ∀ b ∈ blankRuns, b.covers n = false) :
    Raised (Char.ofNat n) := by
  have hnat : (Char.ofNat n).toNat = n ∨ Char.ofNat n = '\x00' := by
    by_cases h : n.isValidChar
    · left
      rw [Char.ofNat, dif_pos h]
      rfl
    · right
      rw [Char.ofNat, dif_neg h]
      rfl
  rcases hnat with hn | hz
  · refine ⟨by rwa [hn], ?_⟩
    rw [Bool.eq_false_iff, ne_eq, isBlank_iff, hn]
    rintro ⟨b, hmem, hc⟩
    rw [hb b hmem] at hc
    cases hc
  · rw [hz]
    exact ⟨⟨by decide +kernel, by decide +kernel⟩, by decide⟩

theorem raised_image (hr : r ∈ upperRuns) (h : r.covers n = true) :
    Raised (Char.ofNat (r.image n)) := by
  refine raised_ofNat (settled_image hr h) fun b hb => ?_
  rw [Bool.eq_false_iff]
  intro hc
  have hfree := CaseRun.not_covers_of_apart ((blankRuns_apart b hb).1 r hr).2 hc
  rw [covers_shifted_image hr h] at hfree
  cases hfree

theorem raised_expansion (he : e ∈ upperExpansions) (hn : n ∈ e.2) : Raised (Char.ofNat n) :=
  raised_ofNat (settled_expansion he hn) fun b hb => ((blankRuns_apart b hb).2 e he).2 n hn

/-! ## Characters -/

theorem mapCase_of_settled (h : Settled c.toNat) : mapCase upperRuns upperExpansions c = [c] := by
  have hfind : upperRuns.find? (·.covers c.toNat) = none := by
    rw [List.find?_eq_none]
    intro r hr
    rw [h.runs r hr]
    decide
  have hlookup : upperExpansions.lookup c.toNat = none := by
    rw [List.lookup_eq_none_iff]
    intro e he
    exact bne_iff_ne.mpr (h.expansions e he).symm
  simp only [mapCase, hfind, hlookup]

theorem toUpper_ofNat : ∀ n < 0x80, (Char.ofNat n).toUpper =
    Char.ofNat (if 0x61 ≤ n ∧ n ≤ 0x7a then n - 32 else n) := by decide

/-- Of ASCII, the table has the small letters and nothing else. -/
theorem settled_of_ascii (hascii : n < 0x80) (hletter : ¬(0x61 ≤ n ∧ n ≤ 0x7a)) : Settled n where
  runs := fun r hr => by
    have hruns : ∀ r ∈ upperRuns, (r.first = 0x61 ∧ r.last = 0x7a) ∨ 0x80 ≤ r.first := by
      decide +kernel
    rw [Bool.eq_false_iff]
    intro hc
    obtain ⟨hfirst, hlast, -⟩ := CaseRun.covers_iff.mp hc
    have hends := hruns r hr
    omega
  expansions := fun e he => by
    have hkeys : ∀ e ∈ upperExpansions, 0x80 ≤ e.1 := by decide +kernel
    have hkey := hkeys e he
    omega

/-- The table has the ASCII letters too. -/
theorem upperChar_eq_mapCase (c : Char) : upperChar c = mapCase upperRuns upperExpansions c := by
  unfold upperChar
  split
  · next hascii =>
    have hup := toUpper_ofNat c.toNat hascii
    rw [Char.ofNat_toNat] at hup
    rw [hup]
    by_cases hletter : 0x61 ≤ c.toNat ∧ c.toNat ≤ 0x7a
    · have hfind : upperRuns.find? (·.covers c.toNat) = some ⟨0x61, 0x7a, 1, -32⟩ :=
        List.find?_cons_of_pos
          (CaseRun.covers_iff.mpr ⟨hletter.1, hletter.2, Nat.mod_one _⟩)
      have himage : CaseRun.image ⟨0x61, 0x7a, 1, -32⟩ c.toNat = c.toNat - 32 := by
        show ((c.toNat : Int) + -32).toNat = c.toNat - 32
        omega
      simp only [mapCase, hfind, himage, if_pos hletter]
    · rw [if_neg hletter, Char.ofNat_toNat, mapCase_of_settled (settled_of_ascii hascii hletter)]
  · rfl

theorem upperChar_of_settled (h : Settled c.toNat) : upperChar c = [c] := by
  rw [upperChar_eq_mapCase, mapCase_of_settled h]

theorem upperChar_of_isBlank (h : isBlank c = true) : upperChar c = [c] :=
  upperChar_of_settled (settled_of_isBlank h)

/-- A character is in upper case, or it becomes characters that are and that are not blank. -/
theorem upperChar_cases (c : Char) :
    upperChar c = [c] ∨ upperChar c ≠ [] ∧ ∀ d ∈ upperChar c, Raised d := by
  rw [upperChar_eq_mapCase]
  unfold mapCase
  split
  · next r hr =>
    have hcovers := List.find?_some hr
    refine .inr ⟨List.cons_ne_nil _ _, fun d hd => ?_⟩
    obtain rfl := List.mem_singleton.mp hd
    exact raised_image (List.mem_of_find?_eq_some hr) hcovers
  · split
    · next codes hcodes =>
      obtain ⟨l, l', hl, -⟩ := List.lookup_eq_some_iff.mp hcodes
      have he : (c.toNat, codes) ∈ upperExpansions := by simp [hl]
      have hne : codes.map Char.ofNat ≠ [] := by simpa using (expansions_apart _ he).1
      refine .inr ⟨hne, fun d hd => ?_⟩
      obtain ⟨n, hn, rfl⟩ := List.mem_map.mp hd
      exact raised_expansion he hn
    · exact .inl rfl

/-- What is not blank becomes something, and nothing of it is blank. -/
theorem upperChar_of_not_isBlank (h : isBlank c = false) :
    upperChar c ≠ [] ∧ ∀ d ∈ upperChar c, isBlank d = false := by
  rcases upperChar_cases c with he | ⟨hne, hraised⟩
  · rw [he]
    exact ⟨List.cons_ne_nil _ _, by simpa using h⟩
  · exact ⟨hne, fun d hd => (hraised d hd).visible⟩

theorem upperChars_upperChar (c : Char) : upperChars (upperChar c) = upperChar c := by
  rcases upperChar_cases c with he | ⟨-, hraised⟩
  · rw [he]
    simp [upperChars, he]
  · unfold upperChars
    rw [List.flatMap_congr fun d hd => upperChar_of_settled (hraised d hd).settled]
    exact List.flatMap_singleton' _

/-! ## Texts -/

theorem upperChars_cons (c : Char) (cs : List Char) :
    upperChars (c :: cs) = upperChar c ++ upperChars cs := rfl

theorem upperChars_upperChars (cs : List Char) : upperChars (upperChars cs) = upperChars cs := by
  induction cs with
  | nil => rfl
  | cons c cs ih =>
    rw [upperChars_cons, upperChars_append, upperChars_upperChar, ih]

/-- Upper case is raised once. -/
theorem upper_upper (s : String) : upper (upper s) = upper s := by
  simp only [upper, String.toList_ofList, upperChars_upperChars]

theorem dropWhile_upperChars (cs : List Char) :
    (upperChars cs).dropWhile isBlank = upperChars (cs.dropWhile isBlank) := by
  induction cs with
  | nil => rfl
  | cons c cs ih =>
    cases hc : isBlank c with
    | true =>
      rw [upperChars_cons, upperChar_of_isBlank hc, List.dropWhile_cons_of_pos hc, ← ih]
      exact List.dropWhile_cons_of_pos hc
    | false =>
      obtain ⟨hne, hvisible⟩ := upperChar_of_not_isBlank hc
      obtain ⟨d, ds, hd⟩ := List.exists_cons_of_ne_nil hne
      have hfirst : ¬isBlank d = true := by
        rw [hvisible d (by simp [hd])]
        decide
      have hkept : (c :: cs).dropWhile isBlank = c :: cs :=
        List.dropWhile_cons_of_neg (by simp [hc])
      rw [hkept, upperChars_cons, hd]
      exact List.dropWhile_cons_of_neg hfirst

theorem rdropWhile_upperChars (cs : List Char) :
    (upperChars cs).rdropWhile isBlank = upperChars (cs.rdropWhile isBlank) := by
  induction cs using List.reverseRecOn with
  | nil => rfl
  | append_singleton cs c ih =>
    have hlast : upperChars [c] = upperChar c := List.flatMap_singleton _ _
    rw [upperChars_append, hlast]
    cases hc : isBlank c with
    | true =>
      rw [upperChar_of_isBlank hc, List.rdropWhile_concat_pos _ _ _ hc, ih,
        List.rdropWhile_concat_pos _ _ _ hc]
    | false =>
      obtain ⟨hne, hvisible⟩ := upperChar_of_not_isBlank hc
      obtain ⟨ds, d, hd⟩ := List.eq_nil_or_concat (upperChar c) |>.resolve_left hne
      have hend : ¬isBlank d = true := by
        rw [hvisible d (by simp [hd])]
        decide
      have hkept : (cs ++ [c]).rdropWhile isBlank = cs ++ [c] :=
        List.rdropWhile_concat_neg _ _ _ (by simp [hc])
      rw [hkept, upperChars_append, hlast, hd, List.concat_eq_append, ← List.append_assoc,
        List.rdropWhile_concat_neg _ _ _ hend]

/-- Blanks at the ends may be dropped before or after. -/
theorem strip_upper (s : String) : strip (upper s) = upper (strip s) := by
  simp only [strip, upper, String.toList_ofList, trimBlanks_eq, dropWhile_upperChars,
    rdropWhile_upperChars]

end Electorate.Text

namespace Electorate

/-- The stored value of a race does not depend on case. -/
theorem raceStoreValue_upper (x : String) : raceStoreValue (Text.upper x) = raceStoreValue x := by
  unfold raceStoreValue
  rw [Text.strip_upper, Text.upper_upper]

end Electorate
