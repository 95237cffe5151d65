import Electorate.CommandLine.Run

/-!
# Filters as words of a command line

A filter is written as a name and a value with an equals sign between them. A value may hold more
equals signs, as the first one ends the name.

* `keyValue`: the word of a filter. `readPair_keyValue`: it is read back.
* `Spelled`, `SpelledWithCounts`: words that give filters, each in one of four spellings.
* `Spelled.scan_append`: spelled filters are options, and the words behind them are scanned on.
* `parse_count`, `parse_combinations`: the commands that the words of spelled filters form.
* `readFilters_keyValue`: what is made of the filters does not depend on their spelling.
-/

namespace Electorate

/-- A text is cut at the first separator. -/
theorem Text.cutAt_append {sep : Char} {a : String} (h : sep ∉ a.toList) (b : String) :
    cutAt sep (a ++ String.singleton sep ++ b) = (a, some b) := by
  have hall : ∀ c ∈ a.toList, (decide (c ≠ sep)) = true := fun c hc =>
    decide_eq_true fun heq => h (heq ▸ hc)
  have hchars : (a ++ String.singleton sep ++ b).toList = a.toList ++ sep :: b.toList := by
    simp
  unfold cutAt
  rw [hchars, List.takeWhile_append_of_pos hall, List.dropWhile_append_of_pos hall]
  simp

/-- No name of a dimension has an equals sign in it, or blanks around it. -/
theorem Dimension.plain_of_mem_allNames {name : String} (h : name ∈ allNames) :
    '=' ∉ name.toList ∧ Text.strip name = name := by
  have hall : ∀ name ∈ allNames, '=' ∉ name.toList ∧ Text.strip name = name := by decide +kernel
  exact hall name h

namespace CommandLine

/-! ## The word of a filter -/

/-- The word that gives a filter. -/
def keyValue (p : String × String) : String := p.1 ++ "=" ++ p.2

theorem toList_keyValue (p : String × String) :
    (keyValue p).toList = p.1.toList ++ '=' :: p.2.toList := by
  simp [keyValue]

theorem readPair_keyValue {p : String × String} (h : p.1 ∈ Dimension.allNames) : readPair (keyValue p) = .ok p := by
  obtain ⟨hsep, hstrip⟩ := Dimension.plain_of_mem_allNames h
  have hcut : Text.cutAt '=' (keyValue p) = (p.1, some p.2) := Text.cutAt_append hsep p.2
  simp only [readPair, hcut, hstrip]

theorem mapM_readPair_keyValue {pairs : List (String × String)}
    (h : ∀ p ∈ pairs, p.1 ∈ Dimension.allNames) :
    (pairs.map keyValue).mapM readPair = .ok pairs := by
  induction pairs with
  | nil => rfl
  | cons p pairs ih =>
    rw [List.map_cons, List.mapM_cons, readPair_keyValue (h p (by simp)),
      ih fun p' hp' => h p' (List.mem_cons_of_mem p hp')]
    rfl

/-- Filters are read as the parameters of a request are, none of them ignored. -/
theorem readFilters_keyValue {pairs : List (String × String)}
    (h : ∀ p ∈ pairs, p.1 ∈ Dimension.allNames) (raiseCase : Bool) :
    readFilters (pairs.map keyValue) raiseCase =
      (FilterSpec.ofParams pairs Dimension.allNames [] raiseCase).mapError .refused := by
  rw [readFilters, mapM_readPair_keyValue h]
  rfl

/-! ## Spellings -/

/-- Words that give filters, in order. -/
inductive Spelled : List String → List (String × String) → Prop
  | nil : Spelled [] []
  /-- The name of the option, then the filter as a word of its own. -/
  | named (p : String × String) (h : Spelled words pairs) :
    Spelled ("--filter" :: keyValue p :: words) (p :: pairs)
  /-- The filter behind the name of the option and an equals sign. -/
  | joined (p : String × String) (h : Spelled words pairs) :
    Spelled (("--filter=" ++ keyValue p) :: words) (p :: pairs)
  /-- The letter of the option, then the filter as a word of its own. -/
  | lettered (p : String × String) (h : Spelled words pairs) :
    Spelled ("-f" :: keyValue p :: words) (p :: pairs)
  /-- The filter behind the letter of the option. -/
  | attached (p : String × String) (h : Spelled words pairs) :
    Spelled (("-f" ++ keyValue p) :: words) (p :: pairs)

variable {pairs : List (String × String)} {words : List String}

theorem Word.of_joined (more : List OptionForm) (w : String) :
    Word.of (filterForm :: more) ("--filter=" ++ w) = .option filterForm (some w) := by
  have hchars : ("--filter=" ++ w).toList =
      '-' :: '-' :: 'f' :: 'i' :: 'l' :: 't' :: 'e' :: 'r' :: '=' :: w.toList := by simp
  unfold Word.of
  rw [hchars]
  simp [namedWord, filterForm]

theorem Word.of_attached (more : List OptionForm) (p : String × String) :
    Word.of (filterForm :: more) ("-f" ++ keyValue p) = .option filterForm (some (keyValue p)) := by
  have hchars : ("-f" ++ keyValue p).toList = '-' :: 'f' :: (keyValue p).toList := by simp
  have hne : (keyValue p).toList ≠ [] := by
    rw [toList_keyValue]
    simp
  unfold Word.of
  rw [hchars]
  simp [filterForm, hne]

/-- The options of filters in front of others. -/
def Scanned.withFilters (pairs : List (String × String)) (s : Scanned) : Scanned :=
  { s with options := pairs.map (fun p => (filterForm.name, keyValue p)) ++ s.options }

theorem Scanned.withFilters_nil (s : Scanned) : s.withFilters [] = s := rfl

theorem Scanned.withOption_withFilters (p : String × String) (pairs : List (String × String))
    (s : Scanned) :
    (s.withFilters pairs).withOption filterForm.name (keyValue p) = s.withFilters (p :: pairs) := rfl

/-- Spelled filters are options of a command that takes filters, and the words behind them are
scanned on. -/
theorem Spelled.scan_append (h : Spelled words pairs) (more : List OptionForm)
    (rest : List String) : scan (filterForm :: more) (words ++ rest) =
      (scan (filterForm :: more) rest).map (·.withFilters pairs) := by
  have hnamed : Word.of (filterForm :: more) "--filter" = .option filterForm none := by
    simp [Word.of, namedWord, filterForm]
  have hlettered : Word.of (filterForm :: more) "-f" = .option filterForm none := by
    simp [Word.of, filterForm]
  induction h with
  | nil => simp [Scanned.withFilters_nil]
  | named p h ih =>
    simp only [List.cons_append, scan, hnamed, ih]
    simp [filterForm, Function.comp_def, ← Scanned.withOption_withFilters]
  | joined p h ih =>
    simp only [List.cons_append, scan, Word.of_joined, ih]
    simp [filterForm, Function.comp_def, ← Scanned.withOption_withFilters]
  | lettered p h ih =>
    simp only [List.cons_append, scan, hlettered, ih]
    simp [filterForm, Function.comp_def, ← Scanned.withOption_withFilters]
  | attached p h ih =>
    simp only [List.cons_append, scan, Word.of_attached, ih]
    simp [filterForm, Function.comp_def, ← Scanned.withOption_withFilters]

theorem Scanned.values_withFilters (pairs : List (String × String)) (s : Scanned) :
    (s.withFilters pairs).values filterForm.name =
      pairs.map keyValue ++ s.values filterForm.name := by
  have hall : (pairs.map fun p => (filterForm.name, keyValue p)).filter (·.1 == filterForm.name) =
      pairs.map fun p => (filterForm.name, keyValue p) := by
    rw [List.filter_eq_self]
    intro option hoption
    obtain ⟨p, -, rfl⟩ := List.mem_map.mp hoption
    exact beq_self_eq_true filterForm.name
  rw [Scanned.values, Scanned.withFilters, List.filter_append, hall, List.map_append, List.map_map]
  rfl

/-- Spelled filters alone. -/
theorem Spelled.scan_eq (h : Spelled words pairs) (more : List OptionForm) :
    scan (filterForm :: more) words = some (Scanned.empty.withFilters pairs) := by
  rw [← List.append_nil words, h.scan_append]
  rfl

theorem Scanned.values_empty_withFilters (pairs : List (String × String)) :
    (empty.withFilters pairs).values filterForm.name = pairs.map keyValue := by
  rw [values_withFilters]
  exact List.append_nil _

/-- Words that give filters and ask for counts. The option that asks for counts may stand among the
filters. -/
def SpelledWithCounts (words : List String) (pairs : List (String × String)) : Prop :=
  ∃ before after front back, words = before ++ "--counts" :: after ∧ pairs = front ++ back ∧
    Spelled before front ∧ Spelled after back

theorem SpelledWithCounts.exists_scan (h : SpelledWithCounts words pairs) :
    ∃ s, scan [filterForm, countsForm] words = some s ∧ s.arguments = [] ∧
      s.values filterForm.name = pairs.map keyValue ∧ s.has countsForm.name = true := by
  obtain ⟨before, after, front, back, rfl, rfl, hbefore, hafter⟩ := h
  have hword : Word.of [filterForm, countsForm] "--counts" = .option countsForm none := by
    simp [Word.of, namedWord, filterForm, countsForm]
  let behind := (Scanned.empty.withFilters back).withOption countsForm.name ""
  have hbehind : behind.values filterForm.name = back.map keyValue :=
    Scanned.values_empty_withFilters back
  refine ⟨behind.withFilters front, ?_, rfl, ?_, ?_⟩
  · rw [hbefore.scan_append, scan, hword, hafter.scan_eq]
    rfl
  · rw [Scanned.values_withFilters, hbehind, List.map_append]
  · simp [Scanned.has, Scanned.withFilters, Scanned.withOption, behind]

/-! ## Commands -/

theorem optionsOnly_of_scan {forms : List OptionForm} {s : Scanned} (hscan : scan forms words = some s)
    (hnone : s.arguments = []) : optionsOnly forms words = some s := by
  rw [optionsOnly, hscan, Option.filter_some, hnone]
  rfl

/-- The words that ask for the number of voters. -/
theorem parse_count (h : Spelled words pairs) :
    Command.parse ("query" :: "count" :: words) = .ok (.count (pairs.map keyValue)) := by
  have hleading : leading ("query" :: "count" :: words) = some ("query" :: "count" :: words) := rfl
  have hbehind : leading ("count" :: words) = some ("count" :: words) := rfl
  simp only [Command.parse, hleading, hbehind, Option.bind_some, Command.parseQuery,
    optionsOnly_of_scan (h.scan_eq []) rfl, Option.map_some, Scanned.values_empty_withFilters,
    Command.orLate]

/-- The words that ask for the counts of the combinations. -/
theorem parse_combinations (h : SpelledWithCounts words pairs) :
    Command.parse ("query" :: "combinations" :: words) =
      .ok (.combinations (pairs.map keyValue) true) := by
  have hleading : leading ("query" :: "combinations" :: words) =
      some ("query" :: "combinations" :: words) := rfl
  have hbehind : leading ("combinations" :: words) = some ("combinations" :: words) := rfl
  obtain ⟨s, hscan, hnone, hvalues, hhas⟩ := h.exists_scan
  simp only [Command.parse, hleading, hbehind, Option.bind_some, Command.parseQuery,
    optionsOnly_of_scan hscan hnone, Option.map_some, hvalues, hhas, Command.orLate]

end CommandLine

end Electorate
