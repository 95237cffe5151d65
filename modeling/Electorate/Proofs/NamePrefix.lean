import Electorate.Proofs.Meaning

/-!
# Names that start with a text

A text is made a pattern by marking its wild characters, and the pattern is read by `LIKE`. What
comes out is that no character of the text is wild.

* `Like.Matches`: which texts a pattern stands for, one rule for each kind of character.
* `Like.fits_iff_matches`: the search through the parts of a pattern finds these texts.
* `Like.mark`, `Like.escapePattern_eq_mark`: the wild characters are marked in one pass as they are
  one after the other, the backslash first.
* `eval_startsWith`: the condition is true of the names that start with the text, false of the
  others and unknown where there is no name.
-/

namespace Electorate.Sql

namespace Like

variable {pattern text : List Char} {parts : List Item}

/-- The texts that a pattern stands for. The percent sign stands for any characters, the underscore
for any one, the backslash for the character behind it, and every other character for itself. -/
inductive Matches : List Char → List Char → Prop where
  | nil : Matches [] []
  | anything {pattern text : List Char} (skipped : List Char) (h : Matches pattern text) :
      Matches ('%' :: pattern) (skipped ++ text)
  | anyChar {pattern text : List Char} (c : Char) (h : Matches pattern text) :
      Matches ('_' :: pattern) (c :: text)
  | marked {pattern text : List Char} (c : Char) (h : Matches pattern text) :
      Matches (Text.backslash :: c :: pattern) (c :: text)
  | plain {pattern text : List Char} {c : Char} (hp : c ≠ '%') (hu : c ≠ '_')
      (hb : c ≠ Text.backslash) (h : Matches pattern text) : Matches (c :: pattern) (c :: text)

/-! ## Parts -/

theorem items_anything (rest : List Char) :
    items ('%' :: rest) = (items rest).map (.anything :: ·) := by
  rw [items.eq_def]
  exact if_pos rfl

theorem items_anyChar (rest : List Char) :
    items ('_' :: rest) = (items rest).map (.anyChar :: ·) := by
  rw [items.eq_def]
  rfl

theorem items_marked (c : Char) (rest : List Char) :
    items (Text.backslash :: c :: rest) = (items rest).map (.just c :: ·) := by
  rw [items.eq_def]
  rfl

theorem items_plain {c : Char} (hp : c ≠ '%') (hu : c ≠ '_') (hb : c ≠ Text.backslash)
    (rest : List Char) : items (c :: rest) = (items rest).map (.just c :: ·) := by
  rw [items.eq_def]
  simp only [if_neg hp, if_neg hu, if_neg hb]

theorem fitsItems_anything {text : List Char} :
    fitsItems (.anything :: parts) text = true ↔
      ∃ skipped rest, text = skipped ++ rest ∧ fitsItems parts rest = true := by
  rw [fitsItems, List.any_eq_true]
  constructor
  · rintro ⟨rest, hrest, hfits⟩
    obtain ⟨skipped, rfl⟩ := (List.mem_tails _ _).mp hrest
    exact ⟨skipped, rest, rfl, hfits⟩
  · rintro ⟨skipped, rest, rfl, hfits⟩
    exact ⟨rest, (List.mem_tails _ _).mpr ⟨skipped, rfl⟩, hfits⟩

theorem fitsItems_anyChar {text : List Char} :
    fitsItems (.anyChar :: parts) text = true ↔
      ∃ c rest, text = c :: rest ∧ fitsItems parts rest = true := by
  cases text <;> simp [fitsItems]

theorem fitsItems_just {c : Char} {text : List Char} :
    fitsItems (.just c :: parts) text = true ↔
      ∃ rest, text = c :: rest ∧ fitsItems parts rest = true := by
  cases text <;> simp [fitsItems]

/-- The parts of a pattern fit no texts but those that it stands for. -/
theorem matches_of_fitsItems (hparts : items pattern = some parts)
    (hfits : fitsItems parts text = true) : Matches pattern text := by
  -- The cases are the tests of `items` in their order: case 4 is a backslash with nothing behind it.
  induction pattern using items.induct generalizing parts text with
  | case1 =>
    cases hparts
    rw [fitsItems, List.isEmpty_iff] at hfits
    exact hfits ▸ .nil
  | case2 rest ih =>
    rw [items_anything] at hparts
    obtain ⟨parts, hrest, rfl⟩ := Option.map_eq_some_iff.mp hparts
    obtain ⟨skipped, text, rfl, htext⟩ := fitsItems_anything.mp hfits
    exact .anything skipped (ih hrest htext)
  | case3 rest _ ih =>
    rw [items_anyChar] at hparts
    obtain ⟨parts, hrest, rfl⟩ := Option.map_eq_some_iff.mp hparts
    obtain ⟨c, text, rfl, htext⟩ := fitsItems_anyChar.mp hfits
    exact .anyChar c (ih hrest htext)
  | case4 => cases hparts
  | case5 c rest _ _ ih =>
    rw [items_marked] at hparts
    obtain ⟨parts, hrest, rfl⟩ := Option.map_eq_some_iff.mp hparts
    obtain ⟨text, rfl, htext⟩ := fitsItems_just.mp hfits
    exact .marked c (ih hrest htext)
  | case6 c rest hp hu hb ih =>
    rw [items_plain hp hu hb] at hparts
    obtain ⟨parts, hrest, rfl⟩ := Option.map_eq_some_iff.mp hparts
    obtain ⟨text, rfl, htext⟩ := fitsItems_just.mp hfits
    exact .plain hp hu hb (ih hrest htext)

/-- The parts of a pattern fit all texts that it stands for. -/
theorem exists_fitsItems_of_matches (h : Matches pattern text) :
    ∃ parts, items pattern = some parts ∧ fitsItems parts text = true := by
  induction h with
  | nil => exact ⟨[], rfl, rfl⟩
  | @anything pattern text skipped _ ih =>
    obtain ⟨parts, hparts, hfits⟩ := ih
    have hitems : items ('%' :: pattern) = some (.anything :: parts) := by
      rw [items_anything, hparts]
      rfl
    exact ⟨_, hitems, fitsItems_anything.mpr ⟨skipped, text, rfl, hfits⟩⟩
  | @anyChar pattern text c _ ih =>
    obtain ⟨parts, hparts, hfits⟩ := ih
    have hitems : items ('_' :: pattern) = some (.anyChar :: parts) := by
      rw [items_anyChar, hparts]
      rfl
    exact ⟨_, hitems, fitsItems_anyChar.mpr ⟨c, text, rfl, hfits⟩⟩
  | @marked pattern text c _ ih =>
    obtain ⟨parts, hparts, hfits⟩ := ih
    have hitems : items (Text.backslash :: c :: pattern) = some (.just c :: parts) := by
      rw [items_marked, hparts]
      rfl
    exact ⟨_, hitems, fitsItems_just.mpr ⟨text, rfl, hfits⟩⟩
  | @plain pattern text c hp hu hb _ ih =>
    obtain ⟨parts, hparts, hfits⟩ := ih
    have hitems : items (c :: pattern) = some (.just c :: parts) := by
      rw [items_plain hp hu hb, hparts]
      rfl
    exact ⟨_, hitems, fitsItems_just.mpr ⟨text, rfl, hfits⟩⟩

/-- A text fits a pattern exactly if the pattern stands for it. -/
theorem fits_iff_matches {pattern text : String} :
    fits pattern text = true ↔ Matches pattern.toList text.toList := by
  have hfits : fits pattern text = true ↔
      ∃ parts, items pattern.toList = some parts ∧ fitsItems parts text.toList = true := by
    unfold fits
    cases items pattern.toList <;> simp
  rw [hfits]
  constructor
  · rintro ⟨parts, hparts, h⟩
    exact matches_of_fitsItems hparts h
  · exact exists_fitsItems_of_matches

/-! ## Marks -/

/-- Puts a backslash in front of every occurrence of a character. -/
def mark (wild : Char) (cs : List Char) : List Char :=
  cs.flatMap fun c => if c = wild then [Text.backslash, c] else [c]

/-- The backslashes that mark percent signs and underscores are not marked again, because the
backslashes of the text are marked before. -/
theorem mark_mark_mark (cs : List Char) :
    mark '_' (mark '%' (mark Text.backslash cs)) = cs.flatMap escapeChar := by
  simp only [mark, List.flatMap_assoc]
  refine List.flatMap_congr fun c _ => ?_
  by_cases hb : c = Text.backslash
  · subst hb
    rfl
  · by_cases hp : c = '%'
    · subst hp
      rfl
    · by_cases hu : c = '_'
      · subst hu
        rfl
      · simp [escapeChar, hb, hp, hu]

theorem escapePattern_eq_mark (s : String) :
    (escapePattern s).toList = mark '_' (mark '%' (mark Text.backslash s.toList)) := by
  rw [toList_escapePattern, mark_mark_mark]

end Like

/-- A test of a changed value. -/
theorem Truth.ofTest_map (test : β → Bool) (f : α → β) (o : Option α) :
    ofTest test (o.map f) = ofTest (fun a => test (f a)) o := by
  cases o <;> rfl

open Predicate

theorem eval_like {w : World} {v : Voter} (t : TextTerm) (pattern : String) :
    (like t pattern).eval w v = .ofTest (Like.fits pattern) (t.eval w v) := rfl

/-- The condition that a column starts with a text is one pattern. It stands for the texts that
start with this text, both in upper case, whatever percent signs, underscores and backslashes there
are, and the database decides the condition accordingly. -/
theorem eval_startsWith (column : TextColumn) (stem : String) :
    ∃ pattern : String, startsWith column stem = .like (.upper column) pattern ∧
      pattern.toList =
        Like.mark '_' (Like.mark '%' (Like.mark Text.backslash (Text.upper stem).toList)) ++ ['%'] ∧
      (∀ value : String, Like.Matches pattern.toList (Text.upper value).toList ↔
        (Text.upper stem).toList <+: (Text.upper value).toList) ∧
      ∀ (w : World) (v : Voter), (startsWith column stem).eval w v =
        .ofTest (fun value => decide ((Text.upper stem).toList <+: (w.upper value).toList))
          (v.text column) := by
  have hfits : Like.fits (escapePattern (Text.upper stem) ++ "%") =
      fun text => decide ((Text.upper stem).toList <+: text.toList) := by
    funext text
    rw [Bool.eq_iff_iff, Like.fits_stem, decide_eq_true_iff]
  refine ⟨escapePattern (Text.upper stem) ++ "%", rfl, ?_, fun value => ?_, fun w v => ?_⟩
  · rw [String.toList_append, Like.escapePattern_eq_mark]
    rfl
  · rw [← Like.fits_iff_matches, Like.fits_stem]
  · rw [startsWith, eval_like, TextTerm.eval, hfits, Truth.ofTest_map]

end Electorate.Sql
