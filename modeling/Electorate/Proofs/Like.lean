import Electorate.Filter.Constraint
import Mathlib.Data.List.Infix

/-!
# Patterns

The language of `LIKE` patterns: the percent sign stands for any text, the underscore for any
character, and a backslash takes the character after it as it is.

* `Like.items`: a pattern cut into its parts; `none` for one that ends in a lone backslash, which
  the database refuses.
* `Like.fits`: whether a text fits a pattern.
* `Like.fits_stem`: a text with its wild characters marked and a percent sign behind it fits the
  texts that start with it, and no others.
-/

namespace Electorate.Sql.Like

/-- A part of a pattern. -/
inductive Item where
  /-- Any text. -/
  | anything
  /-- Any character. -/
  | anyChar
  /-- This character. -/
  | just (c : Char)

/-- The parts of a pattern. -/
def items : List Char → Option (List Item)
  | [] => some []
  | c :: rest =>
    if c = '%' then (items rest).map (.anything :: ·)
    else if c = '_' then (items rest).map (.anyChar :: ·)
    else if c = Text.backslash then
      match rest with
      | [] => none
      | e :: rest => (items rest).map (.just e :: ·)
    else (items rest).map (.just c :: ·)

/-- Whether a text consists of the parts of a pattern. -/
def fitsItems : List Item → List Char → Bool
  | [], text => text.isEmpty
  | .anything :: rest, text => text.tails.any (fitsItems rest)
  | .anyChar :: rest, text => !text.isEmpty && fitsItems rest text.tail
  | .just c :: rest, text => text.head? == some c && fitsItems rest text.tail

/-- Whether a text fits a pattern. -/
def fits (pattern text : String) : Bool :=
  match items pattern.toList with
  | none => false
  | some parts => fitsItems parts text.toList

/-! ## Marked texts -/

/-- A character as a pattern that it alone fits. -/
def escapeChar (c : Char) : List Char :=
  if c = Text.backslash ∨ c = '%' ∨ c = '_' then [Text.backslash, c] else [c]

theorem toList_escapePattern (s : String) :
    (escapePattern s).toList = s.toList.flatMap escapeChar := by
  simp only [escapePattern, String.toList_ofList]
  rfl

theorem items_escapeChar (c : Char) (rest : List Char) :
    items (escapeChar c ++ rest) = (items rest).map (.just c :: ·) := by
  unfold escapeChar
  split
  · simp [items, Text.backslash]
  · next hc =>
    obtain ⟨hb, hp, hu⟩ : c ≠ Text.backslash ∧ c ≠ '%' ∧ c ≠ '_' := by simpa using hc
    rw [List.singleton_append, items.eq_def]
    simp [hb, hp, hu]

/-- A marked text is read as its characters, none of them wild. -/
theorem items_escaped (stem rest : List Char) :
    items (stem.flatMap escapeChar ++ rest) = (items rest).map (stem.map .just ++ ·) := by
  induction stem with
  | nil => simp
  | cons c stem ih =>
    rw [List.flatMap_cons, List.append_assoc, items_escapeChar, ih, Option.map_map]
    rfl

theorem fitsItems_stem (stem text : List Char) :
    fitsItems (stem.map .just ++ [.anything]) text = true ↔ stem <+: text := by
  induction stem generalizing text with
  | nil => simp [fitsItems, List.mem_tails]
  | cons c stem ih =>
    cases text with
    | nil => simp [fitsItems]
    | cons d text =>
      have hfirst : ((d :: text).head? == some c) = true ↔ c = d := by
        rw [List.head?_cons, beq_iff_eq, Option.some.injEq, eq_comm]
      rw [List.map_cons, List.cons_append, fitsItems, Bool.and_eq_true, hfirst, List.tail_cons, ih,
        List.cons_prefix_cons]

/-- A marked text with a percent sign behind it fits what starts with it. -/
theorem fits_stem (stem text : String) :
    fits (escapePattern stem ++ "%") text = true ↔ stem.toList <+: text.toList := by
  have hi : items (escapePattern stem ++ "%").toList =
      some (stem.toList.map .just ++ [.anything]) := by
    rw [String.toList_append, toList_escapePattern, items_escaped]
    rfl
  simp only [fits, hi, fitsItems_stem]

end Electorate.Sql.Like
