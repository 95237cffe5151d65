import Electorate.Proofs.Voter
import Mathlib.Data.List.Pairwise
import Mathlib.Tactic.Linarith

/-!
# Tables of brackets

Which values the tables of brackets and of ages take up, and which they leave out.

* `Tiles`: the rows of a table follow one another without a gap. A value between the ends of the
  table lies in exactly one row, any other value in none (`Tiles.countP_within`,
  `Tiles.countP_below`, `Tiles.countP_above`).
* `find?_eq_some_of_apart`, `eq_of_apart`: of rows with nothing in common one at most is found.
* `NumericBracket.contains_halfOpen`, `NumericBracket.contains_endless`,
  `NumericBracket.contains_scoreRange`: the numbers of a bracket.
* `isScore_of_mem_scoreRanges`: the ends of the ranges of scores are numbers of the type of scores.
* `AgeBucket.spans`: the birth years between the bounds of a bucket, which are those that mean an
  age of the bucket (`AgeBucket.spans_eq_includes`).
* `tables_cover`: every income, every share below a hundred per cent and every age but that of 24
  years lies in exactly one row of its table.
* `not_tables_cover`: the age of 24 years and a hundred per cent lie in none.
-/

namespace Electorate

/-! ## Rows without gaps -/

section

variable {α σ : Type} [LinearOrder σ] {holds : σ → α → Bool} {low high x : σ} {top : Option σ}
  {l : List α}

/-- The rows of a table follow one another: the first begins at `low`, each begins where the one
before it ends, and the last one ends at `top`, or nowhere. A row does not hold its upper end. -/
inductive Tiles (holds : σ → α → Bool) : σ → Option σ → List α → Prop
  | nil (low : σ) : Tiles holds low (some low) []
  | endless {low : σ} {a : α} (h : ∀ x, holds x a = true ↔ low ≤ x) : Tiles holds low none [a]
  | cons {low high : σ} {top : Option σ} {a : α} {l : List α}
      (h : ∀ x, holds x a = true ↔ low ≤ x ∧ x < high) (hle : low ≤ high)
      (rest : Tiles holds high top l) : Tiles holds low top (a :: l)

namespace Tiles

/-- No row holds a value below the first one. -/
theorem countP_below (h : Tiles holds low top l) (hx : x < low) : l.countP (holds x) = 0 := by
  induction h with
  | nil => rfl
  | endless hiff =>
    rw [List.countP_eq_zero, List.forall_mem_singleton, hiff]
    exact hx.not_ge
  | cons hiff hle rest ih =>
    rw [List.countP_cons_of_neg fun hin => hx.not_ge ((hiff x).mp hin).1]
    exact ih (hx.trans_le hle)

theorem le_top (h : Tiles holds low (some high) l) : low ≤ high := by
  generalize htop : some high = top at h
  induction h with
  | nil => exact (Option.some.inj htop).ge
  | endless => cases htop
  | cons hiff hle rest ih => exact hle.trans (ih htop)

/-- No row holds a value from the end of the last one on. -/
theorem countP_above (h : Tiles holds low (some high) l) (hx : high ≤ x) :
    l.countP (holds x) = 0 := by
  generalize htop : some high = top at h
  induction h with
  | nil => rfl
  | endless => cases htop
  | cons hiff hle rest ih =>
    subst htop
    have hout : ¬holds x _ = true := fun hin =>
      ((hiff x).mp hin).2.not_ge (rest.le_top.trans hx)
    rw [List.countP_cons_of_neg hout]
    exact ih rfl

/-- A value between the ends of the table lies in exactly one row. -/
theorem countP_within (h : Tiles holds low top l) (hlow : low ≤ x)
    (htop : ∀ t, top = some t → x < t) : l.countP (holds x) = 1 := by
  induction h with
  | nil low => exact absurd (htop low rfl) hlow.not_gt
  | endless hiff =>
    rw [List.countP_cons_of_pos ((hiff x).mpr hlow)]
    rfl
  | @cons _ mid _ _ _ hiff hle rest ih =>
    rcases lt_or_ge x mid with hx | hx
    · have hin : holds x _ = true := (hiff x).mpr ⟨hlow, hx⟩
      rw [List.countP_cons_of_pos hin, rest.countP_below hx]
    · have hout : ¬holds x _ = true := fun hin => ((hiff x).mp hin).2.not_ge hx
      rw [List.countP_cons_of_neg hout]
      exact ih hx htop

end Tiles

end

/-! ## Rows with nothing in common -/

section

variable {α : Type} {l : List α} {a b : α}

/-- Of rows with nothing in common, the one that passes a test is found. -/
theorem find?_eq_some_of_apart {p : α → Bool}
    (h : l.Pairwise fun a b => ¬(p a = true ∧ p b = true)) (ha : a ∈ l) (hp : p a = true) :
    l.find? p = some a := by
  induction l with
  | nil => cases ha
  | cons c l ih =>
    obtain ⟨hc, hl⟩ := List.pairwise_cons.mp h
    rcases List.mem_cons.mp ha with rfl | ha
    · exact List.find?_cons_of_pos hp
    · rw [List.find?_cons_of_neg fun hin => hc a ha ⟨hin, hp⟩]
      exact ih hl ha

/-- No two of such rows have a property of that kind. -/
theorem eq_of_apart {P : α → Prop} (h : l.Pairwise fun a b => ¬(P a ∧ P b)) (ha : a ∈ l)
    (hb : b ∈ l) (hPa : P a) (hPb : P b) : a = b := by
  by_contra hne
  have : Std.Symm fun a b : α => ¬(P a ∧ P b) := ⟨fun _ _ h h' => h h'.symm⟩
  exact h.forall ha hb hne ⟨hPa, hPb⟩

end

/-! ## Brackets -/

namespace Number

variable {n : Number} {q : Rat}

/-- A rational number compares as its value does, whether or not it is written as an integer. -/
theorem lt_congr (hn : n.rational? = some q) (m : Number) : n.lt m = (real q).lt m := by
  cases n <;> cases hn <;> cases m <;> simp [lt]

theorem same_congr (hn : n.rational? = some q) (m : Number) : n.same m = (real q).same m := by
  cases n <;> cases hn <;> cases m <;> simp [same]

end Number

namespace NumericBracket

variable {key label : String} {low high : Int} {q : Rat}

theorem contains_congr {n : Number} (hn : n.rational? = some q) (b : NumericBracket) :
    b.contains n = b.contains (.real q) := by
  simp only [contains, Number.le, Number.lt_congr hn, Number.same_congr hn]

theorem contains_halfOpen : (halfOpen key label low high).contains (.real q) = true ↔
    (low : Rat) ≤ q ∧ q < (high : Rat) := by
  simp [contains, halfOpen, Number.lt]

theorem contains_endless :
    NumericBracket.contains ⟨key, label, .int low, none, false⟩ (.real q) = true ↔
      (low : Rat) ≤ q := by
  simp [contains, Number.lt]

theorem contains_scoreRange : (scoreRange key label low high).contains (.real q) = true ↔
    (low : Rat) / 10 ≤ q ∧ q ≤ (high : Rat) / 10 := by
  simp [contains, scoreRange, tenths, Number.lt, Number.le, Number.same, le_iff_lt_or_eq]

/-- Two ranges of scores of which one ends before the other begins. -/
theorem apart_scoreRange {key' label' : String} {low' high' : Int} (h : high < low') :
    ¬((scoreRange key label low high).contains (.real q) = true ∧
      (scoreRange key' label' low' high').contains (.real q) = true) := by
  rw [contains_scoreRange, contains_scoreRange]
  rintro ⟨⟨-, hend⟩, hbegin, -⟩
  have hlt : (high : Rat) < low' := Rat.intCast_lt_intCast.mpr h
  linarith

/-- Whether a bracket holds a rational number. -/
def holds (q : Rat) (b : NumericBracket) : Bool := b.contains (.real q)

/-- A bracket without its upper end, in front of those that begin there. -/
theorem tiles_halfOpen {top : Option Rat} {l : List NumericBracket} (hle : low ≤ high)
    (rest : Tiles holds (high : Rat) top l) :
    Tiles holds (low : Rat) top (halfOpen key label low high :: l) :=
  .cons (fun _ => contains_halfOpen) (Rat.intCast_le_intCast.mpr hle) rest

end NumericBracket

section

open NumericBracket

variable {q : Rat}

theorem tiles_incomeBrackets : Tiles holds ((0 : Int) : Rat) none incomeBrackets :=
  tiles_halfOpen (by decide) <| tiles_halfOpen (by decide) <| tiles_halfOpen (by decide) <|
    tiles_halfOpen (by decide) <| tiles_halfOpen (by decide) <| tiles_halfOpen (by decide) <|
      tiles_halfOpen (by decide) <| .endless fun _ => contains_endless

theorem tiles_educationBrackets :
    Tiles holds ((0 : Int) : Rat) (some ((100 : Int) : Rat)) educationBrackets :=
  tiles_halfOpen (by decide) <| tiles_halfOpen (by decide) <| tiles_halfOpen (by decide) <|
    tiles_halfOpen (by decide) <| tiles_halfOpen (by decide) <| tiles_halfOpen (by decide) (.nil _)

theorem tiles_unemploymentBrackets :
    Tiles holds ((0 : Int) : Rat) (some ((100 : Int) : Rat)) unemploymentBrackets :=
  tiles_halfOpen (by decide) <| tiles_halfOpen (by decide) <| tiles_halfOpen (by decide) <|
    tiles_halfOpen (by decide) <| tiles_halfOpen (by decide) <| tiles_halfOpen (by decide) <|
      tiles_halfOpen (by decide) (.nil _)

/-- Each range of scores ends before the next one begins. -/
theorem scoreRanges_apart : scoreRanges.Pairwise fun a b =>
    ¬(a.contains (.real q) = true ∧ b.contains (.real q) = true) := by
  simp only [scoreRanges, List.pairwise_cons, List.forall_mem_cons, List.not_mem_nil,
    false_imp_iff, implies_true, and_true, List.Pairwise.nil]
  repeat' apply And.intro
  all_goals exact apart_scoreRange (by decide)

/-- A bound that the type of scores keeps as it is: tenths of at most three digits. -/
def IsScore (n : Number) : Prop := ∃ k : Int, n = tenths k ∧ k.natAbs < 1000

/-- A cast to the type of scores changes no end of a range of scores. -/
theorem isScore_of_mem_scoreRanges {b : NumericBracket} (hb : b ∈ scoreRanges) :
    IsScore b.minimum ∧ ∀ top ∈ b.maximum, IsScore top := by
  have hrange {key label : String} {low high : Int} (hlow : low.natAbs < 1000)
      (hhigh : high.natAbs < 1000) :
      IsScore (scoreRange key label low high).minimum ∧
        ∀ top ∈ (scoreRange key label low high).maximum, IsScore top :=
    ⟨⟨low, rfl, hlow⟩, fun _ htop => ⟨high, (Option.some.inj htop).symm, hhigh⟩⟩
  simp only [scoreRanges, List.mem_cons, List.not_mem_nil, or_false] at hb
  rcases hb with rfl | rfl | rfl | rfl | rfl <;> exact hrange (by decide) (by decide)

end

/-! ## Ages -/

namespace AgeBucket

variable {b : AgeBucket} {year born age : Int}

/-- Whether a birth year lies between the bounds of the bucket in a given year. -/
def spans (year born : Int) (b : AgeBucket) : Bool :=
  (b.earliestBirthYear year).all (· ≤ born) && born ≤ b.latestBirthYear year

/-- Whether an age lies in the bucket. -/
def includes (age : Int) (b : AgeBucket) : Bool := b.minAge ≤ age && b.maxAge.all (age ≤ ·)

/-- The bounds of a bucket are those of its ages. -/
theorem spans_eq_includes (b : AgeBucket) (year born : Int) :
    b.spans year born = b.includes (year - born) := by
  unfold spans includes earliestBirthYear latestBirthYear
  have hyoungest : decide (born ≤ year - b.minAge) = decide (b.minAge ≤ year - born) :=
    decide_eq_decide.mpr (by omega)
  have holdest : ∀ oldest : Int,
      decide (year - oldest ≤ born) = decide (year - born ≤ oldest) := fun _ =>
    decide_eq_decide.mpr (by omega)
  rw [Bool.and_comm, hyoungest]
  cases b.maxAge with
  | none => rfl
  | some oldest => exact congrArg _ (holdest oldest)

theorem includes_iff {key : String} {youngest oldest : Int} :
    AgeBucket.includes age ⟨key, youngest, some oldest⟩ = true ↔
      youngest ≤ age ∧ age < oldest + 1 := by
  rw [Int.lt_add_one_iff]
  simp [includes]

theorem includes_endless_iff {key : String} {youngest : Int} :
    AgeBucket.includes age ⟨key, youngest, none⟩ = true ↔ youngest ≤ age := by
  simp [includes]

/-- The first bucket stands alone: the next one does not begin where it ends. -/
theorem tiles_youngest : Tiles includes 18 (some 24) (ageBuckets.take 1) :=
  .cons (fun _ => includes_iff) (by decide) (.nil _)

theorem tiles_older : Tiles includes 25 none (ageBuckets.drop 1) :=
  .cons (fun _ => includes_iff) (by decide) <| .cons (fun _ => includes_iff) (by decide) <|
    .cons (fun _ => includes_iff) (by decide) <| .endless fun _ => includes_endless_iff

/-- From 18 on, an age lies in exactly one bucket, but for the age between the first bucket and the
others. -/
theorem countP_includes (h : 18 ≤ age) :
    ageBuckets.countP (includes age) = if age = 24 then 0 else 1 := by
  -- The buckets follow one another on either side of the age that is left out.
  rw [← List.take_append_drop 1 ageBuckets, List.countP_append]
  rcases lt_trichotomy age 24 with hlt | rfl | hgt
  · rw [tiles_youngest.countP_within h (by simpa using hlt), tiles_older.countP_below (by omega),
      if_neg (by omega)]
  · rw [tiles_youngest.countP_above le_rfl, tiles_older.countP_below (by decide), if_pos rfl]
  · rw [tiles_youngest.countP_above hgt.le, tiles_older.countP_within (by omega) (by simp),
      if_neg (by omega)]

end AgeBucket

/-- Each bucket ends before the next one begins. -/
theorem ageBuckets_apart {year born : Int} : ageBuckets.Pairwise fun a b =>
    ¬(a.Covers year born ∧ b.Covers year born) := by
  have hends : ageBuckets.Pairwise fun a b => a.maxAge.any (· < b.minAge) = true := by decide
  refine hends.imp fun {a b} hab => ?_
  rintro ⟨⟨-, hlow⟩, hhigh, -⟩
  obtain ⟨oldest, hmax, hlt⟩ := (Option.any_eq_true _ _).mp hab
  have hfirst := hlow oldest hmax
  have hage : oldest < b.minAge := by simpa using hlt
  omega

/-! ## The tables -/

/-- Every income from zero on lies in exactly one bracket, and so does every share from zero to a
hundred per cent that is not a hundred. A birth year of someone of 18 years or more lies between the
bounds of exactly one bucket of ages, but for the age of 24 years, which no bucket has. -/
theorem tables_cover :
    (∀ (n : Number) (q : Rat), n.rational? = some q → 0 ≤ q →
      incomeBrackets.countP (·.contains n) = 1) ∧
    (∀ (n : Number) (q : Rat), n.rational? = some q → 0 ≤ q → q < 100 →
      educationBrackets.countP (·.contains n) = 1 ∧
      unemploymentBrackets.countP (·.contains n) = 1) ∧
    (∀ year born : Int, 18 ≤ year - born →
      ageBuckets.countP (AgeBucket.spans year born) = if year - born = 24 then 0 else 1) := by
  have hvalue {n : Number} {q : Rat} (hn : n.rational? = some q) :
      (fun b : NumericBracket => b.contains n) = NumericBracket.holds q :=
    funext fun b => b.contains_congr hn
  refine ⟨fun n q hn hlow => ?_, fun n q hn hlow htop => ?_, fun year born hage => ?_⟩
  · rw [hvalue hn]
    exact tiles_incomeBrackets.countP_within (by exact_mod_cast hlow) (by simp)
  · have hends : ∀ t, some ((100 : Int) : Rat) = some t → q < t := by
      rintro t ⟨⟩
      exact_mod_cast htop
    rw [hvalue hn]
    exact ⟨tiles_educationBrackets.countP_within (by exact_mod_cast hlow) hends,
      tiles_unemploymentBrackets.countP_within (by exact_mod_cast hlow) hends⟩
  · have hspans : AgeBucket.spans year born = AgeBucket.includes (year - born) :=
      funext fun b => b.spans_eq_includes year born
    rw [hspans]
    exact AgeBucket.countP_includes hage

/-- The lower end of a bracket, a share shortly below a hundred per cent, and the two ages beside
the one that is left out. -/
theorem tables_cover_ends :
    incomeBrackets.countP (·.contains (.int 25000)) = 1 ∧
    educationBrackets.countP (·.contains (.real (999 / 10))) = 1 ∧
    unemploymentBrackets.countP (·.contains (.real (999 / 10))) = 1 ∧
    ageBuckets.countP (AgeBucket.spans 2024 2001) = 1 ∧
    ageBuckets.countP (AgeBucket.spans 2024 1999) = 1 := by
  have hshare := tables_cover.2.1 (.real (999 / 10)) (999 / 10) rfl (by norm_num) (by norm_num)
  exact ⟨tables_cover.1 (.int 25000) 25000 rfl (by norm_num), hshare.1, hshare.2,
    tables_cover.2.2 2024 2001 (by decide), tables_cover.2.2 2024 1999 (by decide)⟩

/-- Somebody born in 2000 is in no bucket in 2024, and a hundred per cent are in no bracket. -/
theorem not_tables_cover :
    (18 ≤ (2024 : Int) - 2000 ∧ ageBuckets.countP (AgeBucket.spans 2024 2000) = 0) ∧
    educationBrackets.countP (·.contains (.int 100)) = 0 ∧
    unemploymentBrackets.countP (·.contains (.int 100)) = 0 := by
  decide

end Electorate
