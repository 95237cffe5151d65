import Electorate.Proofs.Like
import Electorate.Proofs.Truth
import Electorate.Proofs.Voter

/-!
# The meaning of conditions

* `Predicate.eval`: what a condition says of a row of the voter file.
* `Predicate.Selects`: the condition is true of the row, so that the row is selected.

Each way to build a condition has one lemma that says which rows it selects:

* `selects_conj`, `selects_disj?`: conditions joined; `eval_conj` for what a conjunction says,
  `rejects_disj?` for a disjunction under a negation.
* `selects_matchText`, `selects_matchFolded`, `selects_startsWith`: texts.
* `selects_ofBracket`, `selects_ofAgeBucket`, `selects_inTract`: numbers. A bracket with rational
  ends is one test, of whether it contains the number (`eval_ofBracket`).
* `selects_eventHas`, `selects_votedInYears`: the history of a voter.
-/

namespace Electorate.Sql

/-- The text that is compared. -/
def TextTerm.eval (w : World) (v : Voter) : TextTerm → Option String
  | plain c => v.text c
  | upper c => (v.text c).map w.upper

/-- Tests of one number, all to be passed. -/
def passes (tests : List NumberTest) (o : Option Rat) : Truth :=
  .all ((tests.map fun t q => t.holds q).map fun test => .ofTest test o)

namespace Predicate

/-- What a condition says of a row. A list of alternatives is a disjunction of equations, also
where it is the answer of a query. A number is compared with the bound as it stands, not with what
the type of its placeholder would make of it: the cast to the type of scores, which `scoreBound`
asks for, changes no bound of the score ranges (`isScore_of_mem_scoreRanges`). -/
def eval (w : World) (v : Voter) : Predicate → Truth
  | always => .yes
  | equals t value => .ofTest (· == value) (t.eval w v)
  | oneOf t values => .any (values.map fun value => .ofTest (· == value) (t.eval w v))
  | differs c value => .ofTest (· != value) (v.text c)
  | like t pattern => .ofTest (Like.fits pattern) (t.eval w v)
  | notBlank c => .ofTest (fun s => s.toList.any (· != ' ')) (v.text c)
  | number c test => .ofTest (fun q => test.holds q) (v.number c)
  | inTract stat tests =>
    .any ((w.census.filter fun r => passes tests (r.figure stat) = .yes).map fun r =>
      .ofTest (· == r.tract) (v.text .censusTract))
  | isNull c => .ofBool (v.lacks c)
  | isNotNull c => .ofBool (!v.lacks c)
  | votedBefore day => .ofTest (fun d => d.before day) v.lastVote
  | eventHas field value =>
    .ofTest (fun events => events.contains (.list [.object [(field, .text value)]])) v.events
  | votedInYears years =>
    .ofTest (fun own => years.any fun year => own.contains (some year)) v.electionYears
  | moved m => .ofBool (v.moved m == some true)
  | inBox box => .ofTest (w.inBox box) v.place
  | near longitude latitude meters => .ofTest (w.near longitude latitude meters) v.place
  | not p => (p.eval w v).not
  | and p q => (p.eval w v).and (q.eval w v)
  | or p q => (p.eval w v).or (q.eval w v)

/-- A condition selects a row if it is true of it. -/
def Selects (w : World) (v : Voter) (p : Predicate) : Prop := p.eval w v = .yes

instance (w : World) (v : Voter) (p : Predicate) : Decidable (Selects w v p) :=
  inferInstanceAs (Decidable (p.eval w v = .yes))

/-- A condition rejects a row if it is false of it. -/
def Rejects (w : World) (v : Voter) (p : Predicate) : Prop := p.eval w v = .no

variable {w : World} {v : Voter}

/-! ## Connectives -/

@[simp] theorem selects_always : Selects w v always := rfl

theorem selects_and {p q : Predicate} :
    Selects w v (p.and q) ↔ Selects w v p ∧ Selects w v q := Truth.and_eq_yes

theorem selects_or {p q : Predicate} :
    Selects w v (p.or q) ↔ Selects w v p ∨ Selects w v q := Truth.or_eq_yes

theorem selects_not {p : Predicate} : Selects w v p.not ↔ Rejects w v p := Truth.not_eq_yes

theorem rejects_or {p q : Predicate} :
    Rejects w v (p.or q) ↔ Rejects w v p ∧ Rejects w v q := Truth.or_eq_no

/-- A conjunct that always holds may be left out. -/
theorem eval_both (p q : Predicate) : (p.both q).eval w v = (p.eval w v).and (q.eval w v) := by
  unfold both
  split
  · exact Truth.yes_and.symm
  · exact Truth.and_yes.symm
  · rfl

theorem selects_both {p q : Predicate} :
    Selects w v (p.both q) ↔ Selects w v p ∧ Selects w v q := by
  unfold Selects
  rw [eval_both, Truth.and_eq_yes]

/-- A property that an operation has where both sides have it, over a whole chain. -/
private theorem foldl_iff_forall {P : Predicate → Prop} {op : Predicate → Predicate → Predicate}
    (h : ∀ p q, P (op p q) ↔ P p ∧ P q) (p : Predicate) (ps : List Predicate) :
    P (ps.foldl op p) ↔ ∀ q ∈ p :: ps, P q := by
  induction ps generalizing p with
  | nil => simp
  | cons q qs ih =>
    rw [List.foldl_cons, ih, List.forall_mem_cons, List.forall_mem_cons, List.forall_mem_cons, h,
      and_assoc]

/-- A property that an operation has where one side has it, over a whole chain. -/
theorem foldl_iff_exists {P : Predicate → Prop} {op : Predicate → Predicate → Predicate}
    (h : ∀ p q, P (op p q) ↔ P p ∨ P q) (p : Predicate) (ps : List Predicate) :
    P (ps.foldl op p) ↔ ∃ q ∈ p :: ps, P q := by
  induction ps generalizing p with
  | nil => simp
  | cons q qs ih => simp only [List.foldl_cons, ih, List.exists_mem_cons_iff, h, or_assoc]

/-- A conjunction says of a row what its parts say together. -/
theorem eval_conj (ps : List Predicate) : (conj ps).eval w v = .all (ps.map (eval w v)) := by
  cases ps with
  | nil => rfl
  | cons p ps =>
    show (ps.foldl both p).eval w v = _
    -- The chain leans to the left, so that what was joined already varies along the induction.
    induction ps generalizing p with
    | nil => exact Truth.and_yes.symm
    | cons q qs ih =>
      rw [List.foldl_cons, ih, List.map_cons, Truth.all_cons, eval_both, Truth.and_assoc]
      rfl

/-- A conjunction selects what all its parts select. -/
theorem selects_conj {ps : List Predicate} :
    Selects w v (conj ps) ↔ ∀ p ∈ ps, Selects w v p := by
  rw [Selects, eval_conj, Truth.all_eq_yes, List.forall_mem_map]
  exact Iff.rfl

@[simp] theorem disj?_eq_none {ps : List Predicate} : disj? ps = none ↔ ps = [] := by
  cases ps <;> simp [disj?]

/-- A disjunction selects what one of its parts selects. -/
theorem selects_disj? {ps : List Predicate} {d : Predicate} (h : disj? ps = some d) :
    Selects w v d ↔ ∃ p ∈ ps, Selects w v p := by
  cases ps with
  | nil => cases h
  | cons p ps => cases h; exact foldl_iff_exists (fun _ _ => selects_or) p ps

/-- A disjunction rejects what all its parts reject. -/
theorem rejects_disj? {ps : List Predicate} {d : Predicate} (h : disj? ps = some d) :
    Rejects w v d ↔ ∀ p ∈ ps, Rejects w v p := by
  cases ps with
  | nil => cases h
  | cons p ps => cases h; exact foldl_iff_forall (fun _ _ => rejects_or) p ps

/-! ## Texts -/

theorem selects_equals {t : TextTerm} {value : String} :
    Selects w v (.equals t value) ↔ t.eval w v = some value := by
  show Truth.ofTest (· == value) (t.eval w v) = .yes ↔ _
  rw [Truth.ofTest_eq_yes]
  simp

theorem selects_differs {c : TextColumn} {value : String} :
    Selects w v (.differs c value) ↔ ∃ s, v.text c = some s ∧ s ≠ value := by
  show Truth.ofTest (· != value) (v.text c) = .yes ↔ _
  rw [Truth.ofTest_eq_yes]
  simp only [bne_iff_ne]

/-- The text is one of several. -/
theorem selects_matchText {t : TextTerm} {values : List String} :
    Selects w v (matchText t values) ↔ ∃ s, t.eval w v = some s ∧ s ∈ values := by
  unfold matchText
  split
  · simp [selects_equals]
  · have hone (value : String) : Truth.ofTest (· == value) (t.eval w v) = .yes ↔
        t.eval w v = some value := selects_equals
    show Truth.any (values.map fun value => .ofTest (· == value) (t.eval w v)) = .yes ↔ _
    rw [Truth.any_eq_yes, List.mem_map]
    simp only [hone]
    exact exists_congr fun value => and_comm

/-- The column has one of several texts, without regard to case. -/
theorem selects_matchFolded {c : TextColumn} {values : List String} :
    Selects w v (matchFolded c values) ↔
      ∃ s, v.text c = some s ∧ ∃ x ∈ values, w.upper s = Text.upper x := by
  unfold matchFolded
  rw [selects_matchText]
  simp only [TextTerm.eval, Option.map_eq_some_iff, mem_distinct, List.mem_map]
  constructor
  · rintro ⟨_, ⟨s, hs, rfl⟩, x, hx, he⟩
    exact ⟨s, hs, x, hx, he.symm⟩
  · rintro ⟨s, hs, x, hx, he⟩
    exact ⟨_, ⟨s, hs, rfl⟩, x, hx, he.symm⟩

/-- The column starts with a text, without regard to case. -/
theorem selects_startsWith {c : TextColumn} {stem : String} :
    Selects w v (startsWith c stem) ↔
      ∃ s, v.text c = some s ∧ (Text.upper stem).toList <+: (w.upper s).toList := by
  show Truth.ofTest (Like.fits _) (TextTerm.eval w v (.upper c)) = .yes ↔ _
  simp only [Truth.ofTest_eq_yes, TextTerm.eval, Option.map_eq_some_iff, Like.fits_stem]
  constructor
  · rintro ⟨_, ⟨s, hs, rfl⟩, h⟩
    exact ⟨s, hs, h⟩
  · rintro ⟨s, hs, h⟩
    exact ⟨_, ⟨s, hs, rfl⟩, h⟩

/-! ## Numbers -/

theorem selects_birthYear {c : Comparison} {bound : Int} :
    Selects w v (.number .birthYear (.compare c (.int bound))) ↔
      ∃ year, v.birthYear = some year ∧ c.holds year (.int bound) = true := by
  show Truth.ofTest (fun q => (NumberTest.compare c (.int bound)).holds q)
    (v.number .birthYear) = .yes ↔ _
  simp only [Truth.ofTest_eq_yes, Voter.number, NumberTest.holds, Option.map_eq_some_iff]
  constructor
  · rintro ⟨_, ⟨year, hy, rfl⟩, h⟩
    exact ⟨year, hy, h⟩
  · rintro ⟨year, hy, h⟩
    exact ⟨_, ⟨year, hy, rfl⟩, h⟩

/-- The tests of a bracket together ask whether the bracket contains the number. -/
theorem passes_bracketTests {b : NumericBracket} (hb : b.isRational = true) (o : Option Rat) :
    passes (bracketTests b) o = .ofTest (fun q => b.contains (.real q)) o := by
  unfold passes
  rw [Truth.all_ofTest (by simp [bracketTests_ne_nil])]
  congr 1
  funext q
  rw [Bool.eq_iff_iff, List.all_map, List.all_eq_true]
  exact bracketTests_hold_iff hb q

theorem passes_eq_yes {b : NumericBracket} (hb : b.isRational = true) {o : Option Rat} :
    passes (bracketTests b) o = .yes ↔ ∃ q, o = some q ∧ b.contains (.real q) = true := by
  rw [passes_bracketTests hb, Truth.ofTest_eq_yes]

/-- The condition of a bracket asks whether the bracket contains the number of the column. -/
theorem eval_ofBracket {b : NumericBracket} (hb : b.isRational = true) (c : NumberColumn) :
    (ofBracket c b).eval w v = .ofTest (fun q => b.contains (.real q)) (v.number c) := by
  rw [← passes_bracketTests hb, ofBracket, eval_conj, passes, List.map_map, List.map_map]
  rfl

/-- The column has a number in the bracket. -/
theorem selects_ofBracket {c : NumberColumn} {b : NumericBracket} (hb : b.isRational = true) :
    Selects w v (ofBracket c b) ↔
      ∃ q, v.number c = some q ∧ b.contains (.real q) = true := by
  rw [Selects, eval_ofBracket hb, Truth.ofTest_eq_yes]

/-- Some record of the voter's tract has a figure in the bracket. -/
theorem selects_inTract {stat : CensusStat} {b : NumericBracket} (hb : b.isRational = true) :
    Selects w v (.inTract stat (bracketTests b)) ↔
      ∃ r ∈ w.census, v.text .censusTract = some r.tract ∧
        ∃ q, r.figure stat = some q ∧ b.contains (.real q) = true := by
  show Truth.any ((w.census.filter fun r => passes (bracketTests b) (r.figure stat) = .yes).map
    fun r => .ofTest (· == r.tract) (v.text .censusTract)) = .yes ↔ _
  have htract (tract : String) : Truth.ofTest (· == tract) (v.text .censusTract) = .yes ↔
      v.text .censusTract = some tract := by
    rw [Truth.ofTest_eq_yes]
    simp
  rw [Truth.any_eq_yes, List.mem_map]
  simp only [List.mem_filter, decide_eq_true_eq, passes_eq_yes hb, htract, and_assoc]
  exact exists_congr fun r => and_congr_right' and_comm

/-- The birth year means an age in the bucket. -/
theorem selects_ofAgeBucket {b : AgeBucket} {year : Int} :
    Selects w v (ofAgeBucket b year) ↔ ∃ born, v.birthYear = some born ∧ b.Covers year born := by
  unfold ofAgeBucket AgeBucket.Covers AgeBucket.earliestBirthYear AgeBucket.latestBirthYear
  cases b.maxAge with
  | none => simp [selects_birthYear, holds_atMost]
  | some oldest =>
    simp only [Option.map_some, selects_and, selects_birthYear, holds_atMost, holds_atLeast,
      Option.some.injEq, forall_eq']
    constructor
    · -- Both bounds are about the one birth year of the voter.
      rintro ⟨⟨born, hborn, hlatest⟩, born', hborn', hearliest⟩
      obtain rfl : born = born' := Option.some.inj (hborn.symm.trans hborn')
      exact ⟨born, hborn, hlatest, hearliest⟩
    · rintro ⟨born, hborn, hlatest, hearliest⟩
      exact ⟨⟨born, hborn, hlatest⟩, born, hborn, hearliest⟩

/-! ## History -/

/-- An event of the voter has the text in the field. -/
theorem selects_eventHas {field value : String} :
    Selects w v (.eventHas field value) ↔
      ∃ events, v.events = some events ∧ events.HasEvent field value := by
  show Truth.ofTest (fun events => events.contains (.list [.object [(field, .text value)]]))
    v.events = .yes ↔ _
  simp only [Truth.ofTest_eq_yes, Json.contains_event]

/-- The voter has events, and none has the text in the field. -/
theorem rejects_eventHas {field value : String} :
    Rejects w v (.eventHas field value) ↔
      ∃ events, v.events = some events ∧ ¬events.HasEvent field value := by
  show Truth.ofTest (fun events => events.contains (.list [.object [(field, .text value)]]))
    v.events = .no ↔ _
  simp only [Truth.ofTest_eq_no, ← Json.contains_event, Bool.not_eq_true]

/-- The voter took part in an election of one of the years. -/
theorem selects_votedInYears {years : List Int} :
    Selects w v (.votedInYears years) ↔
      ∃ own, v.electionYears = some own ∧ ∃ year ∈ years, some year ∈ own := by
  show Truth.ofTest (fun own => years.any fun year => own.contains (some year))
    v.electionYears = .yes ↔ _
  simp [Truth.ofTest_eq_yes]

theorem selects_isNull {c : Column} : Selects w v (.isNull c) ↔ v.lacks c = true :=
  Truth.ofBool_eq_yes

theorem selects_votedBefore {day : Date} :
    Selects w v (.votedBefore day) ↔ ∃ d, v.lastVote = some d ∧ d.before day = true :=
  Truth.ofTest_eq_yes

theorem selects_moved {m : DistrictMove} :
    Selects w v (.moved m) ↔ v.moved m = some true := by
  show Truth.ofBool (v.moved m == some true) = .yes ↔ _
  rw [Truth.ofBool_eq_yes, beq_iff_eq]

/-- The voter has a place, and it lies in the box and near the center. -/
theorem selects_circle {c : Circle} :
    Selects w v c.predicate ↔ ∃ p, v.place = some p ∧ w.inBox c.boundingBox p = true ∧
      w.near c.longitude.toFloat c.latitude.toFloat c.radiusMeters p = true := by
  unfold Circle.predicate
  simp only [selects_conj, List.forall_mem_cons, List.not_mem_nil, false_imp_iff, implies_true,
    and_true]
  unfold Selects eval
  cases hplace : v.place with
  | none => simp [Truth.ofTest, Voter.lacks, hplace]
  | some p => simp [Truth.ofTest, Voter.lacks, hplace]

end Predicate

end Electorate.Sql
