import Electorate.Proofs.NearestDouble
import Electorate.Proofs.Traversal
import Electorate.Web.Response

/-!
# Answers of the right kind

What a store answers that keeps to the types of the voter file: texts where there are texts, whole
numbers where voters are counted, and numbers within the range of doubles. Everything that is made
of such an answer can be read, and every double in it is finite.

* `Cell.IsText`, `Cell.IsWhole`, `Cell.IsNumber`, `Cell.IsDate`, `Cell.Nullable`: the kinds of cells.
* `VoterRow.WellTyped`, `Answer.Suits`, `Outcome.Suits`: rows, answers and outcomes.
* `isFinite_toFloat`, `isFinite_roundToTenth`: numbers as doubles.
* `VoterSummary.exists_ofRow`, `exists_readStats`, `exists_readYearCounts`, ...: one lemma for each
  reader.
* `isSendable_summaryJson`, `exists_lookupJson`, ...: the JSON values of what was read.
-/

namespace Electorate

open Electorate.Number (greatestDouble nearestFloat)

/-! ## Kinds of cells -/

namespace Store

namespace Cell

def IsText (c : Cell) : Prop := ∃ s, c = .text s

def IsWhole (c : Cell) : Prop := ∃ n, c = .int n

def IsDate (c : Cell) : Prop := ∃ d, c = .date d

/-- A number that does not lie beyond the greatest double. -/
def IsNumber : Cell → Prop
  | int n | decimal (.int n) => n.natAbs ≤ greatestDouble
  | decimal (.real q) => |q| ≤ greatestDouble
  | float x => x.isFinite = true
  | _ => False

/-- An empty cell or one of a kind. -/
def Nullable (kind : Cell → Prop) (c : Cell) : Prop := c = .null ∨ kind c

end Cell

/-- The text columns that no row leaves empty. -/
def requiredTexts : List Sql.TextColumn :=
  [.registrationNumber, .status, .lastName, .firstName, .countyName]

/-- A row with cells of the kinds that the columns of the voter file have. -/
structure VoterRow.WellTyped (row : VoterRow) : Prop where
  id : ∃ s digits, row.cell .id = .text s ∧ Roster.idDigits s.toList = some digits
  texts : ∀ c, (row.cell (.text c)).Nullable Cell.IsText
  required : ∀ c ∈ requiredTexts, (row.cell (.text c)).IsText
  birthYear : (row.cell .birthYear).Nullable Cell.IsWhole
  score : (row.cell .score).Nullable Cell.IsNumber
  lastVoteDate : (row.cell .lastVoteDate).Nullable Cell.IsDate

/-- The answer has the form that the statement asks for. -/
def Answer.Suits (a : Answer) : Sql.Statement → Prop
  | .count _ => a.scalar.IsWhole
  | .countByYear _ _ => ∀ row ∈ a.rows, ∃ y n : Int, row = [.int y, .int n]
  | .countByCategory _ _ => ∀ row ∈ a.rows, ∃ c n, row = [c, .int n] ∧ c.Nullable Cell.IsText
  | .distinctValues _ => ∀ row ∈ a.rows, ∃ c, row = [c] ∧ c.IsText
  | .averageScore _ => ∃ c n, a.firstRow = [c, .int n] ∧ c.Nullable Cell.IsNumber
  | .voters _ _ _ => ∀ row ∈ a.voters, row.WellTyped

/-- The answer has the form that the statement asks for, or there is a fault that is none of a
value. -/
def Outcome.Suits (s : Sql.Statement) : Outcome → Prop
  | .ok a => a.Suits s
  | .error f => f.kind ≠ .value

/-- The answer that says nothing suits every statement. -/
theorem Answer.nothing_suits (s : Sql.Statement) : Answer.nothing.Suits s := by
  cases s with
  | count => exact ⟨0, rfl⟩
  | averageScore => exact ⟨.null, 0, rfl, .inl rfl⟩
  | countByYear | countByCategory | distinctValues | voters => simp [Suits, Answer.nothing]

end Store

open Electorate.Store

/-! ## Numbers as doubles -/

theorem Store.Cell.IsNumber.natAbs_num_le {q : Rat} (h : (Cell.decimal (.real q)).IsNumber) :
    q.num.natAbs ≤ greatestDouble * q.den := by
  have hden : (0 : Rat) < q.den := by exact_mod_cast q.den_pos
  have habs : |q| = q.num.natAbs / q.den := by
    rw [← Rat.num_div_den q, abs_div, Nat.abs_cast, Nat.cast_natAbs, Int.cast_abs,
      Rat.num_div_den]
  have hle : |q| ≤ greatestDouble := h
  rw [habs, div_le_iff₀ hden] at hle
  exact_mod_cast hle

theorem isFinite_toFloat {n : Number} (h : (Cell.decimal n).IsNumber) :
    n.toFloat.isFinite = true := by
  cases n with
  | int n =>
    rw [Number.toFloat]
    exact Number.isFinite_nearestFloat_of_le _ one_pos (by rw [mul_one]; exact h)
  | real q =>
    rw [Number.toFloat]
    exact Number.isFinite_nearestFloat_of_le _ q.den_pos h.natAbs_num_le
  | infinite | nan => exact h.elim

/-- A number within the range of doubles is read as a finite double. -/
theorem Store.Cell.IsNumber.exists_readFloat {c : Cell} (h : c.IsNumber) :
    ∃ x, c.readFloat = .ok x ∧ x.isFinite = true := by
  cases c with
  | int n =>
    have hfinite : (nearestFloat (n < 0) n.natAbs 1).isFinite = true :=
      isFinite_toFloat (n := .int n) h
    exact ⟨_, if_neg (Number.not_isInf_of_isFinite hfinite), hfinite⟩
  | float x => exact ⟨x, rfl, h⟩
  | decimal n => exact ⟨_, rfl, isFinite_toFloat h⟩
  | null | bool | text | date => exact h.elim

theorem value_le_greatestDouble {b : Number.Binary} (hmantissa : b.mantissa < 2 ^ 53)
    (hexponent : b.exponent ≤ 971) : (b.num / b.den : Rat) ≤ greatestDouble := by
  rw [Number.num_div_den, Number.greatestDouble_eq]
  have hmantissa' : (b.mantissa : Rat) ≤ ((2 ^ 53 - 1 : Nat) : Rat) := by
    exact_mod_cast Nat.le_sub_one_of_lt hmantissa
  exact mul_le_mul hmantissa' (zpow_le_zpow_right₀ one_le_two hexponent) (by positivity)
    (Nat.cast_nonneg _)

theorem length_toDigits_tenths {digits : Nat} (h : digits ≤ greatestDouble * 10) :
    (Nat.toDigits 10 digits).length ≤ 310 := by
  rw [Nat.length_toDigits_le_iff (by decide) (by decide)]
  refine h.trans_lt ?_
  decide +kernel

theorem isFinite_tenths (negative : Bool) {digits : Nat} (h : digits ≤ greatestDouble * 10) :
    (Number.Decimal.toFloat ⟨negative, digits, -1⟩).isFinite = true := by
  have hlength := length_toDigits_tenths h
  have hleading : ¬310 < (Number.Decimal.mk negative digits (-1)).leading := by
    simp only [Number.Decimal.leading]
    omega
  rw [Number.Decimal.toFloat, if_neg hleading]
  split
  · exact Number.isFinite_nearestFloat_of_le _ one_pos (Nat.zero_le _)
  · show (nearestFloat negative (digits * 1) 10).isFinite = true
    rw [mul_one]
    exact Number.isFinite_nearestFloat_of_le _ (by decide) h

/-- A finite double is finite when it is rounded to one place. -/
theorem isFinite_roundToTenth {x : Float} (h : x.isFinite = true) :
    (Roster.roundToTenth x).isFinite = true := by
  obtain ⟨hnot, -⟩ | ⟨-, b, hb, hmantissa, -, hexponent⟩ := Number.ofFloat?_cases x
  · rw [h] at hnot
    cases hnot
  · have hle := value_le_greatestDouble hmantissa hexponent
    have hden : 0 < b.den := Nat.two_pow_pos _
    have hdigits : Number.roundHalfEven (10 * b.num) b.den ≤ greatestDouble * 10 := by
      refine Number.roundHalfEven_le hden ?_
      push_cast
      rw [mul_div_assoc, mul_comm]
      exact mul_le_mul_of_nonneg_right hle (by norm_num)
    simp only [Roster.roundToTenth, hb]
    exact isFinite_tenths b.negative hdigits

/-! ## Fields -/

namespace Store.Cell

variable {c : Cell}

theorem optional_cases (read : Cell → Except FieldFault α) (c : Cell) :
    Cell.optional read c = .ok none ∨ Cell.optional read c = (read c).map some := by
  cases c with
  | null => exact .inl rfl
  | bool | int | float | decimal | text | date => exact .inr rfl

/-- A field that may be empty is read where the kind of the cell can be read. -/
theorem Nullable.exists_optional {kind : Cell → Prop} {read : Cell → Except FieldFault α}
    (h : c.Nullable kind) (hread : kind c → ∃ a, read c = .ok a) :
    ∃ v, Cell.optional read c = .ok v ∧ ∀ a ∈ v, read c = .ok a := by
  obtain rfl | hkind := h
  · exact ⟨none, rfl, nofun⟩
  · obtain ⟨a, ha⟩ := hread hkind
    obtain hnone | hsome := optional_cases read c
    · exact ⟨none, hnone, nofun⟩
    · rw [ha] at hsome
      exact ⟨some a, hsome, fun b hb => Option.some.inj hb ▸ ha⟩

theorem IsText.exists_formText (h : c.IsText) : ∃ s, c.formText = .ok s := by
  obtain ⟨s, rfl⟩ := h
  exact ⟨s, rfl⟩

theorem IsWhole.exists_formWhole (h : c.IsWhole) : ∃ n, c.formWhole = .ok n := by
  obtain ⟨n, rfl⟩ := h
  exact ⟨n, rfl⟩

theorem IsDate.exists_readDate (h : c.IsDate) : ∃ d, Roster.readDate c = .ok d := by
  obtain ⟨d, rfl⟩ := h
  exact ⟨d, rfl⟩

theorem IsNumber.exists_formNumber (h : c.IsNumber) :
    ∃ x, c.formNumber = .ok x ∧ x.isFinite = true := by
  obtain ⟨x, hx, hfinite⟩ := h.exists_readFloat
  have hform : c.formNumber = c.readFloat.mapError fun _ => .realType := by
    cases c with
    | int | float | decimal => rfl
    | null | bool | text | date => exact h.elim
  rw [hx] at hform
  exact ⟨x, hform, hfinite⟩

theorem Nullable.isFinite_of_formNumber (h : c.Nullable IsNumber) {x : Float}
    (hx : c.formNumber = .ok x) : x.isFinite = true := by
  obtain rfl | hnumber := h
  · cases hx
  · obtain ⟨y, hy, hfinite⟩ := hnumber.exists_formNumber
    rw [hx] at hy
    exact Except.ok.inj hy ▸ hfinite

end Store.Cell

/-! ## Rows -/

namespace Roster

/-- The address of a well-typed row is read. -/
theorem exists_residenceOfRow {row : VoterRow} (h : row.WellTyped) :
    ∃ f, VoterSummary.residenceOfRow row = .value f := by
  have herrors : (AddressPart.all.flatMap fun p =>
      (Form.Checked.field [(Sql.Column.text (.residence p)).name]
        (Cell.optional Cell.formText (row.cell (.text (.residence p))))).errors) = [] := by
    refine List.flatMap_eq_nil_iff.2 fun p _ => ?_
    obtain ⟨v, hv, -⟩ := (h.texts (.residence p)).exists_optional Cell.IsText.exists_formText
    rw [hv, Form.Checked.field_ok, Form.Checked.errors_value]
  rw [VoterSummary.residenceOfRow, herrors]
  exact ⟨_, rfl⟩

/-- A well-typed row has a summary, and its score is finite. -/
theorem VoterSummary.exists_ofRow {row : VoterRow} (h : row.WellTyped) :
    ∃ v, VoterSummary.ofRow row = .value v ∧ ∀ x ∈ v.score, x.isFinite = true := by
  obtain ⟨s, digits, hs, hdigits⟩ := h.id
  have hid : readId (row.cell .id) = .ok (groupedId digits) := by rw [hs, readId, hdigits]
  have hrequired (c) (hc : c ∈ requiredTexts) :=
    (h.required c hc).exists_formText
  have htext (c) := (h.texts c).exists_optional Cell.IsText.exists_formText
  obtain ⟨registrationNumber, hregistrationNumber⟩ := hrequired .registrationNumber (by decide)
  obtain ⟨countyName, hcountyName⟩ := hrequired .countyName (by decide)
  obtain ⟨status, hstatus⟩ := hrequired .status (by decide)
  obtain ⟨lastName, hlastName⟩ := hrequired .lastName (by decide)
  obtain ⟨firstName, hfirstName⟩ := hrequired .firstName (by decide)
  obtain ⟨middleName, hmiddleName, -⟩ := htext .middleName
  obtain ⟨gender, hgender, -⟩ := htext .gender
  obtain ⟨race, hrace, -⟩ := htext .race
  obtain ⟨birthYear, hbirthYear, -⟩ := h.birthYear.exists_optional Cell.IsWhole.exists_formWhole
  obtain ⟨residence, hresidence⟩ := exists_residenceOfRow h
  obtain ⟨score, hscore, hread⟩ := h.score.exists_optional fun hnumber =>
    ⟨_, hnumber.exists_formNumber.choose_spec.1⟩
  obtain ⟨date, hdate, -⟩ := h.lastVoteDate.exists_optional Cell.IsDate.exists_readDate
  refine ⟨⟨groupedId digits, registrationNumber, countyName, status, lastName, firstName,
    middleName, birthYear, gender, race, residence, score, date⟩, ?_,
    fun x hx => h.score.isFinite_of_formNumber (hread x hx)⟩
  simp only [ofRow, hid, hregistrationNumber, hcountyName, hstatus, hlastName, hfirstName,
    hmiddleName, hgender, hrace, hbirthYear, hresidence, hscore, hdate, Form.Checked.field_ok,
    Form.Checked.map_value, Form.Checked.seq_value]

/-- The average of a suited answer is finite. -/
theorem exists_readStats {c : Cell} {n : Int} (h : c.Nullable Cell.IsNumber) :
    ∃ s, readStats [c, .int n] = .ok s ∧ ∀ x ∈ s.score, x.isFinite = true := by
  have hcount : ∃ m, (Cell.int n).orZero = .ok m := by
    unfold Cell.orZero
    split <;> exact ⟨_, rfl⟩
  have hscore : ∃ v, readScore c = .ok v ∧ ∀ x ∈ v, x.isFinite = true := by
    obtain rfl | hnumber := h
    · exact ⟨none, rfl, nofun⟩
    · obtain ⟨x, hx, hfinite⟩ := hnumber.exists_readFloat
      have hread : readScore c = c.readFloat.map fun x => some (roundToTenth x) := by
        cases c with
        | null => exact hnumber.elim
        | bool | int | float | decimal | text | date => rfl
      rw [hx] at hread
      exact ⟨_, hread, fun y hy => Option.some.inj hy ▸ isFinite_roundToTenth hfinite⟩
  obtain ⟨m, hm⟩ := hcount
  obtain ⟨v, hv, hfinite⟩ := hscore
  refine ⟨⟨v, m⟩, ?_, hfinite⟩
  rw [readStats, hv, hm]
  rfl

end Roster

namespace Chart

/-- The group of a suited row is read. -/
theorem exists_ofRow {c : Cell} (h : c.Nullable Cell.IsText) (n : Int) :
    ∃ group, CategoryCount.ofRow [c, .int n] = .ok group := by
  obtain ⟨v, hv, -⟩ := h.exists_optional Cell.IsText.exists_formText
  refine ⟨⟨v, n⟩, ?_⟩
  rw [CategoryCount.ofRow, CategoryCount.ofCells, hv]
  rfl

/-- The counts of suited rows are read. -/
theorem exists_readYearCounts {rows : List Row}
    (h : ∀ row ∈ rows, ∃ y n : Int, row = [.int y, .int n]) :
    ∃ counts, readYearCounts rows = .ok counts := by
  obtain ⟨pairs, hpairs, -⟩ := exists_mapM_ok (f := readYearCount) (P := fun _ => True) (l := rows)
    fun row hrow => by
      obtain ⟨y, n, rfl⟩ := h row hrow
      exact ⟨(y, n), rfl, trivial⟩
  rw [readYearCounts, hpairs]
  exact ⟨_, rfl⟩

end Chart

/-- The values of suited rows are read, and all of them are texts. -/
theorem Roster.exists_mapM_firstCell {rows : List Row}
    (h : ∀ row ∈ rows, ∃ c, row = [c] ∧ c.IsText) :
    ∃ cells, rows.mapM firstCell = .ok cells ∧ ∀ c ∈ cells, c.IsText :=
  exists_mapM_ok fun row hrow => by
    obtain ⟨c, rfl, hc⟩ := h row hrow
    exact ⟨c, rfl, hc⟩

/-! ## JSON values -/

namespace Json

theorem areSendable_eq_all (l : List Json) : areSendable l = l.all isSendable := by
  induction l with
  | nil => rfl
  | cons j l ih => rw [areSendable, ih, List.all_cons]

theorem membersSendable_eq_all (l : List (String × Json)) :
    membersSendable l = l.all fun m => m.2.isSendable := by
  induction l with
  | nil => rfl
  | cons m l ih => rw [membersSendable, ih, List.all_cons]

@[simp] theorem isSendable_int (n : Int) : (Json.int n).isSendable = true := rfl

@[simp] theorem isSendable_text (s : String) : (Json.text s).isSendable = true := rfl

@[simp] theorem isSendable_float (x : Float) : (Json.float x).isSendable = x.isFinite := rfl

@[simp] theorem isSendable_list (l : List Json) :
    (Json.list l).isSendable = l.all isSendable :=
  areSendable_eq_all l

@[simp] theorem isSendable_object (l : List (String × Json)) :
    (Json.object l).isSendable = l.all fun m => m.2.isSendable :=
  membersSendable_eq_all l

@[simp] theorem isSendable_optional (f : α → Json) (o : Option α) :
    (Json.optional f o).isSendable = o.all fun a => (f a).isSendable := by
  cases o <;> rfl

end Json

namespace Web

theorem isSendable_summaryJson {v : Roster.VoterSummary} (h : ∀ x ∈ v.score, x.isFinite = true) :
    (summaryJson v).isSendable = true := by
  simpa [summaryJson, Option.all_eq_true] using h

theorem isSendable_snapshotJson (s : Chart.Snapshot) : (snapshotJson s).isSendable = true := by
  simp [snapshotJson]

theorem isSendable_textMembers (l : List (String × String)) :
    (textMembers l).isSendable = true := by
  simp [textMembers]

theorem isSendable_countsJson (c : Chart.CombinationCounts) : (countsJson c).isSendable = true := by
  simp [countsJson, isSendable_textMembers]

theorem isSendable_seriesJson {c : Chart.SeriesChart}
    (h : ∀ s ∈ c.series, ∀ d ∈ s.data, (datumJson d).isSendable = true) :
    (seriesJson c).isSendable = true := by
  simpa [seriesJson, isSendable_textMembers] using h

theorem isSendable_statsJson {s : Roster.MapStats} (h : ∀ x ∈ s.score, x.isFinite = true) :
    (statsJson s).isSendable = true := by
  simpa [statsJson, Option.all_eq_true] using h

/-- The values of one field, each at its place. -/
def lookupValues (entry : Roster.LookupField × List Cell) : Form.Checked (List Json) :=
  (entry.2.zipIdx.map fun e =>
    (Form.Checked.field ["values", entry.1.name, toString e.2] e.1.formText).map .text).foldr
      (fun v rest => List.cons <$> v <*> rest) (pure [])

/-- The values of fields as the members of an object. -/
def lookupMembers (found : List (Roster.LookupField × List Cell)) :
    Form.Checked (List (String × Json)) :=
  found.foldr (fun entry rest =>
    (fun vs l => (entry.1.name, Json.list vs) :: l) <$> lookupValues entry <*> rest) (pure [])

theorem lookupJson_eq (found : List (Roster.LookupField × List Cell)) :
    lookupJson found = (lookupMembers found).map fun l => .object [("values", .object l)] := rfl

theorem exists_foldr_texts {f : β → Form.Checked Json} {l : List β}
    (h : ∀ b ∈ l, ∃ s, f b = .value (.text s)) :
    ∃ js, (l.map f).foldr (fun v rest => List.cons <$> v <*> rest) (pure []) = .value js ∧
      (Json.list js).isSendable = true := by
  induction l with
  | nil => exact ⟨[], rfl, rfl⟩
  | cons b l ih =>
    obtain ⟨s, hs⟩ := h b (by simp)
    obtain ⟨js, hjs, hsendable⟩ := ih fun b' hb' => h b' (by simp [hb'])
    refine ⟨.text s :: js, ?_, by simpa using hsendable⟩
    rw [List.map_cons, List.foldr_cons, hs, hjs]
    rfl

theorem exists_lookupValues {entry : Roster.LookupField × List Cell}
    (h : ∀ c ∈ entry.2, c.IsText) :
    ∃ js, lookupValues entry = .value js ∧ (Json.list js).isSendable = true := by
  refine exists_foldr_texts fun e he => ?_
  obtain ⟨s, hs⟩ := (h e.1 (List.fst_mem_of_mem_zipIdx he)).exists_formText
  exact ⟨s, by rw [hs]; rfl⟩

theorem exists_lookupMembers {found : List (Roster.LookupField × List Cell)}
    (h : ∀ entry ∈ found, ∀ c ∈ entry.2, c.IsText) :
    ∃ members, lookupMembers found = .value members ∧
      (Json.object members).isSendable = true := by
  induction found with
  | nil => exact ⟨[], rfl, rfl⟩
  | cons entry found ih =>
    obtain ⟨js, hjs, hvalues⟩ := exists_lookupValues (h entry (by simp))
    obtain ⟨members, hmembers, hrest⟩ := ih fun e he => h e (by simp [he])
    have hsendable : (Json.object ((entry.1.name, .list js) :: members)).isSendable = true := by
      rw [Json.isSendable_object] at hrest ⊢
      rw [List.all_cons, hvalues, hrest, Bool.and_self]
    refine ⟨(entry.1.name, .list js) :: members, ?_, hsendable⟩
    show _ <$> lookupValues entry <*> lookupMembers found = _
    rw [hjs, hmembers]
    rfl

/-- The values of fields are sent where all of them are texts. -/
theorem exists_lookupJson {found : List (Roster.LookupField × List Cell)}
    (h : ∀ entry ∈ found, ∀ c ∈ entry.2, c.IsText) :
    ∃ j, lookupJson found = .value j ∧ j.isSendable = true := by
  obtain ⟨members, hmembers, hsendable⟩ := exists_lookupMembers h
  rw [lookupJson_eq, hmembers]
  exact ⟨_, rfl, by simpa using hsendable⟩

end Web

end Electorate
