import Electorate.Filter.Constraint
import Electorate.Proofs.Placeholders
import Electorate.Sql.Render

/-!
# The literals of a condition

The text of a condition and the values beside it, however the condition is built.

* `Predicate.literals`: the literals of a condition, in the order in which it is written.
* `Predicate.inline`: the text of a condition with the literals in their places.
* `Predicate.tidy_pieces`: every placeholder of a condition is read as one, whatever the alias of
  the table is.
* `FilterSpec.bindsLiterals_predicate`: the values of the condition of a filter are bound to its
  literals.
-/

namespace Electorate.Sql

/-! ## Literals -/

/-- A number as it is bound. -/
def Value.ofNumber : Number → Value
  | .int n => .int n
  | n => .number n

/-- The literals of a test. -/
def NumberTest.literals : NumberTest → List Value
  | compare _ bound => [.ofNumber bound]
  | between low high => [.ofNumber low, .ofNumber high]

namespace Predicate

/-- The literals of a condition, in the order in which it is written. -/
def literals : Predicate → List Value
  | always | isNull _ | isNotNull _ | moved _ => []
  | equals _ value | differs _ value => [.text value]
  | oneOf _ values => values.map .text
  | like _ pattern => [.text pattern]
  | notBlank _ => [.text ""]
  | number _ test => test.literals
  | inTract _ tests => tests.flatMap NumberTest.literals
  | votedBefore day => [.date day]
  | eventHas field value => [.event field value]
  | votedInYears years => years.map .int
  | inBox box => [.float box.xmin, .float box.ymin, .float box.xmax, .float box.ymax, .int srid]
  | near longitude latitude meters =>
    [.float longitude, .float latitude, .int srid, .float meters]
  | not p => p.literals
  | and p q | or p q => p.literals ++ q.literals

/-- The text of a condition with the literals in their places. The one that always holds has no
text. -/
def inline (table : String) : Predicate → List (Mark Value)
  | always => []
  | p => inlined (p.pieces table .top)

end Predicate

section Literals

variable {ps qs : List Piece}

@[simp] theorem holes_inlined_words (s : String) :
    holes (inlined (.words s :: ps)) = holes (inlined ps) := by
  simp [inlined]

@[simp] theorem holes_inlined_slot (b : Bound) :
    holes (inlined (.slot b :: ps)) = b.value :: holes (inlined ps) := by
  simp [inlined]

@[simp] theorem holes_inlined_list (bs : List Bound) :
    holes (inlined (.list bs :: ps)) = bs.map Bound.value ++ holes (inlined ps) := by
  simp [inlined, Function.comp_def]

@[simp] theorem holes_inlined_append :
    holes (inlined (ps ++ qs)) = holes (inlined ps) ++ holes (inlined qs) := by
  rw [inlined_append, holes_append]

@[simp] theorem holes_inlined_nil : holes (inlined []) = [] := rfl

@[simp] theorem NumberColumn.value_bound (c : NumberColumn) (n : Number) :
    (c.bound n).value = .ofNumber n := by
  cases c <;> cases n <;> rfl

@[simp] theorem value_censusBound (n : Number) : (censusBound n).value = .ofNumber n := by
  cases n <;> rfl

theorem NumberTest.holes_pieces {column : String} {bound : Number → Bound}
    (h : ∀ n, (bound n).value = .ofNumber n) (t : NumberTest) :
    holes (inlined (t.pieces column bound)) = t.literals := by
  cases t <;> simp [NumberTest.pieces, literals, h]

theorem holes_testsPieces {column : String} {bound : Number → Bound}
    (h : ∀ n, (bound n).value = .ofNumber n) (tests : List NumberTest) :
    holes (inlined (testsPieces column bound tests)) = tests.flatMap NumberTest.literals := by
  induction tests with
  | nil => rfl
  | cons t tests ih =>
    cases tests with
    | nil => simp [testsPieces, NumberTest.holes_pieces h]
    | cons u rest => simp [testsPieces, NumberTest.holes_pieces h, ih]

theorem holes_slotsBetweenCommas (bs : List Bound) :
    holes (inlined (slotsBetweenCommas bs)) = bs.map Bound.value := by
  induction bs with
  | nil => rfl
  | cons b bs ih =>
    cases bs with
    | nil => simp [slotsBetweenCommas]
    | cons c rest => simpa [slotsBetweenCommas] using ih

theorem holes_bracketedInside (place : Place) :
    holes (inlined (bracketedInside place ps)) = holes (inlined ps) := by
  unfold bracketedInside
  split <;> simp [bracketed]

/-- The literals stand in the text of a condition in the order in which it is written. -/
theorem Predicate.holes_pieces (table : String) (place : Place) (p : Predicate) :
    holes (inlined (p.pieces table place)) = p.literals := by
  induction p generalizing place with
  | always | equals | differs | like | notBlank | isNull | isNotNull | votedBefore | moved =>
    simp [pieces, literals, Bound.text]
  | oneOf => simp [pieces, literals, Bound.text, Function.comp_def]
  | number c test => exact test.holes_pieces c.value_bound
  | inTract stat tests => simp [pieces, literals, holes_testsPieces value_censusBound]
  | eventHas => simp [pieces, literals, holes_bracketedInside]
  | votedInYears =>
    simp [pieces, literals, holes_slotsBetweenCommas, Bound.sized, Function.comp_def]
  | inBox =>
    simp [pieces, literals, holes_bracketedInside, holes_slotsBetweenCommas, Bound.sized,
      Bound.float]
  | near => simp [pieces, literals, geography, Bound.sized, Bound.float]
  | not p ih => simp [pieces, literals, ih]
  | and p q ihp ihq => simp [pieces, literals, ihp, ihq]
  | or p q ihp ihq =>
    -- Alternatives stand in brackets inside a conjunction, and brackets hold no literal.
    simp only [pieces, literals]
    split <;> simp [bracketed, ihp, ihq]

end Literals

/-! ## Words -/

theorem TextColumn.plain_name (c : TextColumn) : Plain c.name := by
  cases c with
  | residence part =>
    exact (plain_of_safe (by decide)).append (plain_of_safe (by cases part <;> decide))
  | _ => exact plain_of_safe (by decide)

theorem Column.plain_name (c : Column) : Plain c.name := by
  cases c with
  | text c => exact c.plain_name
  | moved m => exact plain_of_safe (by cases m <;> decide)
  | _ => exact plain_of_safe (by decide)

section Words

variable {table : String} {ps : List Piece}

theorem plain_columnText (h : Plain table) (c : Column) : Plain (columnText table c) :=
  (h.append (plain_of_safe (by decide))).append c.plain_name

theorem TextTerm.plain_text (h : Plain table) (t : TextTerm) : Plain (t.text table) := by
  cases t with
  | plain c => exact plain_columnText h _
  | upper c =>
    exact ((plain_of_safe (by decide)).append (plain_columnText h _)).append
      (plain_of_safe (by decide))

theorem Comparison.spaced_sign (c : Comparison) : Spaced c.sign := by
  cases c <;> exact spaced_of_safe (by decide) (by decide)

/-- The escape mark stands between quotation marks. -/
theorem plain_escape : Plain " ESCAPE '\\\\'" := by
  rintro r (rfl | rfl) <;> exact ⟨.between, .inl rfl, by decide, by decide⟩

theorem tidy_words {ready : Prop} {s : String} (hs : Plain s) (h : Tidy False ps) :
    Tidy ready (.words s :: ps) := ⟨hs, h.mono False.elim⟩

theorem tidy_words_slot {ready : Prop} {s : String} {b : Bound} (hs : Spaced s)
    (h : Tidy False ps) : Tidy ready (.words s :: .slot b :: ps) := ⟨hs.plain, hs, h⟩

theorem tidy_nil {ready : Prop} : Tidy ready [] := trivial

theorem NumberTest.tidy_pieces {column : String} (h : Plain column) (bound : Number → Bound)
    (t : NumberTest) : Tidy False (t.pieces column bound) := by
  cases t with
  | compare c n => exact tidy_words_slot (h.append_spaced c.spaced_sign) tidy_nil
  | between low high =>
    exact tidy_words_slot (h.append_spaced (spaced_of_safe (by decide) (by decide)))
      (tidy_words_slot (spaced_of_safe (by decide) (by decide)) tidy_nil)

theorem tidy_testsPieces {column : String} (h : Plain column) (bound : Number → Bound)
    (tests : List NumberTest) : Tidy False (testsPieces column bound tests) := by
  induction tests with
  | nil => exact tidy_nil
  | cons t tests ih =>
    cases tests with
    | nil => exact t.tidy_pieces h bound
    | cons u rest =>
      exact (t.tidy_pieces h bound).append (tidy_words (plain_of_safe (by decide)) ih)

/-- Commas keep placeholders apart. -/
theorem tidy_slotsBetweenCommas (bs : List Bound) : Tidy True (slotsBetweenCommas bs) := by
  induction bs with
  | nil => exact tidy_nil
  | cons b bs ih =>
    cases bs with
    | nil => exact ⟨trivial, tidy_nil⟩
    | cons c rest =>
      have hcomma : Spaced ", " := spaced_of_safe (by decide) (by decide)
      exact ⟨trivial, hcomma.plain, ih.mono fun _ => hcomma⟩

/-- Pieces between plain words. -/
theorem tidy_enclosed {a b : String} (ha : Plain a) (hb : Plain b) (h : Tidy False ps) :
    Tidy False (.words a :: ps ++ [.words b]) :=
  tidy_words ha (h.append (tidy_words hb tidy_nil))

theorem plain_close : Plain ")" := plain_of_safe (by decide)

theorem tidy_bracketed (h : Tidy False ps) : Tidy False (bracketed ps) :=
  tidy_enclosed (plain_of_safe (by decide)) plain_close h

theorem tidy_bracketedInside (place : Place) (h : Tidy False ps) :
    Tidy False (bracketedInside place ps) := by
  unfold bracketedInside
  split
  · exact h
  · exact tidy_bracketed h

theorem tidy_geography (h : Tidy False ps) : Tidy False (geography ps) :=
  tidy_enclosed (plain_of_safe (by decide)) (plain_of_safe (by decide)) h

/-- Words, values with commas between them, and more words. -/
theorem tidy_words_slotsBetweenCommas {ready : Prop} {s : String} {bs : List Bound} (hs : Spaced s)
    (h : Tidy False ps) : Tidy ready (.words s :: slotsBetweenCommas bs ++ ps) :=
  ⟨hs.plain, ((tidy_slotsBetweenCommas bs).append h).mono fun _ => hs⟩

/-- Every placeholder of a condition is read as one. -/
theorem Predicate.tidy_pieces (h : Plain table) (place : Place) (p : Predicate) :
    Tidy False (p.pieces table place) := by
  have hclose : Tidy False [.words ")"] := tidy_words plain_close tidy_nil
  induction p generalizing place with
  | always => exact tidy_words (plain_of_safe (by decide)) tidy_nil
  | equals t value =>
    exact tidy_words_slot ((t.plain_text h).append_spaced (spaced_of_safe (by decide) (by decide)))
      tidy_nil
  | oneOf t values =>
    have hs : Spaced (t.text table ++ " IN (") :=
      (t.plain_text h).append_spaced (spaced_of_safe (by decide) (by decide))
    exact ⟨hs.plain, hs, hclose⟩
  | differs c value =>
    exact tidy_words_slot
      ((plain_columnText h _).append_spaced (spaced_of_safe (by decide) (by decide))) tidy_nil
  | like t pattern =>
    exact tidy_words_slot ((t.plain_text h).append_spaced (spaced_of_safe (by decide) (by decide)))
      (tidy_words plain_escape tidy_nil)
  | notBlank c =>
    have htrim : Plain "trim(" := plain_of_safe (by decide)
    exact tidy_words_slot ((htrim.append (plain_columnText h _)).append_spaced
      (spaced_of_safe (by decide) (by decide))) tidy_nil
  | number c test => exact test.tidy_pieces (plain_columnText h _) _
  | inTract stat tests =>
    have hstat : Plain ("census_tracts." ++ stat.name) :=
      (plain_of_safe (by decide)).append (plain_of_safe (by cases stat <;> decide))
    exact tidy_enclosed ((plain_columnText h _).append (plain_of_safe (by decide))) plain_close
      (tidy_testsPieces hstat _ tests)
  | isNull c | isNotNull c | moved c =>
    exact tidy_words ((plain_columnText h _).append (plain_of_safe (by decide))) tidy_nil
  | votedBefore day =>
    exact tidy_words_slot
      ((plain_columnText h _).append_spaced (spaced_of_safe (by decide) (by decide))) tidy_nil
  | eventHas field value =>
    exact tidy_bracketedInside place (tidy_words_slot
      ((plain_columnText h _).append_spaced (spaced_of_safe (by decide) (by decide))) tidy_nil)
  | votedInYears years =>
    exact tidy_words_slotsBetweenCommas
      ((plain_columnText h _).append_spaced (spaced_of_safe (by decide) (by decide)))
      (tidy_words (plain_of_safe (by decide)) tidy_nil)
  | inBox box =>
    exact tidy_bracketedInside place (tidy_words_slotsBetweenCommas
      ((plain_columnText h _).append_spaced (spaced_of_safe (by decide) (by decide))) hclose)
  | near longitude latitude meters =>
    have hcolumn : Tidy False (geography [.words (columnText table .geom)]) :=
      tidy_geography (tidy_words (plain_columnText h _) tidy_nil)
    have hpoint : Tidy False (geography [.words "ST_SetSRID(ST_MakePoint(",
        .slot (.float longitude), .words ", ", .slot (.float latitude), .words "), ",
        .slot (.sized srid), .words ")"]) :=
      tidy_geography (tidy_words_slot (spaced_of_safe (by decide) (by decide))
        (tidy_words_slot (spaced_of_safe (by decide) (by decide))
          (tidy_words_slot (spaced_of_safe (by decide) (by decide)) hclose)))
    have hmeters : Tidy False [.words ", ", .slot (.float meters), .words ")"] :=
      tidy_words_slot (spaced_of_safe (by decide) (by decide)) hclose
    exact ((tidy_words (plain_of_safe (by decide)) hcolumn).append
      (tidy_words (plain_of_safe (by decide)) hpoint)).append hmeters
  | not p ih => exact tidy_enclosed (plain_of_safe (by decide)) plain_close (ih .inOr)
  | and p q ihp ihq =>
    exact (ihp .inAnd).append (tidy_words (plain_of_safe (by decide)) (ihq .inAnd))
  | or p q ihp ihq =>
    have hboth : Tidy False (p.pieces table .inOr ++ .words " OR " :: q.pieces table .inOr) :=
      (ihp .inOr).append (tidy_words (plain_of_safe (by decide)) (ihq .inOr))
    unfold pieces
    split
    · exact tidy_bracketed hboth
    · exact hboth

theorem plain_tableName (name : Option String) : Plain (tableName name) := by
  cases name with
  | none => exact plain_of_safe (by decide)
  | some name => exact plain_identifier name

end Words

/-! ## Binding -/

/-- The placeholders of a text are the numbers of the values, each once; in the order of the text
they stand for the literals of a condition; and with the values in their places it is the condition
with its literals. -/
structure BindsLiterals (r : Rendered) (p : Predicate) (table : String) : Prop where
  numbers_perm : (holes (readText r.sql)).Perm (List.range' 1 r.params.length)
  values_eq : (holes (readText r.sql)).map (fun k => r.params[k - 1]?.map Bound.value) =
    p.literals.map some
  fill_eq : fill (fun k => r.params[k - 1]?.map Bound.value) (readText r.sql) =
    fill some (p.inline table)

theorem Predicate.bindsLiterals_render {table : String} (h : Plain table) (p : Predicate) :
    BindsLiterals (p.render table) p table := by
  have hbinds : Binds (p.render table) (p.inline table) ∧ holes (p.inline table) = p.literals := by
    cases p with
    | always => exact ⟨⟨.refl _, rfl⟩, rfl⟩
    | _ => exact ⟨binds_assemble (tidy_pieces h .top _), holes_pieces table .top _⟩
  refine ⟨hbinds.1.numbers_perm, ?_, hbinds.1.fill_eq⟩
  rw [← holes_fill, hbinds.1.fill_eq, holes_fill, hbinds.2]

end Electorate.Sql

namespace Electorate

open Electorate.Sql

/-- The values of the condition of a filter are bound to its literals, whatever the alias of the
voter table is. -/
theorem FilterSpec.bindsLiterals_predicate (spec : FilterSpec) (name : Option String)
    (year : Int) :
    BindsLiterals ((spec.predicate year).render (tableName name)) (spec.predicate year)
      (tableName name) :=
  Predicate.bindsLiterals_render (plain_tableName name) _

/-- The values of a list are numbered behind a text that stands behind them. A dollar sign in the
alias begins no placeholder. -/
example :
    (((FilterSpec.ofPairs [("county", ["Bibb", "Cobb"]), ("lastName", ["O'Hara"])]).predicate
      2024).render (tableName (some "v$1"))).sql =
        "upper(v$1.county_name) IN ($2::VARCHAR, $3::VARCHAR) AND " ++
          "upper(v$1.last_name) LIKE $1::VARCHAR ESCAPE '\\\\'" := by
  decide

end Electorate
