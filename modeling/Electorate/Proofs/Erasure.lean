import Electorate.Filter.Constraint
import Electorate.Proofs.FilterMeaning
import Electorate.Sql.Render

/-!
# Texts that do not reach a statement

The text of a condition tells nothing of the values in it.

* `Bound.erase`, `Piece.erase`, `Predicate.erase`: values replaced by one that tells nothing.
* `SameText`: two renderings with one text whose values have the same types in the same order.
  Pieces and conditions that are the same without their values are rendered so
  (`sameText_assemble`, `Predicate.sameText_render`).
* `Dimension.SameShape`: values of a dimension that differ in their characters only.
* `FilterSpec.sameText_predicate`: the conditions of filters whose values differ so have one text.
-/

namespace Electorate.Sql

/-! ## Pieces -/

/-- A value that tells nothing, under the same type. -/
def Bound.erase (b : Bound) : Bound := ⟨.text "", b.type⟩

/-- A piece without its values. -/
def Piece.erase : Piece → Piece
  | words s => words s
  | slot b => slot b.erase
  | list bs => list (bs.map Bound.erase)

/-- One text, and values of the same types in the same order. -/
structure SameText (r s : Rendered) : Prop where
  sql_eq : r.sql = s.sql
  types_eq : r.params.map Bound.type = s.params.map Bound.type

theorem SameText.symm {r s : Rendered} (h : SameText r s) : SameText s r :=
  ⟨h.sql_eq.symm, h.types_eq.symm⟩

theorem SameText.trans {r s t : Rendered} (h : SameText r s) (h' : SameText s t) : SameText r t :=
  ⟨h.sql_eq.trans h'.sql_eq, h.types_eq.trans h'.types_eq⟩

section Pieces

variable {ps qs : List Piece}

theorem placeholders_erase (n : Nat) (bs : List Bound) :
    placeholders n (bs.map Bound.erase) = placeholders n bs := by
  induction bs generalizing n with
  | nil => rfl
  | cons b bs ih =>
    cases bs with
    | nil => rfl
    | cons c rest => exact congrArg (placeholder n b ++ ", " ++ ·) (ih (n + 1))

theorem numberedText_erase (i j : Nat) (ps : List Piece) :
    numberedText i j (ps.map Piece.erase) = numberedText i j ps := by
  induction ps generalizing i j with
  | nil => rfl
  | cons p ps ih =>
    cases p with
    | words s => exact congrArg (s ++ ·) (ih i j)
    | slot b => exact congrArg (placeholder i b ++ ·) (ih (i + 1) j)
    | list bs =>
      simp only [List.map_cons, Piece.erase, numberedText, placeholders_erase, List.length_map, ih]

theorem slotBounds_erase (ps : List Piece) :
    slotBounds (ps.map Piece.erase) = (slotBounds ps).map Bound.erase := by
  induction ps with
  | nil => rfl
  | cons p ps ih => cases p <;> simp [Piece.erase, slotBounds, ih]

theorem listBounds_erase (ps : List Piece) :
    listBounds (ps.map Piece.erase) = (listBounds ps).map Bound.erase := by
  induction ps with
  | nil => rfl
  | cons p ps ih => cases p <;> simp [Piece.erase, listBounds, ih]

theorem sameText_erase (ps : List Piece) :
    SameText (assemble (ps.map Piece.erase)) (assemble ps) where
  sql_eq := by simp only [assemble, slotBounds_erase, List.length_map, numberedText_erase]
  types_eq := by
    simp [assemble, slotBounds_erase, listBounds_erase, Bound.erase, Function.comp_def]

theorem sameText_assemble (h : ps.map Piece.erase = qs.map Piece.erase) :
    SameText (assemble ps) (assemble qs) :=
  (sameText_erase ps).symm.trans (h ▸ sameText_erase qs)

end Pieces

/-! ## Conditions -/

namespace Predicate

/-- A condition without its texts. -/
def erase : Predicate → Predicate
  | equals t _ => equals t ""
  | oneOf t values => oneOf t (values.map fun _ => "")
  | differs c _ => differs c ""
  | like t _ => like t ""
  | eventHas _ _ => eventHas "" ""
  | not p => not p.erase
  | and p q => and p.erase q.erase
  | or p q => or p.erase q.erase
  | p => p

theorem pieces_erase (table : String) (place : Place) (p : Predicate) :
    (p.erase.pieces table place).map Piece.erase = (p.pieces table place).map Piece.erase := by
  -- The values stand in literals only, and erasure forgets those: the rest is copied as it is.
  induction p generalizing place with
  | equals | differs | like => rfl
  | oneOf t values => simp [erase, pieces, Piece.erase, Bound.erase, Bound.text, Function.comp_def]
  | eventHas field value =>
    simp only [erase, pieces, bracketedInside]
    split <;> rfl
  | not p ih => simp [erase, pieces, ih]
  | and p q ihp ihq => simp [erase, pieces, ihp, ihq]
  | or p q ihp ihq =>
    simp only [erase, pieces]
    split <;> simp [bracketed, ihp, ihq]
  | _ => rfl

theorem sameText_render_erase (table : String) (p : Predicate) :
    SameText (p.erase.render table) (p.render table) := by
  cases p with
  | always => exact ⟨rfl, rfl⟩
  | _ => exact sameText_assemble (pieces_erase table .top _)

/-- Conditions that are the same without their texts have one text. -/
theorem sameText_render {p q : Predicate} (h : p.erase = q.erase) (table : String) :
    SameText (p.render table) (q.render table) :=
  (sameText_render_erase table p).symm.trans (h ▸ sameText_render_erase table q)

theorem erase_eq_always {p : Predicate} : p.erase = always ↔ p = always := by
  cases p <;> simp [erase]

theorem both_always (p : Predicate) : p.both always = p := by cases p <;> rfl

theorem both_of_ne {p q : Predicate} (hp : p ≠ always) (hq : q ≠ always) :
    p.both q = and p q := by
  unfold both
  split
  · exact absurd rfl hp
  · exact absurd rfl hq
  · rfl

theorem erase_both (p q : Predicate) : (p.both q).erase = p.erase.both q.erase := by
  by_cases hp : p = always
  · subst hp
    rfl
  · by_cases hq : q = always
    · subst hq
      rw [both_always]
      exact (both_always _).symm
    · rw [both_of_ne hp hq, both_of_ne (mt erase_eq_always.mp hp) (mt erase_eq_always.mp hq), erase]

/-- An operation on both sides of which texts can be erased, over a whole chain. -/
theorem erase_foldl {op : Predicate → Predicate → Predicate}
    (h : ∀ p q, (op p q).erase = op p.erase q.erase) (p : Predicate) (ps : List Predicate) :
    (ps.foldl op p).erase = (ps.map erase).foldl op p.erase := by
  induction ps generalizing p with
  | nil => rfl
  | cons q qs ih => rw [List.foldl_cons, ih, h, List.map_cons, List.foldl_cons]

theorem erase_conj (ps : List Predicate) : (conj ps).erase = conj (ps.map erase) := by
  cases ps with
  | nil => rfl
  | cons p ps => exact erase_foldl erase_both p ps

theorem map_erase_disj? (ps : List Predicate) : (disj? ps).map erase = disj? (ps.map erase) := by
  cases ps with
  | nil => rfl
  | cons p ps => exact congrArg some (@erase_foldl or (fun _ _ => rfl) p ps)

/-- Lists of texts are the same without their texts if they are of one length. -/
theorem erase_matchText {t : TextTerm} {xs ys : List String} (h : xs.length = ys.length) :
    (matchText t xs).erase = (matchText t ys).erase := by
  match xs, ys, h with
  | [], [], _ => rfl
  | [_], [_], _ => rfl
  | _ :: _ :: xs, _ :: _ :: ys, h => simpa [matchText, erase, List.map_const'] using h

theorem map_erase_eventHasAny {field : String} {xs ys : List String} (h : xs.length = ys.length) :
    (eventHasAny field xs).map erase = (eventHasAny field ys).map erase := by
  have hlist : ∀ zs : List String, (zs.map (eventHas field)).map erase =
      List.replicate zs.length (eventHas "" "") := fun zs => by
    simp [erase, Function.comp_def, List.map_const']
  rw [eventHasAny, eventHasAny, map_erase_disj?, map_erase_disj?, hlist, hlist, h]

end Predicate

end Electorate.Sql

namespace Electorate

open Electorate.Sql

/-! ## Addresses -/

theorem addressPartPredicate_erase (part : AddressPart) (value : String) :
    (addressPartPredicate part value).erase = (addressPartPredicate part "").erase := by
  cases part <;> simp only [addressPartPredicate, startsWith, Predicate.erase]

namespace ResidentAddress

variable {a b : ResidentAddress}

theorem map_fst_presentParts (a : ResidentAddress) :
    a.presentParts.map Prod.fst = AddressPart.all.filter fun p => !(a.part p).isEmpty := by
  simp [presentParts, List.filter_map, Function.comp_def]

/-- Addresses with the same parts are asked for in the same words. -/
theorem map_erase_predicate? (h : ∀ part, a.part part = "" ↔ b.part part = "") :
    a.predicate?.map Predicate.erase = b.predicate?.map Predicate.erase := by
  have hpart : ∀ part, (a.part part).isEmpty = (b.part part).isEmpty := fun part => by
    rw [Bool.eq_iff_iff, String.isEmpty_iff, String.isEmpty_iff, h]
  have herase : ∀ c : ResidentAddress,
      (c.presentParts.map fun e => addressPartPredicate e.1 e.2).map Predicate.erase =
        (c.presentParts.map Prod.fst).map fun part => (addressPartPredicate part "").erase := by
    intro c
    rw [List.map_map, List.map_map]
    exact List.map_congr_left fun e _ => addressPartPredicate_erase e.1 e.2
  have hempty : a.isEmpty = b.isEmpty := by simp only [isEmpty, hpart]
  unfold predicate?
  rw [hempty]
  split
  · rfl
  · simp only [Option.map_some, Predicate.erase_conj]
    rw [herase, herase, map_fst_presentParts, map_fst_presentParts]
    simp only [hpart]

end ResidentAddress

/-- Two texts are addresses of eight parts of which the same are empty. -/
def SameParts (x y : String) : Prop :=
  ∃ a b, ResidentAddress.ofParam? x = some a ∧ ResidentAddress.ofParam? y = some b ∧
    ∀ part, a.part part = "" ↔ b.part part = ""

/-- Readers of two lists that find the same in what stands side by side. -/
theorem filterMap_congr_of_forall₂ {R : α → β → Prop} {f : α → Option γ} {g : β → Option γ}
    {as : List α} {bs : List β} (h : List.Forall₂ R as bs) (hR : ∀ a b, R a b → f a = g b) :
    as.filterMap f = bs.filterMap g := by
  induction h with
  | nil => rfl
  | cons hab _ ih => rw [List.filterMap_cons, List.filterMap_cons, hR _ _ hab, ih]

/-! ## Dimensions -/

namespace Dimension

/-- The form in which a dimension compares its values. -/
def compared (d : Dimension) (value : String) : String :=
  match d with
  | .county | .countyPrecinct | .municipalPrecinct | .status | .statusReason | .party | .gender
  | .electionType | .eventParty => Text.upper value
  | .race => Text.upper (raceStoreValue value)
  | .ageRange => Text.strip value
  | _ => value

/-- Values of a dimension that make the same words. Dimensions that compare without regard to case
ask once for values that are compared alike, and a name is asked for by its first value. Values that
are not compared as texts have to be the same. -/
def SameShape (d : Dimension) (xs ys : List String) : Prop :=
  match d with
  | .exactId => Text.strip (xs.headD "") = "" ↔ Text.strip (ys.headD "") = ""
  | .county | .countyPrecinct | .municipalPrecinct | .status | .statusReason | .party | .gender
  | .race => (distinct (xs.map d.compared)).length = (distinct (ys.map d.compared)).length
  | .congressionalDistrict | .stateSenateDistrict | .stateHouseDistrict | .electionType
  | .ballotStyle | .eventParty | .electionDate => xs.length = ys.length
  | .firstName | .lastName => True
  | .residentAddress => List.Forall₂ SameParts xs ys
  | _ => xs = ys

variable {a b : FilterSpec} {xs ys : List String}

/-- The condition of election dates: attended, or sat out. -/
def attendance (satOut : Bool) (attended : Predicate) : Predicate :=
  if satOut then .or (.isNull .votingEvents) (.not attended) else attended

theorem erase_attendance (satOut : Bool) (p : Predicate) :
    (attendance satOut p).erase = attendance satOut p.erase := by
  cases satOut with
  | false => rfl
  | true => simp only [attendance, if_true, Predicate.erase]

theorem map_erase_electionDate (spec : FilterSpec) (year : Int) (xs : List String) :
    (electionDate.predicate? spec year xs).map Predicate.erase =
      ((eventHasAny "election_date" xs).map Predicate.erase).map (attendance spec.asksSatOut) := by
  show ((eventHasAny "election_date" xs).map (attendance spec.asksSatOut)).map Predicate.erase = _
  generalize spec.asksSatOut = satOut
  cases eventHasAny "election_date" xs with
  | none => simp only [Option.map_none]
  | some p => exact congrArg some (erase_attendance satOut p)

/-- What is asked for by a text that is an address, without its texts. -/
def erasedAddress (x : String) : Option Predicate :=
  (ResidentAddress.ofParam? x).bind fun a => a.predicate?.map Predicate.erase

theorem erasedAddress_congr {x y : String} (h : SameParts x y) :
    erasedAddress x = erasedAddress y := by
  obtain ⟨p, q, hp, hq, hparts⟩ := h
  simpa [erasedAddress, hp, hq] using ResidentAddress.map_erase_predicate? hparts

theorem map_erase_residentAddress (spec : FilterSpec) (year : Int) (xs : List String) :
    (residentAddress.predicate? spec year xs).map Predicate.erase =
      Predicate.disj? (xs.filterMap erasedAddress) := by
  unfold predicate?
  dsimp only
  rw [Predicate.map_erase_disj?, List.map_filterMap]
  simp only [Option.map_bind]
  rfl

/-- Values of one shape make conditions that are the same without their texts. -/
theorem map_erase_predicate? {d : Dimension} (h : d.SameShape xs ys)
    (hages : a.has Dimension.ageRange.name = b.has Dimension.ageRange.name)
    (hsat : a.asksSatOut = b.asksSatOut) (year : Int) :
    (d.predicate? a year xs).map Predicate.erase =
      (d.predicate? b year ys).map Predicate.erase := by
  have hfolded {c : TextColumn} {us vs : List String}
      (h : (distinct (us.map Text.upper)).length = (distinct (vs.map Text.upper)).length) :
      (some (matchFolded c us)).map Predicate.erase =
        (some (matchFolded c vs)).map Predicate.erase :=
    congrArg some (Predicate.erase_matchText h)
  cases d
  case exactId => rfl
  case county | countyPrecinct | municipalPrecinct | status | statusReason | party | gender =>
    exact hfolded h
  case race =>
    refine hfolded ?_
    rw [List.map_map, List.map_map]
    exact h
  case congressionalDistrict | stateSenateDistrict | stateHouseDistrict =>
    exact congrArg some (Predicate.erase_matchText h)
  case firstName | lastName =>
    simp only [predicate?, startsWith, Option.map_some, Predicate.erase]
  case electionType | eventParty =>
    have hl : xs.length = ys.length := h
    exact Predicate.map_erase_eventHasAny (by simpa using hl)
  case ballotStyle => exact Predicate.map_erase_eventHasAny h
  case electionDate =>
    rw [map_erase_electionDate, map_erase_electionDate, Predicate.map_erase_eventHasAny h, hsat]
  case residentAddress => rw [map_erase_residentAddress, map_erase_residentAddress,
    filterMap_congr_of_forall₂ h fun _ _ hxy => erasedAddress_congr hxy]
  all_goals
    cases h
    simp only [predicate?, agePredicate?, hages]

end Dimension

/-! ## Filters -/

namespace FilterSpec

/-- Two entries have one name, and the values of its dimension are of one shape. -/
def SameEntry (e f : String × List String) : Prop :=
  e.1 = f.1 ∧ ∀ d : Dimension, d.name = e.1 → d.SameShape e.2 f.2

theorem sameEntry_of_sameShape {d : Dimension} {xs ys : List String} (h : d.SameShape xs ys) :
    SameEntry (d.name, xs) (d.name, ys) := by
  refine ⟨rfl, fun d' hd' => ?_⟩
  have hd : Dimension.ofName? d.name = some d' := Dimension.ofName?_eq_some_iff.mpr hd'
  rw [Dimension.ofName?_name] at hd
  cases hd
  exact h

/-- Two filters have the same names in the same order, with values of the same shape. -/
def SameShape (a b : FilterSpec) : Prop := List.Forall₂ SameEntry a.entries b.entries

variable {a b : FilterSpec}

theorem SameShape.names_eq (h : SameShape a b) : a.names = b.names := by
  unfold SameShape at h
  unfold names
  generalize a.entries = es, b.entries = fs at h
  induction h with
  | nil => rfl
  | cons he _ ih => rw [List.map_cons, List.map_cons, he.1, ih]

/-- Under each name the filters select values of one shape, or both select none. -/
theorem SameShape.get? (h : SameShape a b) (d : Dimension) :
    (a.get? d.name = none ∧ b.get? d.name = none) ∨
      ∃ xs ys, a.get? d.name = some xs ∧ b.get? d.name = some ys ∧ d.SameShape xs ys := by
  unfold SameShape at h
  unfold FilterSpec.get?
  generalize a.entries = es, b.entries = fs at h
  induction h with
  | nil => exact .inl ⟨rfl, rfl⟩
  | @cons e f es fs he _ ih =>
    obtain ⟨m, xs⟩ := e
    obtain ⟨m', ys⟩ := f
    obtain ⟨rfl, hshape⟩ := he
    rw [lookup_cons_eq, lookup_cons_eq]
    by_cases hd : d.name = m
    · rw [if_pos hd, if_pos hd]
      exact .inr ⟨xs, ys, rfl, rfl, hshape d hd⟩
    · rw [if_neg hd, if_neg hd]
      exact ih

theorem SameShape.has_eq (h : SameShape a b) (name : String) : a.has name = b.has name := by
  rw [has, has, h.names_eq]

theorem SameShape.asksSatOut_eq (h : SameShape a b) : a.asksSatOut = b.asksSatOut := by
  have hfirst : a.first? Dimension.electionParticipation.name =
      b.first? Dimension.electionParticipation.name := by
    unfold first?
    rcases h.get? .electionParticipation with ⟨ha, hb⟩ | ⟨xs, ys, ha, hb, hxy⟩
    · rw [ha, hb]
    · obtain rfl : xs = ys := hxy
      rw [ha, hb]
  simp only [asksSatOut, hfirst]

/-- A filter asks for a registration number if the first value of its name is not blank. -/
theorem exactId?_eq_none_iff {spec : FilterSpec} :
    spec.exactId? = none ↔
      ∀ xs, spec.get? Dimension.exactId.name = some xs → Text.strip (xs.headD "") = "" := by
  unfold exactId? first?
  cases hg : spec.get? Dimension.exactId.name with
  | none => simp
  | some xs =>
    cases xs with
    | nil => exact absurd rfl (ne_nil_of_get? hg)
    | cons x xs => simp

theorem SameShape.exactId?_eq_none_iff (h : SameShape a b) :
    a.exactId? = none ↔ b.exactId? = none := by
  rw [FilterSpec.exactId?_eq_none_iff, FilterSpec.exactId?_eq_none_iff]
  rcases h.get? .exactId with ⟨ha, hb⟩ | ⟨xs, ys, ha, hb, hxy⟩
  · simp [ha, hb]
  · simp only [ha, hb, Option.some.injEq, forall_eq']
    exact hxy

/-- The constraint of an entry without its texts. -/
def erasedEntry (spec : FilterSpec) (year : Int) (e : String × List String) : Option Predicate :=
  (Dimension.ofName? e.1).bind fun d => (d.predicate? spec year e.2).map Predicate.erase

theorem map_erase_constraints (hid : a.exactId? = none) (year : Int) :
    (a.constraints year).map (fun c => c.predicate.erase) =
      a.entries.filterMap (erasedEntry a year) := by
  simp only [constraints, hid, List.map_filterMap, Option.map_bind]
  refine List.filterMap_congr fun e _ => ?_
  unfold erasedEntry
  cases Dimension.ofName? e.1 with
  | none => rfl
  | some d => simp [Function.comp_def]

theorem SameShape.erasedEntry_eq (h : SameShape a b) (year : Int) {e f : String × List String}
    (hef : SameEntry e f) : erasedEntry a year e = erasedEntry b year f := by
  obtain ⟨hname, hshape⟩ := hef
  unfold erasedEntry
  rw [hname]
  cases hd : Dimension.ofName? f.1 with
  | none => rfl
  | some d =>
    have hdname : d.name = f.1 := Dimension.ofName?_eq_some_iff.mp hd
    exact Dimension.map_erase_predicate? (hshape d (hdname.trans hname.symm))
      (h.has_eq _) h.asksSatOut_eq year

/-- Filters of one shape have constraints that are the same without their texts. -/
theorem SameShape.map_erase_constraints (h : SameShape a b) (year : Int) :
    (a.constraints year).map (fun c => c.predicate.erase) =
      (b.constraints year).map fun c => c.predicate.erase := by
  cases ha : a.exactId? with
  | none =>
    rw [FilterSpec.map_erase_constraints ha,
      FilterSpec.map_erase_constraints (h.exactId?_eq_none_iff.mp ha)]
    exact filterMap_congr_of_forall₂ h fun _ _ => h.erasedEntry_eq year
  | some id =>
    have hb : b.exactId? ≠ none := fun hb => by simp [h.exactId?_eq_none_iff.mpr hb] at ha
    obtain ⟨id', hb⟩ := Option.ne_none_iff_exists'.mp hb
    simp [constraints, ha, hb, Predicate.erase]

/-- Filters of one shape put one text, whatever the characters of their values are. -/
theorem sameText_predicate (h : SameShape a b) (name : Option String) (year : Int) :
    SameText ((a.predicate year).render (tableName name))
      ((b.predicate year).render (tableName name)) := by
  refine Predicate.sameText_render ?_ _
  have hmap : ∀ c : FilterSpec, (c.predicate year).erase =
      .conj ((c.constraints year).map fun c => c.predicate.erase) := fun c => by
    rw [predicate, Predicate.erase_conj, List.map_map]
    rfl
  rw [hmap, hmap, h.map_erase_constraints]

/-- A filter of ordinary values. -/
def ordinary : FilterSpec :=
  ofPairs [("county", ["Bibb", "Cobb", "bibb"]), ("lastName", ["Smith"]),
    ("residentAddress", ["12,,Main,,,,Macon,"])]

/-- A filter of the same shape with characters that mean something in SQL. -/
def hostile : FilterSpec :=
  ofPairs [("county", ["' OR 1=1 --", "$1"]), ("lastName", ["%\\_", "'"]),
    ("residentAddress", ["$2,,\x22;,,,,/*,"])]

/-- Quotation marks, wild characters, dollar signs and comments leave the text as it is. -/
theorem sameText_hostile :
    SameShape ordinary hostile ∧
    SameText ((ordinary.predicate 2024).render (tableName none))
      ((hostile.predicate 2024).render (tableName none)) := by
  have hcounty : Dimension.county.SameShape ["Bibb", "Cobb", "bibb"] ["' OR 1=1 --", "$1"] :=
    show (distinct _).length = (distinct _).length by decide
  have hname : Dimension.lastName.SameShape ["Smith"] ["%\\_", "'"] := trivial
  have hparts : SameParts "12,,Main,,,,Macon," "$2,,\x22;,,,,/*," :=
    ⟨⟨"12", "", "Main", "", "", "", "Macon", ""⟩, ⟨"$2", "", "\x22;", "", "", "", "/*", ""⟩,
      by decide, by decide, fun part => by cases part <;> decide⟩
  have haddress : Dimension.residentAddress.SameShape ["12,,Main,,,,Macon,"]
      ["$2,,\x22;,,,,/*,"] := .cons hparts .nil
  have h : SameShape ordinary hostile :=
    .cons (sameEntry_of_sameShape hcounty) <| .cons (sameEntry_of_sameShape hname) <|
      .cons (sameEntry_of_sameShape haddress) .nil
  exact ⟨h, sameText_predicate h none 2024⟩

end FilterSpec

end Electorate
