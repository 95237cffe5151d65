import Electorate.Sql.Text
import Mathlib.Data.List.Basic

/-!
# Placeholders in SQL text

What a reader of SQL text finds in the text of pieces.

* `Mark`: a text with holes in it. `holes` are their contents, in the order of the text.
* `Reader`, `readText`: reads placeholders out of a text, character by character. A dollar sign in a
  name or between quotation marks begins none.
* `inlined`: the text of pieces with each value in place of its placeholder.
* `Plain`, `Spaced`, `Tidy`: words in which no placeholder is read, words behind which one may
  stand, and pieces made of these.
* `Binds`: the placeholders of a text are the numbers of the values, each once, and with the values
  put back in their places it is a given text.
* `binds_assemble`: tidy pieces are assembled so that the values are bound.
-/

namespace Electorate.Sql

/-! ## Texts with holes -/

/-- A character, or a place that something else stands in. -/
inductive Mark (α : Type) where
  | char (c : Char)
  | hole (a : α)
deriving DecidableEq

/-- Replaces what stands in a hole. -/
def Mark.map (f : α → β) : Mark α → Mark β
  | char c => char c
  | hole a => hole (f a)

/-- What stands in a hole. -/
def Mark.hole? : Mark α → Option α
  | char _ => none
  | hole a => some a

/-- What stands in the holes of a text, in order. -/
def holes (text : List (Mark α)) : List α := text.filterMap Mark.hole?

/-- Replaces what stands in the holes of a text. -/
def fill (f : α → β) (text : List (Mark α)) : List (Mark β) := text.map (Mark.map f)

/-- A text without holes. -/
def chars (s : String) : List (Mark α) := s.toList.map .char

section Holes

variable {f : α → β}

@[simp] theorem holes_append (a b : List (Mark α)) : holes (a ++ b) = holes a ++ holes b :=
  List.filterMap_append

@[simp] theorem holes_cons_hole (a : α) (text : List (Mark α)) :
    holes (.hole a :: text) = a :: holes text := rfl

@[simp] theorem holes_chars (s : String) : holes (chars s : List (Mark α)) = [] := by
  simp [holes, chars, Mark.hole?]

@[simp] theorem fill_append (a b : List (Mark α)) : fill f (a ++ b) = fill f a ++ fill f b :=
  List.map_append

@[simp] theorem fill_cons_hole (a : α) (text : List (Mark α)) :
    fill f (.hole a :: text) = .hole (f a) :: fill f text := rfl

@[simp] theorem fill_chars (s : String) : fill f (chars s) = chars s := by
  simp [fill, chars, Mark.map]

theorem fill_fill {g : β → γ} (text : List (Mark α)) :
    fill g (fill f text) = fill (fun a => g (f a)) text := by
  unfold fill
  rw [List.map_map]
  exact List.map_congr_left fun m _ => by cases m <;> rfl

theorem holes_fill (text : List (Mark α)) : holes (fill f text) = (holes text).map f := by
  unfold fill holes
  rw [List.filterMap_map, List.map_filterMap]
  exact List.filterMap_congr fun m _ => by cases m <;> rfl

theorem fill_congr {g : α → β} {text : List (Mark α)} (h : ∀ a ∈ holes text, f a = g a) :
    fill f text = fill g text := by
  refine List.map_congr_left fun m hm => ?_
  cases m with
  | char c => rfl
  | hole a => exact congrArg Mark.hole (h a (List.mem_filterMap.mpr ⟨_, hm, rfl⟩))

end Holes

/-! ## Reading placeholders -/

/-- Where a reader of SQL text is. -/
inductive Reader where
  /-- Between words. -/
  | between
  /-- In a name, a key word or a number. -/
  | word
  /-- In a name between quotation marks. -/
  | quoted
  /-- In a text between quotation marks. -/
  | literal
  /-- Behind a dollar sign that may begin a placeholder. -/
  | dollar
  /-- Behind digits of a placeholder that stand for this number. -/
  | number (n : Nat)
deriving DecidableEq

/-- A character that words are made of. A dollar sign may stand in a word but begins none. -/
def isWordChar (c : Char) : Bool := c.isAlphanum || c == '_' || 128 ≤ c.toNat

namespace Reader

/-- Where a character leads a reader that is between words. -/
def start (c : Char) : Reader :=
  if c = '$' then dollar else if c = '\x22' then quoted else if c = '\x27' then literal
  else if isWordChar c then word else between

/-- Where a reader is behind one more character. -/
def next : Reader → Char → Reader
  | between, c => start c
  | word, c => if c = '$' then word else start c
  | quoted, c => if c = '\x22' then between else quoted
  | literal, c => if c = '\x27' then between else literal
  | dollar, c => if c.isDigit then number (c.toNat - '0'.toNat) else start c
  | number n, c => if c.isDigit then number (10 * n + (c.toNat - '0'.toNat)) else start c

/-- What a character between words is. A dollar sign is not known before what follows it. -/
def outside (c : Char) : List (Mark Nat) := if c = '$' then [] else [.char c]

/-- What a reader has found when it reads one more character. -/
def found : Reader → Char → List (Mark Nat)
  | between, c => outside c
  | word, c | quoted, c | literal, c => [.char c]
  | dollar, c => if c.isDigit then [] else .char '$' :: outside c
  | number n, c => if c.isDigit then [] else .hole n :: outside c

/-- What a reader has found when the text ends. -/
def rest : Reader → List (Mark Nat)
  | dollar => [.char '$']
  | number n => [.hole n]
  | _ => []

/-- Where a reader is behind some characters. -/
def after (r : Reader) (cs : List Char) : Reader := cs.foldl next r

/-- What a reader finds while it reads some characters. -/
def scan : Reader → List Char → List (Mark Nat)
  | _, [] => []
  | r, c :: cs => r.found c ++ scan (r.next c) cs

end Reader

/-- A text with its placeholders as holes. -/
def readText (s : String) : List (Mark Nat) :=
  Reader.between.scan s.toList ++ (Reader.between.after s.toList).rest

/-- A reader that comes from one place to another finds these marks in some characters. -/
def Reads (r : Reader) (cs : List Char) (marks : List (Mark Nat)) (r' : Reader) : Prop :=
  r.scan cs = marks ∧ r.after cs = r'

namespace Reads

variable {r r' r'' : Reader} {as bs : List Char} {ms ns : List (Mark Nat)}

theorem nil : Reads r [] [] r := ⟨rfl, rfl⟩

theorem singleton_iff {c : Char} : Reads r [c] ms r' ↔ r.found c = ms ∧ r.next c = r' := by
  simp [Reads, Reader.scan, Reader.after]

theorem cons {c : Char} (h : Reads (r.next c) bs ns r') :
    Reads r (c :: bs) (r.found c ++ ns) r' := ⟨by rw [← h.1]; rfl, h.2⟩

theorem append (ha : Reads r as ms r') (hb : Reads r' bs ns r'') :
    Reads r (as ++ bs) (ms ++ ns) r'' := by
  induction as generalizing r ms with
  | nil =>
    obtain ⟨rfl, rfl⟩ := ha
    exact hb
  | cons c cs ih =>
    obtain ⟨rfl, hr⟩ := ha
    rw [Reader.scan, List.append_assoc]
    exact .cons (ih ⟨rfl, hr⟩)

end Reads

/-! ## Words -/

/-- A reader that is in no quotation marks and in no placeholder. -/
def Reader.IsOpen (r : Reader) : Prop := r = .between ∨ r = .word

/-- Words in which no placeholder is read and quotation marks are closed. -/
def Plain (s : String) : Prop :=
  ∀ r : Reader, r.IsOpen → ∃ r', r'.IsOpen ∧ Reads r s.toList (chars s) r'

/-- Plain words that do not end within a word, so that a placeholder may stand behind them. -/
def Spaced (s : String) : Prop :=
  ∀ r : Reader, r.IsOpen → Reads r s.toList (chars s) .between

/-- A character that is neither a dollar sign nor a quotation mark. -/
def isSafe (c : Char) : Bool := c != '$' && c != '\x22' && c != '\x27'

theorem chars_append (a b : String) : (chars (a ++ b) : List (Mark α)) = chars a ++ chars b := by
  simp [chars]

theorem Spaced.plain {s : String} (h : Spaced s) : Plain s := fun r hr =>
  ⟨.between, .inl rfl, h r hr⟩

theorem Plain.append {a b : String} (ha : Plain a) (hb : Plain b) : Plain (a ++ b) := by
  intro r hr
  obtain ⟨r', hr', hra⟩ := ha r hr
  obtain ⟨r'', hr'', hrb⟩ := hb r' hr'
  rw [String.toList_append, chars_append]
  exact ⟨r'', hr'', hra.append hrb⟩

theorem Plain.append_spaced {a b : String} (ha : Plain a) (hb : Spaced b) : Spaced (a ++ b) := by
  intro r hr
  obtain ⟨r', hr', hra⟩ := ha r hr
  rw [String.toList_append, chars_append]
  exact hra.append (hb r' hr')

/-- A safe character leads to a place that depends on the character alone. -/
theorem reads_safe {c : Char} (hc : isSafe c = true) {r : Reader} (hr : r.IsOpen) :
    Reads r [c] [.char c] (if isWordChar c then .word else .between) := by
  simp only [isSafe, Bool.and_eq_true, bne_iff_ne, ne_eq] at hc
  obtain ⟨⟨hdollar, hdouble⟩, hsingle⟩ := hc
  rcases hr with rfl | rfl <;>
    simp [Reads.singleton_iff, Reader.found, Reader.next, Reader.outside, Reader.start, hdollar,
      hdouble, hsingle]

theorem plain_of_safe {s : String} (h : s.toList.all isSafe = true) : Plain s := by
  unfold Plain chars
  generalize s.toList = cs at h
  induction cs with
  | nil => exact fun r hr => ⟨r, hr, .nil⟩
  | cons c cs ih =>
    intro r hr
    rw [List.all_cons, Bool.and_eq_true] at h
    have hopen : (if isWordChar c then Reader.word else Reader.between).IsOpen := by
      split <;> simp [Reader.IsOpen]
    obtain ⟨r', hr', hrest⟩ := ih h.2 _ hopen
    exact ⟨r', hr', (reads_safe h.1 hr).append hrest⟩

/-- Safe words that end in a character of no word. -/
theorem spaced_of_safe {s : String} (h : s.toList.all isSafe = true)
    (hl : s.toList.getLast?.any (fun c => !isWordChar c) = true) : Spaced s := by
  obtain ⟨c, hc, hword⟩ := (Option.any_eq_true _ _).mp hl
  obtain ⟨cs, hcs⟩ := List.getLast?_eq_some_iff.mp hc
  intro r hr
  rw [hcs, List.all_append, Bool.and_eq_true] at h
  have hwords : (String.ofList cs).toList.all isSafe = true := by simpa using h.1
  have hsafe : isSafe c = true := by simpa using h.2
  obtain ⟨r', hr', hs⟩ := plain_of_safe hwords r hr
  have hlast := reads_safe hsafe hr'
  rw [Bool.not_eq_true'] at hword
  rw [hword] at hlast
  simpa [chars, hcs] using hs.append hlast

theorem SqlType.plain_name (t : SqlType) : Plain t.name :=
  plain_of_safe (by cases t <;> decide)

/-- Between quotation marks, doubled marks lead out of them and back. -/
theorem reads_quoted (cs : List Char) :
    Reads .quoted (cs.flatMap fun c => if c = '\x22' then [c, c] else [c])
      ((cs.flatMap fun c => if c = '\x22' then [c, c] else [c]).map .char) .quoted := by
  induction cs with
  | nil => exact .nil
  | cons c cs ih =>
    rw [List.flatMap_cons, List.map_append]
    refine .append ?_ ih
    by_cases hc : c = '\x22'
    · subst hc
      exact ⟨rfl, rfl⟩
    · simp [Reads.singleton_iff, Reader.found, Reader.next, hc]

/-- A character of a name other than the dollar sign begins a word. -/
theorem start_of_isNameChar {c : Char} (h : isNameChar c = true) (hc : c ≠ '$') :
    Reader.start c = .word := by
  have hdouble : c ≠ '\x22' := by
    rintro rfl
    exact absurd h (by decide)
  have hsingle : c ≠ '\x27' := by
    rintro rfl
    exact absurd h (by decide)
  have hword : isWordChar c = true := by
    simp only [isNameChar, hc, decide_false, Bool.or_false, Bool.or_eq_true,
      decide_eq_true_eq] at h
    have halpha : c.isAlphanum = (c.isUpper || c.isLower || c.isDigit) := rfl
    rcases h with (h | h) | rfl
    · simp [isWordChar, halpha, h]
    · simp [isWordChar, halpha, h]
    · decide
  simp [Reader.start, hc, hdouble, hsingle, hword]

/-- A word goes on with the characters that a name may hold. -/
theorem reads_name {cs : List Char} (h : cs.all isNameChar = true) :
    Reads .word cs (cs.map .char) .word := by
  induction cs with
  | nil => exact .nil
  | cons c cs ih =>
    rw [List.all_cons, Bool.and_eq_true] at h
    have hnext : Reader.word.next c = .word := by
      by_cases hc : c = '$'
      · simp [Reader.next, hc]
      · simp [Reader.next, hc, start_of_isNameChar h.1 hc]
    have hread : Reads .word [c] [.char c] .word := Reads.singleton_iff.mpr ⟨rfl, hnext⟩
    exact hread.append (ih h.2)

/-- A name is plain, whatever its characters are. -/
theorem plain_identifier (name : String) : Plain (identifier name) := by
  unfold identifier
  intro r hr
  split
  · have hopen : Reads r ['\x22'] [.char '\x22'] .quoted := by
      rcases hr with rfl | rfl <;> exact ⟨rfl, rfl⟩
    have hclose : Reads .quoted ['\x22'] [.char '\x22'] .between := ⟨rfl, rfl⟩
    refine ⟨.between, .inl rfl, ?_⟩
    simpa [chars] using hopen.append ((reads_quoted name.toList).append hclose)
  · next hneeds =>
    simp only [needsQuotes, Bool.or_eq_true, not_or, Bool.not_eq_true, Bool.not_eq_false'] at hneeds
    obtain ⟨⟨-, hall⟩, hfirst⟩ := hneeds
    refine ⟨.word, .inr rfl, ?_⟩
    unfold chars
    generalize name.toList = cs at hall hfirst
    cases cs with
    | nil => cases hfirst
    | cons c cs =>
      simp only [Bool.or_eq_false_iff, decide_eq_false_iff_not] at hfirst
      rw [List.all_cons, Bool.and_eq_true] at hall
      have hc := start_of_isNameChar hall.1 hfirst.2
      have hread : Reads r [c] [.char c] .word := by
        rcases hr with rfl | rfl <;>
          simp [Reads.singleton_iff, Reader.found, Reader.next, Reader.outside, hfirst.2, hc]
      exact hread.append (reads_name hall.2)

/-! ## Placeholders -/

/-- A hole with the type behind it that a placeholder names. -/
def typed (t : SqlType) (a : α) : List (Mark α) := .hole a :: chars ("::" ++ t.name)

/-- Holes with commas between them. -/
def typedList : List (SqlType × α) → List (Mark α)
  | [] => []
  | [e] => typed e.1 e.2
  | e :: f :: rest => typed e.1 e.2 ++ (chars ", " ++ typedList (f :: rest))

theorem reads_digits {ds : List Char} (h : ∀ d ∈ ds, d.isDigit = true) (n : Nat) :
    Reads (.number n) ds [] (.number (Nat.ofDigitChars 10 ds n)) := by
  induction ds generalizing n with
  | nil => exact .nil
  | cons d ds ih =>
    have hd := h d List.mem_cons_self
    have hrest := ih (fun e he => h e (List.mem_cons_of_mem _ he)) (10 * n + (d.toNat - '0'.toNat))
    have hstep : Reads (.number n) [d] [] (.number (10 * n + (d.toNat - '0'.toNat))) := by
      simp [Reads.singleton_iff, Reader.found, Reader.next, hd]
    rw [Nat.ofDigitChars_cons]
    exact hstep.append hrest

/-- The number of a placeholder is read as it was written. -/
theorem reads_number (n : Nat) :
    Reads .between ('$' :: Nat.toDigits 10 n) [] (.number n) := by
  have hdigits : ∀ d ∈ Nat.toDigits 10 n, d.isDigit = true := fun d hd =>
    Nat.isDigit_of_mem_toDigits (by decide) (by decide) hd
  have hvalue : Nat.ofDigitChars 10 (Nat.toDigits 10 n) 0 = n := Nat.ofDigitChars_ten_toDigits
  obtain ⟨d, ds, hcons⟩ := List.exists_cons_of_ne_nil (Nat.toDigits_ne_nil (n := n) (b := 10))
  rw [hcons] at hdigits hvalue ⊢
  have hfirst : Reads .between ['$', d] [] (.number (d.toNat - '0'.toNat)) := by
    simp [Reads, Reader.scan, Reader.after, Reader.found, Reader.next, Reader.outside,
      Reader.start, hdigits d List.mem_cons_self]
  have hrest := hfirst.append
    (reads_digits (fun e he => hdigits e (List.mem_cons_of_mem _ he)) (d.toNat - '0'.toNat))
  rw [Nat.ofDigitChars_cons, Nat.mul_zero, Nat.zero_add] at hvalue
  rwa [hvalue] at hrest

/-- A placeholder between words is read as its number, with its type behind it. -/
theorem reads_placeholder (n : Nat) (b : Bound) :
    ∃ r : Reader, r.IsOpen ∧ Reads .between (placeholder n b).toList (typed b.type n) r := by
  have hcolon : Reads (.number n) [':'] [.hole n, .char ':'] .between := ⟨rfl, rfl⟩
  obtain ⟨r, hr, htype⟩ :=
    (plain_of_safe (s := ":") (by decide)).append b.type.plain_name .between (.inl rfl)
  have htext : (placeholder n b).toList =
      ('$' :: Nat.toDigits 10 n) ++ ([':'] ++ (":" ++ b.type.name).toList) := by
    simp [placeholder, ToString.toString]
  have hmarks : typed b.type n = [] ++ ([.hole n, .char ':'] ++ chars (":" ++ b.type.name)) := by
    simp [typed, chars]
  rw [htext, hmarks]
  exact ⟨r, hr, (reads_number n).append (hcolon.append htype)⟩

theorem reads_placeholders (bs : List Bound) (n : Nat) :
    ∃ r : Reader, r.IsOpen ∧ Reads .between (placeholders n bs).toList
      (typedList ((bs.zipIdx n).map fun e => (e.1.type, e.2))) r := by
  induction bs generalizing n with
  | nil => exact ⟨_, .inl rfl, .nil⟩
  | cons b bs ih =>
    cases bs with
    | nil => exact reads_placeholder n b
    | cons c rest =>
      obtain ⟨r, hr, hb⟩ := reads_placeholder n b
      obtain ⟨r', hr', hrest⟩ := ih (n + 1)
      have hcomma : Spaced ", " := spaced_of_safe (by decide) (by decide)
      refine ⟨r', hr', ?_⟩
      simpa [placeholders, typedList] using hb.append ((hcomma r hr).append hrest)

/-! ## Pieces -/

/-- The text of pieces with each value in place of its placeholder. -/
def inlined : List Piece → List (Mark Value)
  | [] => []
  | .words s :: rest => chars s ++ inlined rest
  | .slot b :: rest => typed b.type b.value ++ inlined rest
  | .list bs :: rest => typedList (bs.map fun b => (b.type, b.value)) ++ inlined rest

/-- The text of pieces with values and their numbers, from those of the next placeholder outside
and inside lists. -/
def numbered : Nat → Nat → List Piece → List (Mark (Bound × Nat))
  | _, _, [] => []
  | i, j, .words s :: rest => chars s ++ numbered i j rest
  | i, j, .slot b :: rest => typed b.type (b, i) ++ numbered (i + 1) j rest
  | i, j, .list bs :: rest =>
    typedList ((bs.zipIdx j).map fun e => (e.1.type, e)) ++ numbered i (j + bs.length) rest

/-- Words are plain, and placeholders stand behind words that do not end within a word. The first
argument is what is known of the words in front. -/
def Tidy : Prop → List Piece → Prop
  | _, [] => True
  | _, .words s :: rest => Plain s ∧ Tidy (Spaced s) rest
  | ready, .slot _ :: rest | ready, .list _ :: rest => ready ∧ Tidy False rest

section Pieces

variable {f : α → β} {ps qs : List Piece}

@[simp] theorem fill_typed (t : SqlType) (a : α) : fill f (typed t a) = typed t (f a) := by
  simp [typed]

@[simp] theorem holes_typed (t : SqlType) (a : α) : holes (typed t a) = [a] := by
  simp [typed]

@[simp] theorem fill_typedList (es : List (SqlType × α)) :
    fill f (typedList es) = typedList (es.map fun e => (e.1, f e.2)) := by
  induction es with
  | nil => rfl
  | cons e es ih =>
    cases es with
    | nil => exact fill_typed _ _
    | cons e' es => simpa [typedList] using ih

@[simp] theorem holes_typedList (es : List (SqlType × α)) :
    holes (typedList es) = es.map Prod.snd := by
  induction es with
  | nil => rfl
  | cons e es ih =>
    cases es with
    | nil => exact holes_typed _ _
    | cons e' es => simpa [typedList] using ih

theorem inlined_append : inlined (ps ++ qs) = inlined ps ++ inlined qs := by
  induction ps with
  | nil => rfl
  | cons p ps ih => cases p <;> simp [inlined, ih]

/-- Without the numbers, the values stand in their places. -/
theorem fill_numbered (i j : Nat) (ps : List Piece) :
    fill (fun e => e.1.value) (numbered i j ps) = inlined ps := by
  induction ps generalizing i j with
  | nil => rfl
  | cons p ps ih =>
    cases p with
    | words s => simp [numbered, inlined, ih]
    | slot b => simp [numbered, inlined, ih]
    | list bs =>
      have hvalues : ((bs.zipIdx j).map fun e => (e.1.type, e.1.value)) =
          bs.map fun b => (b.type, b.value) := by
        conv_rhs => rw [← List.zipIdx_map_fst j bs, List.map_map]
        rfl
      simp [numbered, inlined, ih, ← hvalues, Function.comp_def]

/-- The numbers count the values outside lists and those of lists, each in their order. -/
theorem holes_numbered_perm (i j : Nat) (ps : List Piece) :
    (holes (numbered i j ps)).Perm ((slotBounds ps).zipIdx i ++ (listBounds ps).zipIdx j) := by
  induction ps generalizing i j with
  | nil => exact .refl _
  | cons p ps ih =>
    cases p with
    | words s => simpa [numbered, slotBounds, listBounds] using ih i j
    | slot b => simpa [numbered, slotBounds, listBounds] using ih (i + 1) j
    | list bs =>
      have hlist : holes (typedList ((bs.zipIdx j).map fun e => (e.1.type, e))) = bs.zipIdx j := by
        simp [Function.comp_def]
      rw [numbered, holes_append, hlist, slotBounds, listBounds, List.zipIdx_append]
      refine ((ih i (j + bs.length)).append_left _).trans ?_
      rw [← List.append_assoc, ← List.append_assoc]
      exact List.perm_append_comm.append_right _

theorem Tidy.mono {a b : Prop} (hab : a → b) (h : Tidy a ps) : Tidy b ps := by
  cases ps with
  | nil => trivial
  | cons p ps =>
    cases p with
    | words s => exact h
    | slot _ | list _ => exact ⟨hab h.1, h.2⟩

theorem Tidy.append {ready : Prop} (hp : Tidy ready ps) (hq : Tidy False qs) :
    Tidy ready (ps ++ qs) := by
  induction ps generalizing ready with
  | nil => exact hq.mono False.elim
  | cons p ps ih =>
    cases p with
    | words s => exact ⟨hp.1, ih hp.2⟩
    | slot _ | list _ => exact ⟨hp.1, ih hp.2⟩

/-- A reader finds the placeholders of tidy pieces. -/
theorem reads_numberedText {ready : Prop} (h : Tidy ready ps) (i j : Nat) {r : Reader}
    (hr : r.IsOpen) (hready : ready → r = .between) :
    ∃ r' : Reader, r'.IsOpen ∧
      Reads r (numberedText i j ps).toList (fill Prod.snd (numbered i j ps)) r' := by
  induction ps generalizing ready i j r with
  | nil => exact ⟨r, hr, .nil⟩
  | cons p ps ih =>
    cases p with
    | words s =>
      -- Words that are spaced lead to a place between words, others to any open place.
      obtain ⟨r', hr', hs⟩ := h.1 r hr
      have hbetween : Spaced s → r' = .between := fun hspaced =>
        hs.2.symm.trans (hspaced r hr).2
      obtain ⟨r'', hr'', hrest⟩ := ih h.2 i j hr' hbetween
      exact ⟨r'', hr'', by simpa [numberedText, numbered] using hs.append hrest⟩
    | slot b =>
      obtain rfl := hready h.1
      obtain ⟨r', hr', hb⟩ := reads_placeholder i b
      obtain ⟨r'', hr'', hrest⟩ := ih h.2 (i + 1) j hr' False.elim
      exact ⟨r'', hr'', by simpa [numberedText, numbered] using hb.append hrest⟩
    | list bs =>
      obtain rfl := hready h.1
      obtain ⟨r', hr', hb⟩ := reads_placeholders bs j
      obtain ⟨r'', hr'', hrest⟩ := ih h.2 i (j + bs.length) hr' False.elim
      refine ⟨r'', hr'', ?_⟩
      simpa [numberedText, numbered, Function.comp_def] using hb.append hrest

end Pieces

/-! ## Binding -/

/-- The placeholders of a text are the numbers of the values, each once, and with each value put in
place of its placeholder it is `text`. -/
structure Binds (r : Rendered) (text : List (Mark Value)) : Prop where
  numbers_perm : (holes (readText r.sql)).Perm (List.range' 1 r.params.length)
  fill_eq : fill (fun k => r.params[k - 1]?.map Bound.value) (readText r.sql) = fill some text

theorem binds_assemble {ps : List Piece} (h : Tidy False ps) :
    Binds (assemble ps) (inlined ps) := by
  let marks := numbered 1 ((slotBounds ps).length + 1) ps
  have hperm : (holes marks).Perm ((assemble ps).params.zipIdx 1) := by
    have hp := holes_numbered_perm 1 ((slotBounds ps).length + 1) ps
    rw [Nat.add_comm _ 1, ← List.zipIdx_append, Nat.add_comm 1] at hp
    exact hp
  have hread : readText (assemble ps).sql = fill Prod.snd marks := by
    obtain ⟨r, hr, hscan, hafter⟩ :=
      reads_numberedText h 1 ((slotBounds ps).length + 1) (r := .between) (.inl rfl) False.elim
    have hrest : r.rest = [] := by rcases hr with rfl | rfl <;> rfl
    unfold readText assemble
    rw [hscan, hafter, hrest, List.append_nil]
  refine ⟨?_, ?_⟩
  · rw [hread, holes_fill, ← List.zipIdx_map_snd]
    exact hperm.map Prod.snd
  · rw [hread, fill_fill, ← fill_numbered 1 ((slotBounds ps).length + 1), fill_fill]
    refine fill_congr fun e he => ?_
    obtain ⟨b, k⟩ := e
    have hb := List.mk_mem_zipIdx_iff_le_and_getElem?_sub.mp (hperm.mem_iff.mp he)
    exact congrArg (Option.map Bound.value) hb.2

end Electorate.Sql
