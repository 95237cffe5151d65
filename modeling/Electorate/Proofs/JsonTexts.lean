import Electorate.Proofs.JsonStrings
import Electorate.Proofs.Numerals
import Mathlib.Data.List.Forall2
import Mathlib.Data.List.Nodup

/-!
# The text of a JSON value

A value without doubles is known from its text, up to the order of the members of its objects. The
text of a value ends where a comma or a closing bracket follows, so of two texts that are written in
the same place neither goes on where the other has ended.

* `Plain`: values without doubles in which no object names a member twice.
* `Same`: values that differ in the order of object members at most.
* `canonical_eq_of_same`: such values have one text.
* `same_of_append_eq`: values with one text are such values, whatever follows.
* `canonical_eq_iff`: the two together.
-/

namespace Electorate.Json

open Electorate.Text (joinWith)

/-- A value without doubles in which no object names a member twice. -/
inductive Plain : Json → Prop where
  | null : Plain .null
  | bool (b : Bool) : Plain (.bool b)
  | int (n : Int) : Plain (.int n)
  | text (s : String) : Plain (.text s)
  | list {items : List Json} (hitems : ∀ v ∈ items, Plain v) : Plain (.list items)
  | object {members : List (String × Json)} (hnames : (members.map Prod.fst).Nodup)
      (hvalues : ∀ m ∈ members, Plain m.2) : Plain (.object members)

/-- Values that differ in the order of object members at most. Lists agree in order; objects have
the same names, and under each name the same value. Values of different kinds are never the same,
so a Boolean is no integer. -/
inductive Same : Json → Json → Prop where
  | null : Same .null .null
  | bool (b : Bool) : Same (.bool b) (.bool b)
  | int (n : Int) : Same (.int n) (.int n)
  | text (s : String) : Same (.text s) (.text s)
  | list {items items' : List Json} (hlength : items.length = items'.length)
      (hitems : ∀ p ∈ items.zip items', Same p.1 p.2) : Same (.list items) (.list items')
  | object {members members' : List (String × Json)}
      (hnames : ∀ name, name ∈ members.map Prod.fst ↔ name ∈ members'.map Prod.fst)
      (hvalues : ∀ name v w, (name, v) ∈ members → (name, w) ∈ members' → Same v w) :
      Same (.object members) (.object members')

/-! ## The order of members -/

section Members

variable {α β : Type} {l l' : List (String × α)} {name : String}

theorem sortMembers_perm (l : List (String × α)) : (sortMembers l).Perm l :=
  List.mergeSort_perm l _

theorem mem_sortMembers {m : String × α} : m ∈ sortMembers l ↔ m ∈ l :=
  (sortMembers_perm l).mem_iff

theorem sortMembers_map (f : α → β) (l : List (String × α)) :
    sortMembers (l.map fun m => (m.1, f m.2)) = (sortMembers l).map fun m => (m.1, f m.2) :=
  (List.map_mergeSort (f := fun m : String × α => (m.1, f m.2)) fun _ _ _ _ => rfl).symm

theorem pairwise_sortMembers (l : List (String × α)) :
    (sortMembers l).Pairwise fun a b => a.1 ≤ b.1 := by
  have hsorted : (sortMembers l).Pairwise fun a b => decide (a.1 ≤ b.1) = true := by
    refine List.pairwise_mergeSort (fun a b c hab hbc => ?_) (fun a b => ?_) l
    · exact decide_eq_true (String.le_trans (of_decide_eq_true hab) (of_decide_eq_true hbc))
    · rw [Bool.or_eq_true, decide_eq_true_iff, decide_eq_true_iff]
      exact String.le_total a.1 b.1
  exact hsorted.imp of_decide_eq_true

/-- Members of one name are one. -/
theorem eq_of_nodup_names {v w : α} (h : (l.map Prod.fst).Nodup) (hv : (name, v) ∈ l)
    (hw : (name, w) ∈ l) : v = w :=
  congrArg Prod.snd (List.inj_on_of_nodup_map h hv hw rfl)

/-- Members with distinct names are sorted in one way. -/
theorem sortMembers_eq_of_perm (h : (l.map Prod.fst).Nodup) (hperm : l.Perm l') :
    sortMembers l = sortMembers l' := by
  refine List.Perm.eq_of_pairwise (fun a b ha hb hab hba => ?_)
    (pairwise_sortMembers l) (pairwise_sortMembers l')
    (((sortMembers_perm l).trans hperm).trans (sortMembers_perm l').symm)
  exact List.inj_on_of_nodup_map h (mem_sortMembers.mp ha)
    (hperm.mem_iff.mpr (mem_sortMembers.mp hb)) (String.le_antisymm hab hba)

end Members

theorem canonicalItems_eq_map (items : List Json) : canonicalItems items = items.map canonical := by
  induction items with
  | nil => rw [canonicalItems, List.map_nil]
  | cons v rest ih => rw [canonicalItems, ih, List.map_cons]

theorem canonicalMembers_eq_map (members : List (String × Json)) :
    canonicalMembers members = members.map fun m => (m.1, canonical m.2) := by
  induction members with
  | nil => rw [canonicalMembers, List.map_nil]
  | cons m rest ih => rw [canonicalMembers, ih, List.map_cons]

theorem map_fst_canonicalMembers (members : List (String × Json)) :
    (canonicalMembers members).map Prod.fst = members.map Prod.fst := by
  rw [canonicalMembers_eq_map, List.map_map]
  rfl

theorem canonicalMembers_subset {members members' : List (String × Json)}
    (hnames : ∀ name ∈ members.map Prod.fst, name ∈ members'.map Prod.fst)
    (htexts : ∀ name v w, (name, v) ∈ members → (name, w) ∈ members' →
      v.canonical = w.canonical) :
    canonicalMembers members ⊆ canonicalMembers members' := by
  rw [canonicalMembers_eq_map, canonicalMembers_eq_map]
  intro m hm
  obtain ⟨⟨name, v⟩, hv, rfl⟩ := List.mem_map.mp hm
  obtain ⟨⟨_, w⟩, hw, rfl⟩ := List.mem_map.mp (hnames name (List.mem_map_of_mem hv))
  have htext : v.canonical = w.canonical := htexts _ v w hv hw
  exact List.mem_map.mpr ⟨_, hw, by rw [htext]⟩

/-- Values that differ in the order of object members alone have one text. -/
theorem canonical_eq_of_same {v w : Json} (hv : Plain v) (hw : Plain w) (h : Same v w) :
    v.canonical = w.canonical := by
  induction h with
  | null => rfl
  | bool => rfl
  | int => rfl
  | text => rfl
  | @list items items' hlength _ ih =>
    cases hv with | list hv =>
    cases hw with | list hw =>
    have htexts : canonicalItems items = canonicalItems items' := by
      have hcount : (items.map canonical).length = (items'.map canonical).length := by
        rw [List.length_map, List.length_map, hlength]
      rw [canonicalItems_eq_map, canonicalItems_eq_map]
      refine List.ext_getElem hcount fun i hi hi' => ?_
      rw [List.length_map] at hi hi'
      have hzip : i < (items.zip items').length := by
        rw [List.length_zip]
        omega
      have hmem := List.getElem_mem hzip
      rw [List.getElem_zip] at hmem
      rw [List.getElem_map, List.getElem_map]
      exact ih _ hmem (hv _ (List.getElem_mem hi)) (hw _ (List.getElem_mem hi'))
    rw [canonical, canonical, htexts]
  | @object members members' hnames _ ih =>
    cases hv with | object hnodup hv =>
    cases hw with | object hnodup' hw =>
    have htexts : ∀ name v w, (name, v) ∈ members → (name, w) ∈ members' →
        v.canonical = w.canonical :=
      fun name v w hmem hmem' => ih name v w hmem hmem' (hv _ hmem) (hw _ hmem')
    have hnodups : ((canonicalMembers members).map Prod.fst).Nodup ∧
        ((canonicalMembers members').map Prod.fst).Nodup := by
      rw [map_fst_canonicalMembers, map_fst_canonicalMembers]
      exact ⟨hnodup, hnodup'⟩
    have hperm : (canonicalMembers members).Perm (canonicalMembers members') :=
      (List.perm_ext_iff_of_nodup (hnodups.1.of_map _) (hnodups.2.of_map _)).mpr fun m =>
        ⟨fun hm => canonicalMembers_subset (fun name => (hnames name).mp) htexts hm,
          fun hm => canonicalMembers_subset (fun name => (hnames name).mpr)
            (fun name w v hw hv => (htexts name v w hv hw).symm) hm⟩
    rw [canonical, canonical, sortMembers_eq_of_perm hnodups.1 hperm]

/-! ## What stands behind a value -/

/-- The texts that may stand behind a value: none, and those that start with a comma or with the
end of a list or an object. -/
def Stop (cs : List Char) : Prop := ∀ c ∈ cs.head?, c = ',' ∨ c = ']' ∨ c = '\x7d'

theorem stop_nil : Stop [] := fun _ h => absurd h (Option.not_mem_none _)

theorem stop_cons {c : Char} {cs : List Char} : Stop (c :: cs) ↔ c = ',' ∨ c = ']' ∨ c = '\x7d' := by
  simp [Stop]

theorem Stop.isNumeral_head? {cs : List Char} (h : Stop cs) : ∀ c ∈ cs.head?, isNumeral c = false := by
  intro c hc
  rcases h c hc with rfl | rfl | rfl <;> decide

/-- The kinds of values that the first character of a text tells. -/
inductive TextKind where
  | null
  | truth
  | number
  | text
  | list
  | object
deriving DecidableEq

/-- The kind of a value. -/
def textKind : Json → TextKind
  | null => .null
  | bool _ => .truth
  | int _ => .number
  | float _ => .number
  | text _ => .text
  | list _ => .list
  | object _ => .object

/-- The kind of the values whose texts start with a character, where there are any. -/
def startKind (c : Char) : Option TextKind :=
  if c = 'n' then some .null
  else if c = 't' ∨ c = 'f' then some .truth
  else if c = '\x22' then some .text
  else if c = '[' then some .list
  else if c = '\x7b' then some .object
  else if isNumeral c then some .number
  else none

theorem startKind_of_isNumeral {c : Char} (h : isNumeral c = true) : startKind c = some .number := by
  have hne (d : Char) (hd : isNumeral d = false) : c ≠ d := by
    rintro rfl
    rw [h] at hd
    cases hd
  simp [startKind, h, hne _ (by decide : isNumeral 'n' = false),
    hne _ (by decide : isNumeral 't' = false), hne _ (by decide : isNumeral 'f' = false),
    hne _ (by decide : isNumeral '\x22' = false), hne _ (by decide : isNumeral '[' = false),
    hne _ (by decide : isNumeral '\x7b' = false)]

theorem canonical_int (n : Int) : (int n).canonical = n.repr := by rw [canonical]; rfl

theorem canonical_list_append (items : List Json) (r : List Char) :
    (list items).canonical.toList ++ r =
      '[' :: ((joinWith "," (items.map canonical)).toList ++ ']' :: r) := by
  rw [canonical, canonicalItems_eq_map]
  simp

/-- The text of a member of an object. -/
def memberOf (m : String × Json) : String := memberText (m.1, m.2.canonical)

theorem canonical_object_append (members : List (String × Json)) (r : List Char) :
    (object members).canonical.toList ++ r =
      '\x7b' :: ((joinWith "," ((sortMembers members).map memberOf)).toList ++ '\x7d' :: r) := by
  have hmap : (sortMembers (canonicalMembers members)).map memberText =
      (sortMembers members).map memberOf := by
    rw [canonicalMembers_eq_map, sortMembers_map, List.map_map]
    rfl
  rw [canonical, hmap]
  simp

/-- The first character of a text tells the kind of the value. -/
theorem exists_startKind {v : Json} (h : Plain v) :
    ∃ c rest, v.canonical.toList = c :: rest ∧ startKind c = some v.textKind := by
  cases h with
  | null => exact ⟨'n', _, by rw [canonical]; rfl, rfl⟩
  | bool b =>
    cases b with
    | true => exact ⟨'t', _, by rw [canonical]; rfl, rfl⟩
    | false => exact ⟨'f', _, by rw [canonical]; rfl, rfl⟩
  | int n =>
    obtain ⟨c, rest, hrepr⟩ := List.exists_cons_of_ne_nil
      (mt String.toList_eq_nil_iff.mp (intRepr_ne_empty n))
    have hmem : c ∈ n.repr.toList := hrepr ▸ List.mem_cons_self
    exact ⟨c, rest, by rw [canonical_int, hrepr],
      startKind_of_isNumeral (isNumeral_of_mem_repr hmem)⟩
  | text s => exact ⟨'\x22', _, by rw [canonical, stringText, String.toList_ofList]; rfl, rfl⟩
  | list => exact ⟨'[', _, by rw [← List.append_nil (canonical _).toList, canonical_list_append], rfl⟩
  | object =>
    exact ⟨'\x7b', _, by rw [← List.append_nil (canonical _).toList, canonical_object_append], rfl⟩

theorem textKind_eq_of_append_eq {v w : Json} (hv : Plain v) (hw : Plain w) {r r' : List Char}
    (h : v.canonical.toList ++ r = w.canonical.toList ++ r') : v.textKind = w.textKind := by
  obtain ⟨c, rest, hc, hkind⟩ := exists_startKind hv
  obtain ⟨c', rest', hc', hkind'⟩ := exists_startKind hw
  rw [hc, hc'] at h
  rw [(List.cons.inj h).1, hkind'] at hkind
  exact (Option.some.inj hkind).symm

theorem not_stop_canonical_append {v : Json} (hv : Plain v) (r : List Char) :
    ¬Stop (v.canonical.toList ++ r) := by
  obtain ⟨c, rest, hc, hkind⟩ := exists_startKind hv
  rw [hc, List.cons_append, stop_cons]
  rintro (rfl | rfl | rfl) <;> cases hkind

/-- Two runs of characters of one sort, each as long as possible in the same text. -/
theorem eq_of_append_eq_append {p : Char → Bool} {s t r r' : List Char} (hs : ∀ c ∈ s, p c = true)
    (ht : ∀ c ∈ t, p c = true) (hr : ∀ c ∈ r.head?, p c = false) (hr' : ∀ c ∈ r'.head?, p c = false)
    (h : s ++ r = t ++ r') : s = t ∧ r = r' := by
  have htake (s r : List Char) (hs : ∀ c ∈ s, p c = true) (hr : ∀ c ∈ r.head?, p c = false) :
      (s ++ r).takeWhile p = s := by
    rw [List.takeWhile_append_of_pos hs]
    cases r with
    | nil => simp
    | cons c r => simp [hr c rfl]
  have hst : s = t := by rw [← htake s r hs hr, h, htake t r' ht hr']
  subst hst
  exact ⟨rfl, List.append_cancel_left h⟩

/-! ## Lists of texts -/

section Following

variable {α : Type} (f : α → String) (close : Char)

/-- What stands behind an item of a list: the other items, each behind a comma, the end of the
list, and what follows it. -/
def following : List α → List Char → List Char
  | [], r => close :: r
  | a :: rest, r => ',' :: ((f a).toList ++ following rest r)

theorem joinWith_append_cons (a : α) (rest : List α) (r : List Char) :
    (joinWith "," ((a :: rest).map f)).toList ++ close :: r =
      (f a).toList ++ following f close rest r := by
  induction rest generalizing a with
  | nil => rfl
  | cons b rest ih =>
    rw [following, ← ih b]
    simp only [List.map_cons, joinWith, String.toList_append, List.append_assoc]
    rfl

variable {f close} {l l' : List α} {R : α → α → Prop} {r r' : List Char}

theorem stop_following (hclose : close = ']' ∨ close = '\x7d') : Stop (following f close l r) := by
  cases l with
  | nil => exact stop_cons.mpr (.inr hclose)
  | cons => exact stop_cons.mpr (.inl rfl)

/-- Items that are known from their texts are known from what stands behind an item. -/
theorem following_inj (hclose : close = ']' ∨ close = '\x7d')
    (hitem : ∀ a ∈ l, ∀ b ∈ l', ∀ {r r'}, Stop r → Stop r' →
      (f a).toList ++ r = (f b).toList ++ r' → R a b ∧ r = r')
    (h : following f close l r = following f close l' r') : List.Forall₂ R l l' ∧ r = r' := by
  have hcomma : close ≠ ',' := by rcases hclose with rfl | rfl <;> decide
  induction l generalizing l' with
  | nil =>
    cases l' with
    | nil => exact ⟨.nil, (List.cons.inj h).2⟩
    | cons b l' => exact absurd (List.cons.inj h).1 hcomma
  | cons a l ih =>
    cases l' with
    | nil => exact absurd (List.cons.inj h).1.symm hcomma
    | cons b l' =>
      obtain ⟨hR, hrest⟩ := hitem a List.mem_cons_self b List.mem_cons_self
        (stop_following hclose) (stop_following hclose) (List.cons.inj h).2
      obtain ⟨hRs, hr⟩ := ih (fun a ha b hb => hitem a (List.mem_cons_of_mem _ ha) b
        (List.mem_cons_of_mem _ hb)) hrest
      exact ⟨.cons hR hRs, hr⟩

/-- Items that are known from their texts are known from the list of their texts. -/
theorem joinWith_inj (hclose : close = ']' ∨ close = '\x7d')
    (hstart : ∀ a ∈ l, ∀ r, ¬Stop ((f a).toList ++ r))
    (hstart' : ∀ a ∈ l', ∀ r, ¬Stop ((f a).toList ++ r))
    (hitem : ∀ a ∈ l, ∀ b ∈ l', ∀ {r r'}, Stop r → Stop r' →
      (f a).toList ++ r = (f b).toList ++ r' → R a b ∧ r = r')
    (h : (joinWith "," (l.map f)).toList ++ close :: r =
      (joinWith "," (l'.map f)).toList ++ close :: r') : List.Forall₂ R l l' ∧ r = r' := by
  have hend : ∀ r, Stop (close :: r) := fun r => stop_cons.mpr (.inr hclose)
  cases l with
  | nil =>
    cases l' with
    | nil => exact ⟨.nil, (List.cons.inj h).2⟩
    | cons b l' =>
      rw [joinWith_append_cons] at h
      exact absurd (Eq.subst h (hend r)) (hstart' b List.mem_cons_self _)
  | cons a l =>
    cases l' with
    | nil =>
      rw [joinWith_append_cons] at h
      exact absurd (Eq.subst h.symm (hend r')) (hstart a List.mem_cons_self _)
    | cons b l' =>
      rw [joinWith_append_cons, joinWith_append_cons] at h
      exact following_inj hclose hitem (congrArg (',' :: ·) h)

end Following

/-! ## Values from texts -/

theorem memberOf_append (m : String × Json) (r : List Char) :
    (memberOf m).toList ++ r = (stringText m.1).toList ++ ':' :: (m.2.canonical.toList ++ r) := by
  simp [memberOf, memberText]

theorem not_stop_memberOf_append (m : String × Json) (r : List Char) :
    ¬Stop ((memberOf m).toList ++ r) := by
  rw [memberOf_append, toList_stringText_append, stop_cons]
  decide

theorem exists_of_mem_forall₂ {α : Type} {R : α → α → Prop} {l l' : List α} {a : α}
    (h : List.Forall₂ R l l') (ha : a ∈ l) : ∃ b ∈ l', R a b := by
  induction h with
  | nil => cases ha
  | @cons c d l l' hcd _ ih =>
    rcases List.mem_cons.mp ha with rfl | ha
    · exact ⟨d, List.mem_cons_self, hcd⟩
    · obtain ⟨b, hb, hR⟩ := ih ha
      exact ⟨b, List.mem_cons_of_mem d hb, hR⟩

/-- Objects whose sorted members agree are the same. -/
theorem same_object_of_forall₂ {members members' : List (String × Json)}
    (hnodup' : (members'.map Prod.fst).Nodup)
    (h : List.Forall₂ (fun m m' => m.1 = m'.1 ∧ Same m.2 m'.2) (sortMembers members)
      (sortMembers members')) : Same (.object members) (.object members') := by
  have hnames : (sortMembers members).map Prod.fst = (sortMembers members').map Prod.fst :=
    List.forall₂_eq_eq_eq ▸ List.forall₂_map_left_iff.mpr
      (List.forall₂_map_right_iff.mpr (h.imp fun _ _ hm => hm.1))
  refine .object (fun name => ?_) fun name v w hv hw => ?_
  · rw [← ((sortMembers_perm members).map Prod.fst).mem_iff, hnames,
      ((sortMembers_perm members').map Prod.fst).mem_iff]
  · obtain ⟨⟨_, w'⟩, hw', rfl, hsame⟩ := exists_of_mem_forall₂ h (mem_sortMembers.mpr hv)
    rw [eq_of_nodup_names hnodup' hw (mem_sortMembers.mp hw')]
    exact hsame

/-- Values of which one text begins the other, where each ends, are the same. -/
theorem same_of_append_eq {v w : Json} (hv : Plain v) (hw : Plain w) {r r' : List Char}
    (hr : Stop r) (hr' : Stop r') (h : v.canonical.toList ++ r = w.canonical.toList ++ r') :
    Same v w ∧ r = r' := by
  -- The first character tells that both values are of one kind; each kind then ends where it ends.
  induction hv generalizing w r r' with
  | null =>
    have hkind := textKind_eq_of_append_eq .null hw h
    cases hw with
    | null => exact ⟨.null, List.append_cancel_left h⟩
    | _ => cases hkind
  | bool b =>
    have hkind := textKind_eq_of_append_eq (.bool b) hw h
    cases hw with
    | bool b' =>
      rw [canonical, canonical] at h
      cases b with
      | true =>
        cases b' with
        | true => exact ⟨.bool true, List.append_cancel_left h⟩
        | false => exact absurd (List.cons.inj h).1 (by decide)
      | false =>
        cases b' with
        | true => exact absurd (List.cons.inj h).1 (by decide)
        | false => exact ⟨.bool false, List.append_cancel_left h⟩
    | _ => cases hkind
  | int n =>
    have hkind := textKind_eq_of_append_eq (.int n) hw h
    cases hw with
    | int n' =>
      rw [canonical_int, canonical_int] at h
      obtain ⟨hrepr, hrest⟩ := eq_of_append_eq_append (p := isNumeral)
        (fun c hc => isNumeral_of_mem_repr hc) (fun c hc => isNumeral_of_mem_repr hc)
        hr.isNumeral_head? hr'.isNumeral_head? h
      rw [intRepr_injective (String.toList_injective hrepr)]
      exact ⟨.int n', hrest⟩
    | _ => cases hkind
  | text s =>
    have hkind := textKind_eq_of_append_eq (.text s) hw h
    cases hw with
    | text s' =>
      rw [canonical, canonical] at h
      obtain ⟨rfl, hrest⟩ := stringText_append_inj h
      exact ⟨.text s, hrest⟩
    | _ => cases hkind
  | @list items hitems ih =>
    have hkind := textKind_eq_of_append_eq (.list hitems) hw h
    cases hw with
    | @list items' hitems' =>
      rw [canonical_list_append, canonical_list_append] at h
      obtain ⟨hsame, hrest⟩ := joinWith_inj (R := Same) (.inl rfl)
        (fun v hv => not_stop_canonical_append (hitems v hv))
        (fun v hv => not_stop_canonical_append (hitems' v hv))
        (fun v hv w hw => ih v hv (hitems' w hw)) (List.cons.inj h).2
      obtain ⟨hlength, hzip⟩ := List.forall₂_iff_zip.mp hsame
      exact ⟨.list hlength fun _ hp => hzip hp, hrest⟩
    | _ => cases hkind
  | @object members hnodup hvalues ih =>
    have hkind := textKind_eq_of_append_eq (.object hnodup hvalues) hw h
    cases hw with
    | @object members' hnodup' hvalues' =>
      rw [canonical_object_append, canonical_object_append] at h
      obtain ⟨hsame, hrest⟩ := joinWith_inj
        (R := fun m m' : String × Json => m.1 = m'.1 ∧ Same m.2 m'.2) (.inr rfl)
        (fun m _ => not_stop_memberOf_append m) (fun m _ => not_stop_memberOf_append m)
        (fun m hm m' hm' r r' hr hr' htexts => by
          rw [memberOf_append, memberOf_append] at htexts
          obtain ⟨hname, hvalue⟩ := stringText_append_inj htexts
          obtain ⟨hsame, hrest⟩ := ih m (mem_sortMembers.mp hm)
            (hvalues' m' (mem_sortMembers.mp hm')) hr hr' (List.cons.inj hvalue).2
          exact ⟨⟨hname, hsame⟩, hrest⟩) (List.cons.inj h).2
      exact ⟨same_object_of_forall₂ hnodup' hsame, hrest⟩
    | _ => cases hkind

/-- Two values have one text exactly if they differ in the order of object members at most. -/
theorem canonical_eq_iff {v w : Json} (hv : Plain v) (hw : Plain w) :
    v.canonical = w.canonical ↔ Same v w :=
  ⟨fun h => (same_of_append_eq hv hw stop_nil stop_nil (by rw [h])).1, canonical_eq_of_same hv hw⟩

end Electorate.Json
