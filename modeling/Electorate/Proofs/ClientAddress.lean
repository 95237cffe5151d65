import Electorate.Proofs.Extraction
import Electorate.Web.Client

/-!
# Clients with and without an address

The requests of a client are counted under the address that a trusted header names, or that of the
connection. A header that lists addresses may begin with a comma: it has text in it then, but no
address in front of the comma, and the client is left without an address.

* `headerText`, `candidate`: the text of a header, and the address that it names.
* `firstNamed`: the first address that is named, else that of the connection.
* `BeginsWithComma`: the first trusted header with text lists addresses and begins with a comma.
* `clientAddress_eq`: the first header with text decides, whether it names an address or not.
* `clientAddress_blank_iff`: a client has no address only where that header begins with a comma, and
  everywhere else the first that is named. `not_named_comma`: two clients without one.
-/

namespace Electorate.Web

/-- The text of a header without blanks at its ends, empty if there is no such header. -/
def headerText (headers : Headers) (name : String) : String :=
  Text.strip ((header? headers name).getD "")

/-- The address that a header names: its text, and of a list of addresses the first. -/
def candidate (headers : Headers) (name : String) : String :=
  if Text.lowerAscii name = forwardedFor then
    Text.strip (Text.cutAt ',' (headerText headers name)).1
  else headerText headers name

/-- The first address that a trusted header names, else that of the connection. -/
def firstNamed (trusted : List String) (headers : Headers) (peer : String) : String :=
  ((trusted.map (candidate headers)).find? (· ≠ "")).getD peer

/-- The first trusted header with text in it lists addresses, and its text begins with a comma. -/
def BeginsWithComma (trusted : List String) (headers : Headers) : Prop :=
  ∃ name, trusted.find? (headerText headers · ≠ "") = some name ∧
    Text.lowerAscii name = forwardedFor ∧ (headerText headers name).toList.head? = some ','

variable {trusted : List String} {headers : Headers} {name peer : String}

theorem strip_headerText : Text.strip (headerText headers name) = headerText headers name :=
  Text.strip_strip _

theorem strip_candidate : Text.strip (candidate headers name) = candidate headers name := by
  unfold candidate
  split
  · exact Text.strip_strip _
  · exact strip_headerText

/-- A text without blanks at its ends has something in front of its first comma unless it begins
with one. -/
theorem strip_cutAt_eq_empty_iff {s : String} (hs : Text.strip s = s) (hne : s ≠ "") :
    Text.strip (Text.cutAt ',' s).1 = "" ↔ s.toList.head? = some ',' := by
  have hbefore : (Text.cutAt ',' s).1 = String.ofList (s.toList.takeWhile (· ≠ ',')) := by
    unfold Text.cutAt
    split <;> rfl
  obtain ⟨c, rest, hlist⟩ : ∃ c rest, s.toList = c :: rest :=
    List.exists_cons_of_ne_nil fun h => hne (String.toList_eq_nil_iff.mp h)
  rw [hbefore, hlist, List.head?_cons, Option.some.injEq]
  constructor
  · intro hblank
    by_contra hc
    -- The first character is no blank, and it stands in front of the comma.
    have hhead : c ∈ s.toList.head? := by
      rw [hlist]
      rfl
    have hvisible : Text.isBlank c = false := (Text.strip_eq_self_iff.mp hs).1 c hhead
    have htake : (c :: rest).takeWhile (· ≠ ',') = c :: rest.takeWhile (· ≠ ',') :=
      List.takeWhile_cons_of_pos (decide_eq_true hc)
    have hmem : c ∈ (String.ofList ((c :: rest).takeWhile (· ≠ ','))).toList := by
      rw [String.toList_ofList, htake]
      exact List.mem_cons_self
    rw [Text.isBlank_of_strip_eq_empty hblank hmem] at hvisible
    cases hvisible
  · rintro rfl
    rw [List.takeWhile_cons_of_neg (by simp)]
    rfl

/-- A header without text names no address. -/
theorem candidate_eq_empty (h : headerText headers name = "") : candidate headers name = "" := by
  unfold candidate
  rw [h]
  split <;> rfl

theorem candidate_eq_empty_iff (h : headerText headers name ≠ "") :
    candidate headers name = "" ↔ Text.lowerAscii name = forwardedFor ∧
      (headerText headers name).toList.head? = some ',' := by
  unfold candidate
  split
  · next hlist =>
    rw [strip_cutAt_eq_empty_iff strip_headerText h]
    exact ⟨fun hcomma => ⟨hlist, hcomma⟩, And.right⟩
  · next hlist => exact ⟨fun htext => absurd htext h, fun hcomma => absurd hcomma.1 hlist⟩

/-- The first trusted header with text in it decides. -/
theorem clientAddress_eq (trusted : List String) (headers : Headers) (peer : String) :
    clientAddress trusted headers (some peer) =
      ((trusted.find? (headerText headers · ≠ "")).map (candidate headers)).getD peer := by
  have hread (name : String) : addressIn headers name =
      if headerText headers name = "" then none else some (candidate headers name) := by
    unfold addressIn candidate headerText
    dsimp only
    split
    · rfl
    · split <;> rfl
  have hfound : trusted.findSome? (addressIn headers) =
      (trusted.find? (headerText headers · ≠ "")).map (candidate headers) := by
    induction trusted with
    | nil => rfl
    | cons name trusted ih =>
      rw [List.findSome?_cons, hread]
      by_cases htext : headerText headers name = ""
      · have hskip : (name :: trusted).find? (headerText headers · ≠ "") =
            trusted.find? (headerText headers · ≠ "") :=
          List.find?_cons_of_neg (by simpa using htext)
        rw [if_pos htext, hskip]
        exact ih
      · have hfirst : (name :: trusted).find? (headerText headers · ≠ "") = some name :=
          List.find?_cons_of_pos (decide_eq_true htext)
        rw [if_neg htext, hfirst]
        rfl
  unfold clientAddress
  rw [hfound]
  cases trusted.find? (headerText headers · ≠ "") <;> rfl

/-- The first header with text is the first that names an address, if it names one at all. -/
theorem find?_candidate
    (h : ∀ name ∈ trusted.find? (headerText headers · ≠ ""), candidate headers name ≠ "") :
    (trusted.map (candidate headers)).find? (· ≠ "") =
      (trusted.find? (headerText headers · ≠ "")).map (candidate headers) := by
  induction trusted with
  | nil => rfl
  | cons name trusted ih =>
    rw [List.map_cons]
    by_cases htext : headerText headers name = ""
    · -- A header without text is passed over on both sides.
      have hskip : (name :: trusted).find? (headerText headers · ≠ "") =
          trusted.find? (headerText headers · ≠ "") :=
        List.find?_cons_of_neg (by simpa using htext)
      have hempty : candidate headers name = "" := candidate_eq_empty htext
      rw [hskip] at h ⊢
      rw [hempty]
      exact ih h
    · have hfirst : (name :: trusted).find? (headerText headers · ≠ "") = some name :=
        List.find?_cons_of_pos (decide_eq_true htext)
      rw [hfirst] at h ⊢
      have hnamed : candidate headers name ≠ "" := h name rfl
      exact List.find?_cons_of_pos (decide_eq_true hnamed)

theorem clientAddress_of_beginsWithComma (h : BeginsWithComma trusted headers) :
    clientAddress trusted headers (some peer) = "" := by
  obtain ⟨name, hfirst, hcomma⟩ := h
  have htext : headerText headers name ≠ "" := by simpa using List.find?_some hfirst
  rw [clientAddress_eq, hfirst, Option.map_some, Option.getD_some]
  exact (candidate_eq_empty_iff htext).mpr hcomma

theorem clientAddress_of_not_beginsWithComma (h : ¬BeginsWithComma trusted headers) :
    clientAddress trusted headers (some peer) = firstNamed trusted headers peer := by
  rw [clientAddress_eq, firstNamed, find?_candidate]
  intro name hfirst hempty
  have htext : headerText headers name ≠ "" := by simpa using List.find?_some hfirst
  exact h ⟨name, hfirst, (candidate_eq_empty_iff htext).mp hempty⟩

/-- The first address that is named is no blank one, and neither is that of the connection. -/
theorem strip_firstNamed_ne_empty (hpeer : Text.strip peer ≠ "") :
    Text.strip (firstNamed trusted headers peer) ≠ "" := by
  unfold firstNamed
  cases hfirst : (trusted.map (candidate headers)).find? (· ≠ "") with
  | none => exact hpeer
  | some address =>
    have hne : address ≠ "" := by simpa using List.find?_some hfirst
    obtain ⟨name, -, rfl⟩ := List.mem_map.mp (List.mem_of_find?_eq_some hfirst)
    rwa [Option.getD_some, strip_candidate]

/-- A client whose connection has an address is left without one exactly if the first trusted header
with text in it lists addresses and begins with a comma, and then with the same blank one as all
such clients. Every other client has the first address that a trusted header names, or else that of
the connection. -/
theorem clientAddress_blank_iff (trusted : List String) (headers : Headers) {peer : String}
    (hpeer : Text.strip peer ≠ "") :
    (Text.strip (clientAddress trusted headers (some peer)) = "" ↔
      BeginsWithComma trusted headers) ∧
    (BeginsWithComma trusted headers → clientAddress trusted headers (some peer) = "") ∧
    (¬BeginsWithComma trusted headers →
      clientAddress trusted headers (some peer) = firstNamed trusted headers peer) := by
  refine ⟨⟨fun hblank => ?_, fun h => ?_⟩, clientAddress_of_beginsWithComma,
    clientAddress_of_not_beginsWithComma⟩
  · by_contra h
    rw [clientAddress_of_not_beginsWithComma h] at hblank
    exact strip_firstNamed_ne_empty hpeer hblank
  · rw [clientAddress_of_beginsWithComma h]
    rfl

/-- A blank header is passed over, and of a list of addresses the first one counts. -/
theorem clientAddress_blank_iff_listed :
    Text.strip "192.0.2.1" ≠ "" ∧
    clientAddress defaultTrustedHeaders
      [("x-real-ip", "198.51.100.7"), ("X-Forwarded-For", " 203.0.113.9 , ,10.0.0.1"),
        ("cf-connecting-ip", " ")] (some "192.0.2.1") = "203.0.113.9" := by
  have hpeer : Text.strip "192.0.2.1" ≠ "" := by decide
  have h := (clientAddress_blank_iff defaultTrustedHeaders
    [("x-real-ip", "198.51.100.7"), ("X-Forwarded-For", " 203.0.113.9 , ,10.0.0.1"),
      ("cf-connecting-ip", " ")] hpeer).2.2
  have hnamed : ¬BeginsWithComma defaultTrustedHeaders
      [("x-real-ip", "198.51.100.7"), ("X-Forwarded-For", " 203.0.113.9 , ,10.0.0.1"),
        ("cf-connecting-ip", " ")] := by
    rintro ⟨name, hfirst, -, hcomma⟩
    obtain rfl : "X-Forwarded-For" = name := Option.some.inj ((show some "X-Forwarded-For" = _ by
      decide).trans hfirst)
    exact absurd hcomma (by decide)
  exact ⟨hpeer, (h hnamed).trans (by decide)⟩

/-- A header of a comma leaves two clients with connections of their own without an address. -/
theorem not_named_comma :
    Text.strip "192.0.2.1" ≠ "" ∧ Text.strip "192.0.2.2" ≠ "" ∧
    clientAddress defaultTrustedHeaders [("X-Forwarded-For", ",")] (some "192.0.2.1") = "" ∧
    clientAddress defaultTrustedHeaders [("X-Forwarded-For", ",")] (some "192.0.2.2") = "" := by
  decide

end Electorate.Web
