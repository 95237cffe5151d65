/-!
# Cutting and joining texts

* `splitOn`: the pieces of a text between the occurrences of one character. There is always one
  piece more than there are occurrences, so the empty text has one empty piece.
* `cutAt`: the text before and after the first occurrence of a character.
* `joinWith`: texts written one after the other with a separator between them. They are read back
  by `splitOn` unless the separator is in one of them.
-/

namespace Electorate.Text

/-- The pieces of a list of characters between the occurrences of `sep`. -/
def splitChars (sep : Char) : List Char → List (List Char)
  | [] => [[]]
  | c :: cs =>
    if c = sep then [] :: splitChars sep cs
    else
      match splitChars sep cs with
      | [] => [[c]]
      | piece :: pieces => (c :: piece) :: pieces

/-- The pieces of a text between the occurrences of `sep`. -/
def splitOn (sep : Char) (s : String) : List String :=
  (splitChars sep s.toList).map String.ofList

/-- The text before the first `sep` and, if there is one, the text after it. -/
def cutAt (sep : Char) (s : String) : String × Option String :=
  let before := s.toList.takeWhile (· ≠ sep)
  match s.toList.dropWhile (· ≠ sep) with
  | [] => (String.ofList before, none)
  | _ :: after => (String.ofList before, some (String.ofList after))

/-- The texts in order with `sep` between neighbours. -/
def joinWith (sep : String) : List String → String
  | [] => ""
  | [s] => s
  | s :: t :: rest => s ++ sep ++ joinWith sep (t :: rest)

theorem splitChars_ne_nil (sep : Char) (cs : List Char) : splitChars sep cs ≠ [] := by
  cases cs with
  | nil => simp [splitChars]
  | cons c cs =>
    simp only [splitChars]
    split
    · simp
    · split <;> simp

/-- The length of `splitChars` is one more than the number of separators. -/
theorem length_splitChars (sep : Char) (cs : List Char) :
    (splitChars sep cs).length = cs.count sep + 1 := by
  induction cs with
  | nil => rfl
  | cons c cs ih =>
    simp only [splitChars]
    split
    · next h => subst h; simp [ih]
    · next h =>
      split
      · next heq => exact absurd heq (splitChars_ne_nil sep cs)
      · next piece pieces heq =>
        rw [heq] at ih
        simp only [List.length_cons] at ih ⊢
        rw [ih, List.count_cons_of_ne h]

theorem splitChars_of_not_mem {sep : Char} {cs : List Char} (h : sep ∉ cs) :
    splitChars sep cs = [cs] := by
  induction cs with
  | nil => rfl
  | cons c cs ih =>
    obtain ⟨hc, hcs⟩ := not_or.mp (mt List.mem_cons.mpr h)
    rw [splitChars, if_neg (Ne.symm hc), ih hcs]

/-- The first piece ends at the first separator. -/
theorem splitChars_append_cons {sep : Char} {cs : List Char} (h : sep ∉ cs) (rest : List Char) :
    splitChars sep (cs ++ sep :: rest) = cs :: splitChars sep rest := by
  induction cs with
  | nil => simp [splitChars]
  | cons c cs ih =>
    obtain ⟨hc, hcs⟩ := not_or.mp (mt List.mem_cons.mpr h)
    rw [List.cons_append, splitChars, if_neg (Ne.symm hc), ih hcs]

/-- Texts without the separator are read back from what joins them. -/
theorem splitOn_joinWith {sep : Char} {l : List String} (hne : l ≠ [])
    (h : ∀ s ∈ l, sep ∉ s.toList) : splitOn sep (joinWith (String.singleton sep) l) = l := by
  match l with
  | [s] =>
    rw [joinWith, splitOn, splitChars_of_not_mem (h s (by simp))]
    simp
  | s :: t :: rest =>
    have htail : splitOn sep (joinWith (String.singleton sep) (t :: rest)) = t :: rest :=
      splitOn_joinWith (by simp) fun u hu => h u (List.mem_cons_of_mem s hu)
    rw [splitOn] at htail
    rw [joinWith, splitOn, String.append_assoc, String.toList_append, String.toList_append,
      String.toList_singleton, List.singleton_append, splitChars_append_cons (h s (by simp)),
      List.map_cons, htail, String.ofList_toList]

/-- Texts that are not empty are read back even where there is none. -/
theorem filter_splitOn_joinWith {sep : Char} {l : List String} (hsep : ∀ s ∈ l, sep ∉ s.toList)
    (hempty : ∀ s ∈ l, s ≠ "") :
    (splitOn sep (joinWith (String.singleton sep) l)).filter (· ≠ "") = l := by
  cases l with
  | nil => rfl
  | cons s rest =>
    rw [splitOn_joinWith (by simp) hsep, List.filter_eq_self]
    simpa using hempty

end Electorate.Text
