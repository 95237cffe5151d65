import Electorate.Text.CaseTable

/-!
# Upper case, case folding and ASCII lower case

* `upper`: the full upper case mapping, one character at a time. It may lengthen the text: the
  sharp s becomes two letters.
* `fold`: the full case folding, under which texts that differ in case alone are equal.
* `lowerAscii`: lower case of the letters A to Z and nothing else.
-/

namespace Electorate.Text

/-- The images of one character under a table of runs and expansions, itself if it is in neither. -/
def mapCase (runs : List CaseRun) (expansions : List (Nat × List Nat)) (c : Char) : List Char :=
  match runs.find? (·.covers c.toNat) with
  | some run => [Char.ofNat (run.image c.toNat)]
  | none =>
    match expansions.lookup c.toNat with
    | some codes => codes.map Char.ofNat
    | none => [c]

/-- Upper case of one character. -/
def upperChar (c : Char) : List Char :=
  if c.toNat < 0x80 then [c.toUpper] else mapCase upperRuns upperExpansions c

/-- Case folding of one character. -/
def foldChar (c : Char) : List Char :=
  if c.toNat < 0x80 then [c.toLower] else mapCase foldRuns foldExpansions c

/-- Upper case of a list of characters. -/
def upperChars (cs : List Char) : List Char := cs.flatMap upperChar

/-- Upper case of a text. -/
def upper (s : String) : String := String.ofList (upperChars s.toList)

/-- Case folding of a text. -/
def fold (s : String) : String := String.ofList (s.toList.flatMap foldChar)

/-- Lower case of the ASCII letters of a text. Of all other characters only the Kelvin sign and
the dotted capital I have an ASCII letter in their lower case, so this decides equality with
every lower case ASCII word that has no k and no combining dot. -/
def lowerAscii (s : String) : String := String.ofList (s.toList.map Char.toLower)

/-- The first character of a text in upper case, the others unchanged. -/
def upperFirst (s : String) : String :=
  match s.toList with
  | [] => ""
  | c :: cs => String.ofList (upperChar c ++ cs)

theorem upperChars_append (cs ds : List Char) :
    upperChars (cs ++ ds) = upperChars cs ++ upperChars ds := by
  simp [upperChars]

end Electorate.Text
