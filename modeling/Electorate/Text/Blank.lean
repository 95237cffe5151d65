/-!
# Blank characters and stripping

* `isBlank`: the characters of the White_Space property of Unicode 15.0 together with the four
  information separators U+001C to U+001F.
* `strip`: a text without the blanks at its two ends. A text of blanks only becomes empty.
-/

namespace Electorate.Text

/-- A blank is a White_Space character or one of the four information separators. The zero width
space U+200B and the byte order mark U+FEFF are not blanks. -/
def isBlank (c : Char) : Bool :=
  let n := c.toNat
  (0x09 ≤ n && n ≤ 0x0d) || (0x1c ≤ n && n ≤ 0x20) || n == 0x85 || n == 0xa0 || n == 0x1680 ||
    (0x2000 ≤ n && n ≤ 0x200a) || n == 0x2028 || n == 0x2029 || n == 0x202f || n == 0x205f ||
    n == 0x3000

/-- `trimBlanks cs` drops the blanks before the first and after the last character that is not
blank. -/
def trimBlanks (cs : List Char) : List Char :=
  ((cs.dropWhile isBlank).reverse.dropWhile isBlank).reverse

/-- `strip s` is `s` without the blanks at its ends. -/
def strip (s : String) : String := String.ofList (trimBlanks s.toList)

/-- A text is blank if nothing but blanks stands in it. -/
def isBlankText (s : String) : Bool := s.toList.all isBlank

end Electorate.Text
