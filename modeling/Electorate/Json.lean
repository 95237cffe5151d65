import Electorate.Number.Numeral
import Electorate.Text.Quoted
import Electorate.Text.Split

/-!
# JSON values

* `Json`: a JSON value. Objects list their members in the order in which they were made.
* `Json.canonical`: the text of a value with object members in the order of their names, no space
  between tokens and no character outside ASCII. Two values that differ in the order of object
  members alone have the same text. An integer is written with all its digits: the limit on digits,
  `Number.maxIntegerDigits`, is kept for texts that are read and left out here.
-/

namespace Electorate

/-- A JSON value. -/
inductive Json where
  | null
  | bool (b : Bool)
  | int (n : Int)
  | float (x : Float)
  | text (s : String)
  | list (items : List Json)
  | object (members : List (String × Json))
deriving Inhabited

namespace Json

open Electorate.Text (backslash hexDigits joinWith)

/-- A UTF-16 code unit as an escape. -/
def unitEscape (n : Nat) : List Char := backslash :: 'u' :: hexDigits 4 n

/-- One character of a string: itself, or an escape of ASCII characters. -/
def escapeChar (c : Char) : List Char :=
  if c = '\x22' ∨ c = backslash then [backslash, c]
  else if c = '\n' then [backslash, 'n']
  else if c = '\r' then [backslash, 'r']
  else if c = '\t' then [backslash, 't']
  else if c = '\x08' then [backslash, 'b']
  else if c = '\x0c' then [backslash, 'f']
  else if 0x20 ≤ c.toNat ∧ c.toNat < 0x7f then [c]
  else if c.toNat < 0x10000 then unitEscape c.toNat
  else
    unitEscape (0xd800 + (c.toNat - 0x10000) / 0x400) ++
      unitEscape (0xdc00 + (c.toNat - 0x10000) % 0x400)

/-- A string between quotation marks. -/
def stringText (s : String) : String :=
  String.ofList ('\x22' :: s.toList.flatMap escapeChar ++ ['\x22'])

/-- A double: the fewest digits that read back, and words for the values that have no numeral. -/
def floatText (x : Float) : String :=
  if x.isNaN then "NaN"
  else if x.isInf then if x < 0.0 then "-Infinity" else "Infinity"
  else Number.floatText x

/-- Members in the order of their names. -/
def sortMembers (members : List (String × α)) : List (String × α) :=
  members.mergeSort fun a b => decide (a.1 ≤ b.1)

/-- A member: its name and the text of its value. -/
def memberText (m : String × String) : String := stringText m.1 ++ ":" ++ m.2

mutual

/-- The text of a value, members in the order of their names. -/
def canonical : Json → String
  | null => "null"
  | bool b => if b then "true" else "false"
  | int n => toString n
  | float x => floatText x
  | text s => stringText s
  | list items => "[" ++ joinWith "," (canonicalItems items) ++ "]"
  | object members =>
    "\x7b" ++ joinWith "," ((sortMembers (canonicalMembers members)).map memberText) ++ "\x7d"

/-- The texts of the items of a list. -/
def canonicalItems : List Json → List String
  | [] => []
  | v :: rest => canonical v :: canonicalItems rest

/-- The members of an object with the texts of their values. -/
def canonicalMembers : List (String × Json) → List (String × String)
  | [] => []
  | (name, v) :: rest => (name, canonical v) :: canonicalMembers rest

end

end Json

end Electorate
