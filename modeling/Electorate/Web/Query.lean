import Electorate.Text.Split
import Electorate.Text.Utf8

/-!
# Query strings

* `percentDecode`: a text in which octets are written as a percent sign and two hexadecimal digits.
* `Query`: the parameters of a request in the order in which they came.
* `Query.ofString`: the parameters of a query string. Empty pieces are passed over, and a piece
  without an equals sign is a parameter with an empty value.
-/

namespace Electorate.Web

/-- The value of a hexadecimal digit. -/
def hexValue? (c : Char) : Option Nat :=
  if '0' ≤ c ∧ c ≤ '9' then some (c.toNat - '0'.toNat)
  else if 'a' ≤ c ∧ c ≤ 'f' then some (c.toNat - 'a'.toNat + 10)
  else if 'A' ≤ c ∧ c ≤ 'F' then some (c.toNat - 'A'.toNat + 10)
  else none

/-- The characters of a text with escaped octets. ASCII characters and escapes side by side form
one row of octets, given in reverse as `octets`; other characters stand for themselves. A percent
sign without two digits behind it stands for itself. -/
def percentChars (octets : List Nat) : List Char → List Char
  | [] => Text.decodeUtf8 octets.reverse
  | '%' :: a :: b :: rest =>
    match hexValue? a, hexValue? b with
    | some high, some low => percentChars ((16 * high + low) :: octets) rest
    | _, _ => percentChars ('%'.toNat :: octets) (a :: b :: rest)
  | c :: rest =>
    if c.toNat < 0x80 then percentChars (c.toNat :: octets) rest
    else Text.decodeUtf8 octets.reverse ++ c :: percentChars [] rest

/-- A text with escaped octets, read as UTF-8. -/
def percentDecode (s : String) : String := String.ofList (percentChars [] s.toList)

/-- A name or value of a query string, in which a plus sign is a blank. -/
def formDecode (s : String) : String :=
  percentDecode (String.ofList (s.toList.map fun c => if c = '+' then ' ' else c))

/-- The parameters of a request. -/
abbrev Query := List (String × String)

namespace Query

/-- The parameter that a piece of a query string writes. -/
def ofPiece (piece : String) : String × String :=
  let (name, value) := Text.cutAt '=' piece
  (formDecode name, formDecode (value.getD ""))

/-- The parameters of a query string. -/
def ofString (s : String) : Query :=
  ((Text.splitOn '&' s).filter (· != "")).map ofPiece

/-- All values of a parameter. -/
def values (q : Query) (name : String) : List String :=
  (q.filter fun p => p.1 == name).map Prod.snd

/-- The last value of a parameter. -/
def last? (q : Query) (name : String) : Option String := (q.values name).getLast?

end Query

end Electorate.Web
