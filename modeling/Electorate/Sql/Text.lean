import Electorate.Number.Date
import Electorate.Number.Exact

/-!
# SQL text with numbered placeholders

* `Value`, `SqlType`, `Bound`: a value that travels beside the text, and the type that its
  placeholder names.
* `Piece`: a part of a statement: words, one placeholder, or the placeholders of a value list.
* `assemble`: the text and the values of a statement. Placeholders outside value lists are
  numbered first, in the order of the text, then those of the value lists.
* `identifier`: a name, between double quotation marks where it needs them.
-/

namespace Electorate.Sql

/-- A value bound to a placeholder. -/
inductive Value where
  | text (s : String)
  | int (n : Int)
  | number (n : Number)
  | float (x : Float)
  | date (d : Date)
  /-- A list of one voting event with one field. -/
  | event (field value : String)

/-- The types that placeholders name. -/
inductive SqlType where
  | varchar | integer | bigint | score | float | date | jsonb
deriving DecidableEq, Repr

/-- The name of a type. -/
def SqlType.name : SqlType → String
  | varchar => "VARCHAR"
  | integer => "INTEGER"
  | bigint => "BIGINT"
  | score => "NUMERIC(3, 1)"
  | float => "FLOAT"
  | date => "DATE"
  | jsonb => "JSONB"

/-- A value with the type of its placeholder. -/
structure Bound where
  value : Value
  type : SqlType

/-- The type of an integer: the narrow one if its magnitude has at most 31 binary digits. -/
def integerType (n : Int) : SqlType :=
  if n.natAbs < Number.twoTo 31 then .integer else .bigint

namespace Bound

/-- A text. -/
def text (s : String) : Bound := ⟨.text s, .varchar⟩

/-- An integer of a column's type. -/
def integer (n : Int) : Bound := ⟨.int n, .integer⟩

/-- An integer of the type that its magnitude asks for. -/
def sized (n : Int) : Bound := ⟨.int n, integerType n⟩

/-- A double. -/
def float (x : Float) : Bound := ⟨.float x, .float⟩

end Bound

/-- A part of a statement. -/
inductive Piece where
  /-- Words as they stand. -/
  | words (s : String)
  /-- One placeholder. -/
  | slot (b : Bound)
  /-- The placeholders of a value list, with commas between them. -/
  | list (bs : List Bound)

/-- A placeholder with its number and type. -/
def placeholder (n : Nat) (b : Bound) : String := s!"${n}::{b.type.name}"

/-- Placeholders numbered from `n` on, with commas between them. -/
def placeholders : Nat → List Bound → String
  | _, [] => ""
  | n, [b] => placeholder n b
  | n, b :: c :: rest => placeholder n b ++ ", " ++ placeholders (n + 1) (c :: rest)

/-- The values outside value lists, in order. -/
def slotBounds : List Piece → List Bound
  | [] => []
  | .slot b :: rest => b :: slotBounds rest
  | .words _ :: rest | .list _ :: rest => slotBounds rest

/-- The values of the value lists, in order. -/
def listBounds : List Piece → List Bound
  | [] => []
  | .list bs :: rest => bs ++ listBounds rest
  | .words _ :: rest | .slot _ :: rest => listBounds rest

/-- The text of pieces, with the numbers of the next placeholder outside and inside lists. -/
def numberedText : Nat → Nat → List Piece → String
  | _, _, [] => ""
  | i, j, .words s :: rest => s ++ numberedText i j rest
  | i, j, .slot b :: rest => placeholder i b ++ numberedText (i + 1) j rest
  | i, j, .list bs :: rest => placeholders j bs ++ numberedText i (j + bs.length) rest

/-- A statement's text and the values of its placeholders, in the order of their numbers. -/
structure Rendered where
  sql : String
  params : List Bound

/-- The text and the values of a statement. -/
def assemble (pieces : List Piece) : Rendered :=
  let slots := slotBounds pieces
  ⟨numberedText 1 (slots.length + 1) pieces, slots ++ listBounds pieces⟩

/-- The words of the SQL dialect that cannot stand for a name unless they are quoted. -/
def reservedWords : List String := [
  "all", "analyse", "analyze", "and", "any", "array", "as", "asc", "asymmetric", "both", "case",
  "cast", "check", "collate", "column", "constraint", "create", "current_catalog",
  "current_date", "current_role", "current_time", "current_timestamp", "current_user", "default",
  "deferrable", "desc", "distinct", "do", "else", "end", "except", "false", "fetch", "for",
  "foreign", "from", "grant", "group", "having", "in", "initially", "intersect", "into",
  "leading", "limit", "localtime", "localtimestamp", "new", "not", "null", "of", "off", "offset",
  "old", "on", "only", "or", "order", "placing", "primary", "references", "returning", "select",
  "session_user", "some", "symmetric", "table", "then", "to", "trailing", "true", "union",
  "unique", "user", "using", "variadic", "when", "where", "window", "with", "authorization",
  "between", "binary", "cross", "current_schema", "freeze", "full", "ilike", "inner", "is",
  "isnull", "join", "left", "like", "natural", "notnull", "outer", "over", "overlaps", "right",
  "similar", "verbose"]

/-- A character that a name may hold without quotation marks. -/
def isNameChar (c : Char) : Bool := c.isLower || c.isDigit || c = '_' || c = '$'

/-- Whether a name has to be quoted. -/
def needsQuotes (name : String) : Bool :=
  reservedWords.contains name || !name.toList.all isNameChar ||
    match name.toList with
    | [] => true
    | c :: _ => c.isDigit || c = '$'

/-- A name, between double quotation marks where it needs them; marks inside are doubled. -/
def identifier (name : String) : String :=
  if needsQuotes name then
    "\x22" ++ String.ofList (name.toList.flatMap fun c => if c = '\x22' then [c, c] else [c]) ++ "\x22"
  else name

end Electorate.Sql
