import Electorate.Text.Split

/-!
# Tables

* `ColumnType`, `ColumnSpec`, `TableSpec`, `IndexSpec`: what tables and their indexes consist of.
* `Change`: a change of the tables, with `Change.text`, its statement.
-/

namespace Electorate.Migration

open Electorate.Text (joinWith)

/-- The type of a column. -/
inductive ColumnType where
  | uuid
  | varchar (length : Nat)
  | integer
  | double
  /-- A moment, with the offset of its time zone. -/
  | moment
  | date
  | boolean
  | numeric (digits places : Nat)
  | json
  | integers
  /-- A point of a coordinate system. -/
  | point (srid : Nat)
deriving DecidableEq, Repr

/-- The name of a type. -/
def ColumnType.text : ColumnType → String
  | uuid => "UUID"
  | varchar length => s!"VARCHAR({length})"
  | integer => "INTEGER"
  | double => "DOUBLE PRECISION"
  | moment => "TIMESTAMP WITH TIME ZONE"
  | date => "DATE"
  | boolean => "BOOLEAN"
  | numeric digits places => s!"NUMERIC({digits}, {places})"
  | json => "JSONB"
  | integers => "INTEGER[]"
  | point srid => s!"geometry(POINT,{srid})"

/-- A column of a table. -/
structure ColumnSpec where
  name : String
  type : ColumnType
  /-- Whether every row has a value. -/
  required : Bool
  /-- The value of a row that is given none. -/
  default : Option String

/-- The text of a column. -/
def ColumnSpec.text (c : ColumnSpec) : String :=
  c.name ++ " " ++ c.type.text ++ ((c.default.map (" DEFAULT " ++ ·)).getD "") ++
    if c.required then " NOT NULL" else ""

/-- A key: columns whose values together occur once. -/
structure KeySpec where
  name : Option String
  /-- Whether the key is the one by which rows are told apart. -/
  primary : Bool
  columns : List String

/-- Names between brackets. -/
def nameList (names : List String) : String := "(" ++ joinWith ", " names ++ ")"

/-- The text of a key. -/
def KeySpec.text (k : KeySpec) : String :=
  ((k.name.map fun n => "CONSTRAINT " ++ n ++ " ").getD "") ++
    (if k.primary then "PRIMARY KEY " else "UNIQUE ") ++ nameList k.columns

/-- A table. -/
structure TableSpec where
  name : String
  columns : List ColumnSpec
  keys : List KeySpec

/-- The statement that makes a table. -/
def TableSpec.text (t : TableSpec) : String :=
  "CREATE TABLE " ++ t.name ++ " (\n    " ++
    joinWith ", \n    " (t.columns.map ColumnSpec.text ++ t.keys.map KeySpec.text) ++ "\n)"

/-- An index of a table. -/
structure IndexSpec where
  name : String
  table : String
  columns : List String
  /-- Whether the values of the columns occur once. -/
  unique : Bool
  /-- The kind of the index where it is not the ordinary one. -/
  method : Option String

/-- The statement that makes an index. -/
def IndexSpec.text (i : IndexSpec) : String :=
  (if i.unique then "CREATE UNIQUE INDEX " else "CREATE INDEX ") ++ i.name ++ " ON " ++ i.table ++
    ((i.method.map (" USING " ++ ·)).getD "") ++ " " ++ nameList i.columns

/-- A change of the tables. -/
inductive Change where
  | addExtension (name : String)
  | addTable (t : TableSpec)
  | addIndex (i : IndexSpec)
  | dropTable (name : String)

/-- The statement of a change. -/
def Change.text : Change → String
  | addExtension name => "CREATE EXTENSION IF NOT EXISTS " ++ name
  | addTable t => t.text
  | addIndex i => i.text
  | dropTable name => "DROP TABLE " ++ name

end Electorate.Migration
