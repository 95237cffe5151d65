import Electorate.Sql.Render

/-!
# Statements on the voter file

* `Statement`: the questions that are put to the store.
* `Statement.pieces`, `Statement.render`: the text of a statement and its values.
-/

namespace Electorate.Sql

/-- The direction of a sort. -/
inductive Direction where
  | ascending | descending
deriving DecidableEq, Repr

/-- A column whose values have an order. -/
inductive SortColumn where
  | text (c : TextColumn)
  | number (c : NumberColumn)
deriving DecidableEq, Repr

/-- The column itself. -/
def SortColumn.column : SortColumn → Column
  | text c => .text c
  | number c => c.column

/-- A column that rows are sorted by. A row without a value comes last. A key without a stated
direction ascends. -/
structure SortKey where
  column : SortColumn
  direction : Option Direction

/-- A part of a list of rows. -/
structure Window where
  /-- The greatest number of rows. -/
  limit : Int
  /-- The number of rows left out in front. -/
  offset : Int
deriving DecidableEq, Repr

/-- What voters are counted by. -/
inductive Category where
  /-- The text of a column. -/
  | column (c : TextColumn)
  /-- The label of the first condition that holds. -/
  | label (c : LabelCase)

/-- A question to the store. -/
inductive Statement where
  /-- The number of voters. -/
  | count (p : Predicate)
  /-- The number of voters who took part in the elections of each of some years. -/
  | countByYear (years : List Int) (p : Predicate)
  /-- The number of voters in each category, greatest first. -/
  | countByCategory (category : Category) (p : Predicate)
  /-- The different values of a column that are not blank, in order. -/
  | distinctValues (c : TextColumn)
  /-- The average participation score and the number of voters. -/
  | averageScore (p : Predicate)
  /-- The rows of voters, sorted, all or a part of them. -/
  | voters (p : Predicate) (order : List SortKey) (window : Option Window)

/-- A column as rows are read. -/
def selectedText (c : Column) : String :=
  match c with
  | .geom => "ST_AsEWKB(" ++ columnText voterTable c ++ ") AS geom"
  | _ => columnText voterTable c

/-- The list of the columns of a row. -/
def selectedColumns : String := Text.joinWith ", " (Column.selected.map selectedText)

/-- The table and the condition. -/
def fromWhere (p : Predicate) : List Piece :=
  .words (" \nFROM " ++ voterTable ++ " \nWHERE ") :: p.pieces voterTable .top

/-- The text of a category. -/
def Category.pieces : Category → List Piece
  | column c => [.words (columnText voterTable (.text c))]
  | label c => c.pieces voterTable

/-- The rows of a table of one column. -/
def valueRows : List Bound → List Piece
  | [] => []
  | [b] => [.words "(", .slot b, .words ")"]
  | b :: c :: rest => .words "(" :: .slot b :: .words "), " :: valueRows (c :: rest)

/-- The text of a sort key. -/
def SortKey.text (k : SortKey) : String :=
  columnText voterTable k.column.column ++
    match k.direction with
    | none => ""
    | some .ascending => " ASC NULLS LAST"
    | some .descending => " DESC NULLS LAST"

/-- The clause that sorts rows. -/
def orderText : List SortKey → String
  | [] => ""
  | keys => " ORDER BY " ++ Text.joinWith ", " (keys.map SortKey.text)

/-- The clause that cuts a part out of the rows. -/
def windowPieces : Option Window → List Piece
  | none => []
  | some w =>
    [.words " \n LIMIT ", .slot (.sized w.limit), .words " OFFSET ", .slot (.sized w.offset)]

namespace Statement

/-- The text of a statement. -/
def pieces : Statement → List Piece
  | count p => .words "SELECT count(*) AS count_1" :: fromWhere p
  | countByYear years p =>
    .words ("SELECT years.year, count(*) AS count \nFROM " ++ voterTable ++ " JOIN (VALUES ") ::
      valueRows (years.map Bound.integer) ++
      .words (") AS years (year) ON years.year = ANY (" ++
        columnText voterTable .electionYears ++ ") \nWHERE ") ::
      p.pieces voterTable .top ++ [.words " GROUP BY years.year"]
  | countByCategory category p =>
    .words "SELECT " :: category.pieces ++ .words " AS category, count(*) AS count" ::
      fromWhere p ++ [.words " GROUP BY category ORDER BY count(*) DESC"]
  | distinctValues c =>
    .words ("SELECT DISTINCT " ++ columnText voterTable (.text c)) ::
      fromWhere (.and (.isNotNull (.text c)) (.notBlank c)) ++
      [.words (orderText [⟨.text c, none⟩])]
  | averageScore p =>
    .words ("SELECT avg(" ++ columnText voterTable .score ++
      ") AS avg_1, count(*) AS count_1") :: fromWhere p
  | voters p order window =>
    .words ("SELECT " ++ selectedColumns) :: fromWhere p ++
      .words (orderText order) :: windowPieces window

/-- The text and the values of a statement. -/
def render (s : Statement) : Rendered := assemble s.pieces

end Statement

end Electorate.Sql
