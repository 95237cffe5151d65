import Electorate.Cache.ResultCache
import Electorate.Filter.Error
import Electorate.Filter.Combination
import Electorate.Sql.Statement
import Electorate.Store.Cell

/-!
# Asking the store

* `Answer`: what the store returns for a statement.
* `Session`: the answers to come, the statements put so far, and the totals that are kept for
  later questions.
* `Inquiry`: a computation that puts statements and may fail.
* `ask`: puts a statement and takes the next answer.
* `attempt`: the same, a fault being a result as any other.
* `askGuarded`: the same, some faults reported as one failure that names no detail.
-/

namespace Electorate.Store

/-- The kinds of fault that a statement can end in. -/
inductive FaultKind where
  /-- The store refuses or breaks off. -/
  | operational
  /-- Any other fault that the store's driver reports. -/
  | driver
  /-- The connection fails. -/
  | connection
  /-- The answer takes too long. -/
  | timeout
  /-- A fault of the program itself. -/
  | internal
  /-- A value is refused. -/
  | value
deriving DecidableEq, Repr

/-- A fault of a statement. -/
structure Fault where
  kind : FaultKind
  message : String
deriving DecidableEq, Repr

/-- What the store returns: a reader takes the rows, the first row, the single value or the
voters, as the statement requires. -/
structure Answer where
  rows : List Row
  scalar : Cell
  voters : List VoterRow

namespace Answer

/-- The answer that says nothing. -/
def nothing : Answer := ⟨[], .int 0, []⟩

/-- The first row, as an average without groups is answered, which always has exactly one row. No
average and no voters are what an answer without a row is taken for. -/
def firstRow (a : Answer) : Row := a.rows.head?.getD [.null, .int 0]

end Answer

/-- The outcome of a statement. -/
abbrev Outcome := Except Fault Answer

/-- The number of voters of each year. -/
abbrev YearCounts := List (Int × Int)

/-- The state of a conversation with the store. -/
structure Session where
  /-- The outcomes of the statements to come. A statement beyond them is answered with nothing. -/
  outcomes : List Outcome
  /-- The statements put so far. -/
  asked : List Sql.Statement
  /-- Totals kept for later questions. -/
  totals : ResultCache YearCounts
  /-- Seconds since the start. -/
  now : Rat

/-- Why a question to the store has no answer. -/
inductive Failure where
  /-- The store cannot be used. -/
  | unavailable
  /-- A fault that is passed on as it is. -/
  | fault (f : Fault)
  /-- An answer cannot be read. -/
  | unreadable (e : CellError)
  /-- An answer does not fit the response. -/
  | unfit (errors : List FieldError)
  /-- The question itself is refused. -/
  | refused (e : FilterError)
  /-- No filter that a chart can be made of is chosen. -/
  | nothingSelected

/-- The wording for a store that cannot be used. -/
def unavailableMessage : String :=
  "The voter data store is unavailable. Please try again later."

/-- A computation that puts statements to the store and may fail. -/
abbrev Inquiry (ε α : Type) := ExceptT ε (StateM Session) α

/-- Puts a statement to the store. -/
def ask (s : Sql.Statement) : Inquiry Fault Answer := fun session =>
  match session.outcomes with
  | [] => (.ok .nothing, { session with asked := session.asked ++ [s] })
  | outcome :: rest =>
    (outcome, { session with outcomes := rest, asked := session.asked ++ [s] })

/-- Puts a statement whose fault is not passed on. -/
def attempt (s : Sql.Statement) : Inquiry ε Outcome := fun session =>
  let (outcome, after) := ask s session
  (.ok outcome, after)

/-- An inquiry with its failures renamed. -/
def orFail (f : ε → ε') (q : Inquiry ε α) : Inquiry ε' α := fun session =>
  let (result, after) := q session
  (result.mapError f, after)

/-- Puts a statement. A fault of one of the given kinds is reported as an unavailable store, any
other one as it is. -/
def askGuarded (covered : FaultKind → Bool) (s : Sql.Statement) : Inquiry Failure Answer :=
  orFail (fun f => if covered f.kind then .unavailable else .fault f) (ask s)

/-- The faults that the store's driver reports. -/
def ofDriver : FaultKind → Bool
  | .operational | .driver => true
  | _ => false

/-- The faults of the driver, of the connection and of time. -/
def ofStore : FaultKind → Bool
  | .operational | .driver | .connection | .timeout => true
  | _ => false

/-- What was read, or the failure to read it. -/
def read (r : Except CellError α) : Inquiry Failure α :=
  match r with
  | .ok a => pure a
  | .error e => throw (.unreadable e)

end Electorate.Store
