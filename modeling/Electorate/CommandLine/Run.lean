import Electorate.Chart.Counts
import Electorate.CommandLine.Command
import Electorate.Config.Settings
import Electorate.Filter.Extract
import Electorate.Log.Sink

/-!
# Running a command

* `readFilters`: filters given as names and values with an equals sign between them.
* `explainText`, `combinationsText`, `countsText`, `countText`: what the commands write.
* `run`: the report of a command line. The settings are read before the command, and a fault in
  them stands before a misuse of the command.
-/

namespace Electorate.CommandLine

open Electorate.Store (Failure Outcome Session)
open Electorate.Text (quoted)

/-- Why filters are refused. -/
inductive FilterFault where
  /-- No equals sign stands in a filter. -/
  | noValue (word : String)
  | refused (e : FilterError)
  | nothingSelected
deriving DecidableEq, Repr

/-- The wording of a refusal. -/
def FilterFault.message : FilterFault → String
  | noValue word => s!"filter must be KEY=VALUE, got {quoted word}"
  | refused e => e.message
  | nothingSelected => nothingSelectedMessage

/-- A name and a value, from a word with an equals sign between them. -/
def readPair (word : String) : Except FilterFault (String × String) :=
  match Text.cutAt '=' word with
  | (name, some value) => .ok (Text.strip name, value)
  | (_, none) => .error (.noValue word)

/-- The filters of some words. -/
def readFilters (words : List String) (raiseCase : Bool) : Except FilterFault FilterSpec := do
  let pairs ← words.mapM readPair
  (FilterSpec.ofParams pairs Dimension.allNames [] raiseCase).mapError .refused

/-- The combinations of the filters of some words, without a limit of their number. -/
def readCombinations (words : List String) :
    Except FilterFault (FilterSpec × List Combination) := do
  let spec ← readFilters words false
  let combinations ← (chartCombinations spec Dimension.combinable none).mapError fun
    | .nothingSelected => FilterFault.nothingSelected
    | .refused e => .refused e
  return (spec, combinations)

/-- A value as it is shown. -/
def shown : Sql.Value → String
  | .text s => quoted s
  | .int n => toString n
  | .number (.int n) => toString n
  | .number n => Number.floatText n.toFloat
  | .float x => Number.floatText x
  | .date d => s!"datetime.date({d.year}, {d.month}, {d.day})"
  | .event field value => s!"[\x7b{quoted field}: {quoted value}\x7d]"

/-- Lines, each with its end. -/
def lines (l : List String) : String := String.join (l.map (· ++ "\n"))

/-- The condition of some filters and its values, ages taken in the given year. -/
def explainText (year : Int) (spec : FilterSpec) : String :=
  let r := (spec.predicate year).render Sql.voterTable
  if r.sql = "" then lines ["(no filters: matches every voter)"]
  else lines (r.sql :: r.params.zipIdx.map fun (b, i) => s!"  ${i + 1} = {shown b.value}")

/-- The labels of combinations and their number. -/
def combinationsText (combinations : List Combination) : String :=
  lines (combinations.map Combination.label ++ ["", s!"{combinations.length} combination(s)"])

/-- A count in ten places, or more where it needs them. -/
def countColumn (n : Int) : String :=
  let digits := Number.grouped n
  String.ofList (List.replicate (10 - digits.length) ' ') ++ digits

/-- Counts with the labels of their combinations, and their sum. -/
def countsText (c : Chart.CombinationCounts) : String :=
  lines (c.results.map (fun r => s!"{countColumn r.count}  {r.name}") ++
    [s!"{countColumn (c.total.getD 0)}  Total"])

/-- A number of voters. -/
def countText (n : Int) : String := lines [s!"{Number.grouped n} voter(s)"]

/-- The number of voters under some filters, any fault passed on. -/
def countVoters (year : Int) (spec : FilterSpec) : Store.Inquiry Failure Int := do
  let answer ← Store.askGuarded (fun _ => false) (.count (spec.predicate year))
  Store.read answer.scalar.readInteger

/-- What a command leaves to another program. -/
inductive Call where
  | upgrade (revision config : String)
  | downgrade (revision config : String)
  | current (config : String)
  | serve (host : String) (port : Int) (reload : Bool)
deriving DecidableEq, Repr

/-- How a command ends. -/
inductive Ending where
  | done
  /-- The filters are refused. -/
  | refused (f : FilterFault)
  /-- The words form no command. -/
  | misused
  /-- The settings are at fault. -/
  | badSettings (errors : List FieldError)
  /-- There is no such log level. -/
  | badLogLevel (message : String)
  /-- The store gives no answer. -/
  | failed (f : Failure)

/-- The report of a command. -/
structure Report where
  output : String
  ending : Ending
  calls : List Call

namespace Report

/-- A command that has written something. -/
def wrote (output : String) : Report := ⟨output, .done, []⟩

/-- A command that another program carries out. -/
def called (c : Call) : Report := ⟨"", .done, [c]⟩

/-- A command that has ended without writing anything. -/
def ended (e : Ending) : Report := ⟨"", e, []⟩

/-- The exit code of a command. -/
def exitCode (r : Report) : Nat :=
  match r.ending with
  | .done => 0
  | .misused => 2
  | _ => 1

/-- What is written to the error stream when filters are refused. -/
def errorText (r : Report) : String :=
  match r.ending with
  | .refused f => lines ["Error: " ++ f.message]
  | _ => ""

end Report

/-- A report of what was read, or of its refusal. -/
def orRefused (r : Except FilterFault α) (f : α → Report × Session) (session : Session) :
    Report × Session :=
  match r with
  | .ok a => f a
  | .error e => (.ended (.refused e), session)

/-- A report of what was asked, or of the failure. -/
def reported (q : Store.Inquiry Failure α) (f : α → String) (session : Session) :
    Report × Session :=
  match q session with
  | (.ok a, after) => (.wrote (f a), after)
  | (.error e, after) => (.ended (.failed e), after)

/-- The report of a command, ages taken in the given year, and the session after it. -/
def runCommand (year : Int) (session : Session) : Command → Report × Session
  | .explain words =>
    orRefused (readFilters words true) (fun spec => (.wrote (explainText year spec), session))
      session
  | .combinations words counts =>
    orRefused (readCombinations words) (fun (spec, combinations) =>
      if counts then
        reported (Chart.combinationCounts year combinations (spec.without Dimension.combinable)
          true) countsText session
      else (.wrote (combinationsText combinations), session)) session
  | .count words =>
    orRefused (readFilters words true)
      (fun spec => reported (countVoters year spec) countText session) session
  | .upgrade revision config => (.called (.upgrade revision config), session)
  | .downgrade revision config => (.called (.downgrade revision config), session)
  | .current config => (.called (.current config), session)
  | .serve host port reload => (.called (.serve host port reload), session)

/-- The session that a command starts with. -/
def startSession (s : Settings) (outcomes : List Outcome) : Session :=
  ⟨outcomes, [], .empty s.cacheMaxEntries.toNat s.cacheTtlSeconds, 0⟩

/-- The report of a command line, and the statements that it put to the store. -/
def run (year : Int) (env : List (String × String)) (outcomes : List Outcome)
    (words : List String) : Report × List Sql.Statement :=
  match Command.parse words with
  | .error .early => (.ended .misused, [])
  | parsed =>
    match (Settings.ofEnvironment env).toExcept with
    | .error errors => (.ended (.badSettings errors), [])
    | .ok settings =>
      match Log.LogSetup.ofName settings.logLevel settings.logDir.isSome with
      | .error m => (.ended (.badLogLevel m), [])
      | .ok _ =>
        match parsed with
        | .error _ => (.ended .misused, [])
        | .ok command =>
          let (report, session) := runCommand year (startSession settings outcomes) command
          (report, session.asked)

end Electorate.CommandLine
