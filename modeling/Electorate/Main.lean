import Electorate.CommandLine.Run
import Electorate.Form.Day

/-!
# The program

Runs the command that the words of the command line form. The program has no store of its own: a
statement is answered with a failed connection, and what belongs to another program is named and
left undone.

* `complaint`: what is said about a command that does not end well.
* `main`: reads the environment and the clock, runs the command and writes its report.
-/

namespace Electorate.Program

open Electorate.CommandLine

/-- The names of the environment variables that hold settings. -/
def variableNames : List String :=
  ["database_url", "database_schema", "database_pool_size", "database_statement_timeout_ms",
    "aggregation_concurrency", "aggregation_query_timeout_seconds", "chart_years",
    "result_cache_max_entries", "result_cache_ttl_seconds", "log_level", "log_dir", "cors_origins",
    "cors_origin_regex", "api_v1_prefix", "rate_limit_per_minute", "trusted_proxy_headers"]

/-- The environment variables that hold settings, with names in lower or in upper case. -/
def environment : IO (List (String × String)) := do
  let found ← (variableNames ++ variableNames.map Text.upper).mapM fun name => do
    return (← IO.getEnv name).map fun value => (name, value)
  return found.filterMap id

/-- The year of a moment, given in seconds since the start of 1970. -/
def yearOfMoment (seconds : Int) : Int :=
  Date.yearOfDay (Date.daysBefore 1970 + seconds / Form.secondsPerDay)

/-- The present year: that of the stamp of a file made for the purpose. -/
def presentYear : IO Int := do
  let (_, path) ← IO.FS.createTempFile
  let stamp ← path.metadata
  IO.FS.removeFile path
  return yearOfMoment stamp.modified.sec

/-- The outcome of a statement that reaches no store. One is enough for every command: a count of
voters puts one statement, and a chart shows zero for a failed statement as for an empty answer. -/
def noStore : Store.Outcome := .error ⟨.connection, "no store of voters is connected"⟩

/-- The reason of a failure. -/
def reason : Store.Failure → String
  | .unavailable => Store.unavailableMessage
  | .fault f => f.message
  | .unreadable e => e.message
  | .unfit errors => s!"the answer has {errors.length} fields at fault"
  | .refused e => e.message
  | .nothingSelected => nothingSelectedMessage

/-- A field at fault. -/
def fieldLine (e : FieldError) : String :=
  Text.joinWith "." e.place ++ ": " ++ (e.fault.message?.getD e.fault.name)

/-- What is said about a command that does not end well. -/
def complaint (r : Report) : String :=
  match r.ending with
  | .done | .refused _ => r.errorText
  | .misused => lines ["usage: query explain|combinations|count, db upgrade|downgrade|current, serve"]
  | .badSettings errors => lines (errors.map fieldLine)
  | .badLogLevel message => lines [message]
  | .failed f => lines ["Error: " ++ reason f]

/-- What is said about a step that belongs to another program. -/
def leftUndone : Call → String
  | .upgrade revision config => s!"left undone: upgrade to {revision} by {config}"
  | .downgrade revision config => s!"left undone: downgrade to {revision} by {config}"
  | .current config => s!"left undone: show the revision by {config}"
  | .serve host number _ => s!"left undone: answer requests at {host}:{number}"

end Electorate.Program

/-- Runs the command that the words of the command line form. -/
def main (words : List String) : IO UInt32 := do
  let env ← Electorate.Program.environment
  let year ← Electorate.Program.presentYear
  let (report, _) := Electorate.CommandLine.run year env [Electorate.Program.noStore] words
  IO.print report.output
  IO.eprint (Electorate.Program.complaint report)
  for call in report.calls do
    IO.eprintln (Electorate.Program.leftUndone call)
  return report.exitCode.toUInt32
