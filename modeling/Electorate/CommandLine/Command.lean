import Electorate.CommandLine.Arguments
import Electorate.Number.Integer

/-!
# Commands

* `Command`: what can be asked for on the command line.
* `Command.parse`: the command of the words of a command line, or how they are misused.
-/

namespace Electorate.CommandLine

/-- What can be asked for on the command line. -/
inductive Command where
  /-- Shows the condition of some filters. -/
  | explain (filters : List String)
  /-- Lists the combinations of a chart, with their counts if they are asked for. -/
  | combinations (filters : List String) (counts : Bool)
  /-- Counts the voters under some filters. -/
  | count (filters : List String)
  /-- Brings the tables to a revision. -/
  | upgrade (revision config : String)
  /-- Takes the tables back to a revision. -/
  | downgrade (revision config : String)
  /-- Shows the revision of the tables. -/
  | current (config : String)
  /-- Answers requests. -/
  | serve (host : String) (port : Int) (reload : Bool)
deriving DecidableEq, Repr

/-- Words that form no command. -/
inductive Misuse where
  /-- The fault shows in the first words, before the settings are read. -/
  | early
  /-- The fault shows after the settings are read. -/
  | late
deriving DecidableEq, Repr

/-- The option that names a filter. -/
def filterForm : OptionForm := ⟨"filter", some 'f', true⟩

/-- The option that asks for counts. -/
def countsForm : OptionForm := ⟨"counts", none, false⟩

/-- The option that names the file with the setup of the migrations. -/
def configForm : OptionForm := ⟨"config", none, true⟩

/-- The setup of the migrations unless another is named. -/
def defaultConfig : String := "alembic.ini"

/-- The options of a command that takes no arguments. -/
def optionsOnly (forms : List OptionForm) (words : List String) : Option Scanned :=
  (scan forms words).filter (·.arguments.isEmpty)

/-- The setup of the migrations that options name. -/
def configOf (s : Scanned) : String := (s.last? configForm.name).getD defaultConfig

/-- The revision among the arguments: the only one, or a default. -/
def revisionOf (s : Scanned) (default : String) : Option String :=
  match s.arguments with
  | [] => some default
  | [revision] => some revision
  | _ => none

namespace Command

/-- A command on filters. -/
def parseQuery : List String → Option Command
  | "explain" :: words =>
    (optionsOnly [filterForm] words).map fun s => explain (s.values filterForm.name)
  | "combinations" :: words =>
    (optionsOnly [filterForm, countsForm] words).map fun s =>
      combinations (s.values filterForm.name) (s.has countsForm.name)
  | "count" :: words =>
    (optionsOnly [filterForm] words).map fun s => count (s.values filterForm.name)
  | _ => none

/-- A command on the tables. -/
def parseTables : List String → Option Command
  | "upgrade" :: words => do
    let s ← scan [configForm] words
    return upgrade (← revisionOf s "head") (configOf s)
  | "downgrade" :: words => do
    let s ← scan [configForm] words
    return downgrade (← revisionOf s "-1") (configOf s)
  | "current" :: words => (optionsOnly [configForm] words).map fun s => current (configOf s)
  | _ => none

/-- The command that answers requests. -/
def parseServe (words : List String) : Option Command := do
  let s ← optionsOnly [⟨"reload", none, false⟩, ⟨"host", none, true⟩, ⟨"port", none, true⟩] words
  let port ←
    match s.last? "port" with
    | none => some 8000
    | some port => Number.readInteger? port
  return serve ((s.last? "host").getD "0.0.0.0") port (s.has "reload")

/-- A command that is given, or a late misuse. -/
def orLate (c : Option Command) : Except Misuse Command :=
  match c with
  | some c => .ok c
  | none => .error .late

/-- The command of the words of a command line. -/
def parse (words : List String) : Except Misuse Command :=
  match leading words with
  | some ("query" :: rest) => orLate ((leading rest).bind parseQuery)
  | some ("db" :: rest) => orLate ((leading rest).bind parseTables)
  | some ("serve" :: rest) => orLate (parseServe rest)
  | _ => .error .early

end Command

end Electorate.CommandLine
