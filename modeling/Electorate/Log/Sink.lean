import Electorate.Text.Case
import Electorate.Text.Quoted

/-!
# Logging

* `Level`: the levels of a message.
* `LogSetup`: the least level that is written, and whether a file is written besides.
* `LogSetup.errorLines`, `LogSetup.fileLines`: what a series of messages writes.
-/

namespace Electorate.Log

/-- The levels of a message, from the least to the gravest. -/
inductive Level where
  | trace | debug | info | success | warning | error | critical
deriving DecidableEq, Repr

namespace Level

/-- All levels. -/
def all : List Level := [trace, debug, info, success, warning, error, critical]

/-- The name of a level. -/
def name : Level → String
  | trace => "TRACE"
  | debug => "DEBUG"
  | info => "INFO"
  | success => "SUCCESS"
  | warning => "WARNING"
  | error => "ERROR"
  | critical => "CRITICAL"

/-- The gravity of a level. -/
def gravity : Level → Nat
  | trace => 5
  | debug => 10
  | info => 20
  | success => 25
  | warning => 30
  | error => 40
  | critical => 50

/-- The level of a name in upper case. -/
def ofName? (name : String) : Option Level := all.find? (·.name == name)

/-- The name with blanks behind it up to eight characters. -/
def padded (l : Level) : String :=
  l.name ++ String.ofList (List.replicate (8 - l.name.length) ' ')

end Level

/-- A message. -/
structure Message where
  level : Level
  text : String
  /-- Whether the message is written as a JSON value. -/
  structured : Bool

/-- A written line. -/
structure Line where
  level : String
  text : String
  structured : Bool
deriving DecidableEq, Repr

/-- How messages are written. -/
structure LogSetup where
  least : Level
  toFile : Bool

/-- The wording for a level that there is not. -/
def unknownLevelMessage (name : String) : String := s!"Level '{name}' does not exist"

namespace LogSetup

/-- The setup for a level given by its name, in letters of any case. -/
def ofName (name : String) (toFile : Bool) : Except String LogSetup :=
  match Level.ofName? (Text.upper name) with
  | some least => .ok ⟨least, toFile⟩
  | none => .error (unknownLevelMessage (Text.upper name))

/-- Whether a message is grave enough. -/
def admits (s : LogSetup) (m : Message) : Bool := s.least.gravity ≤ m.level.gravity

/-- The lines that messages write to the error stream. -/
def errorLines (s : LogSetup) (messages : List Message) : List Line :=
  (messages.filter s.admits).map fun m =>
    ⟨if m.structured then m.level.name else m.level.padded, m.text, m.structured⟩

/-- The lines that messages write to the file. -/
def fileLines (s : LogSetup) (messages : List Message) : List Line :=
  if s.toFile then (messages.filter s.admits).map fun m => ⟨m.level.padded, m.text, false⟩ else []

end LogSetup

end Electorate.Log
