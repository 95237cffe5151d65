import Electorate.Entries
import Electorate.Json
import Electorate.Number.Integer

/-!
# Connecting to the database

* `serverSettings`: the parameters that the server is given for each connection.
* `EngineOptions.build`: the address and the options with which connections are made.
* `Database`: whether connections can be made, and what they need.
-/

namespace Electorate

/-- Why there is no connection. -/
inductive ConnectionError where
  /-- The connection arguments are no object. -/
  | argumentsNotObject
  /-- The server settings among the connection arguments are no object but of this kind. -/
  | settingsNotObject (kind : String)
  /-- Nothing has been opened yet. -/
  | noEngine
  /-- Nothing has been opened from which a session could come. -/
  | noSessions
deriving DecidableEq, Repr

/-- The wording of a fault. -/
def ConnectionError.message : ConnectionError → String
  | argumentsNotObject => "connect_args must be a dict"
  | settingsNotObject kind => s!"'{kind}' object has no attribute 'update'"
  | noEngine => "Database engine not initialized. Call init_engine() first."
  | noSessions => "Session factory not initialized. Call init_engine() first."

/-- The parameters of a connection: the schema in front of the public one, and the milliseconds
after which a statement is broken off. -/
def serverSettings (schema : Option String) (timeoutMs : Option Int) : List (String × String) :=
  (schema.map fun s => ("search_path", s ++ ",public")).toList ++
    (timeoutMs.map fun n => ("statement_timeout", toString n)).toList

/-- Options by name. -/
abbrev Options := List (String × Json)

namespace Options

/-- Puts an option unless it is there. -/
def putDefault (name : String) (value : Json) (o : Options) : Options :=
  if (o.lookup name).isSome then o else o ++ [(name, value)]

end Options

/-- The address of a database and the options of its connections. -/
structure EngineOptions where
  url : String
  options : Options

/-- The kind of a value, as faults name it. -/
def Json.kind : Json → String
  | .null => "NoneType"
  | .bool _ => "bool"
  | .int _ => "int"
  | .float _ => "float"
  | .text _ => "str"
  | .list _ => "list"
  | .object _ => "dict"

/-- The connection arguments with the server settings put into them. -/
def withServerSettings (settings : List (String × String)) (arguments : Options) :
    Except ConnectionError Options :=
  match (arguments.lookup "server_settings").getD (.object []) with
  | .object members =>
    let added := settings.foldl (fun l (n, v) => Entries.put n (.text v) l) members
    .ok (Entries.put "server_settings" (.object added) arguments)
  | other => .error (.settingsNotObject other.kind)

/-- Whether a text stands somewhere in another. -/
def occursIn (part : List Char) : List Char → Bool
  | [] => part.isEmpty
  | c :: rest => part.isPrefixOf (c :: rest) || occursIn part rest

/-- Whether connections are kept by other means than a pool of a given size. -/
def keepsNoPool (url : String) (options : Options) : Bool :=
  occursIn "sqlite".toList url.toList ||
    match options.lookup "poolclass" with
    | some (.text name) => name == "StaticPool"
    | _ => false

namespace EngineOptions

/-- The options of a pool of connections, where nothing else is chosen. -/
def poolDefaults (poolSize : Int) (o : Options) : Options :=
  ((o.putDefault "pool_size" (.int poolSize)).putDefault "max_overflow"
    (.int (max (Int.fdiv poolSize 2) 1))).putDefault "pool_pre_ping" (.bool true)

/-- The size of a pool unless it is chosen. -/
def defaultPoolSize : Int := 10

/-- The options of the connections to a database. -/
def build (url : String) (schema : Option String) (timeoutMs : Option Int) (poolSize : Int)
    (given : Options) : Except ConnectionError EngineOptions := do
  let settings := serverSettings schema timeoutMs
  let options ←
    if settings.isEmpty then .ok given
    else
      match (given.lookup "connect_args").getD (.object []) with
      | .object arguments => do
        let arguments ← withServerSettings settings arguments
        .ok (Entries.put "connect_args" (.object arguments) given)
      | _ => .error .argumentsNotObject
  return ⟨url, if keepsNoPool url options then options else poolDefaults poolSize options⟩

end EngineOptions

/-- The database that the program is connected to, if any. -/
structure Database where
  engine : Option EngineOptions

namespace Database

/-- No database. -/
def closed : Database := ⟨none⟩

/-- The options of the connections. -/
def connection (d : Database) : Except ConnectionError EngineOptions :=
  match d.engine with
  | some e => .ok e
  | none => .error .noEngine

/-- Whether sessions can be had. -/
def sessions (d : Database) : Except ConnectionError Unit :=
  match d.engine with
  | some _ => .ok ()
  | none => .error .noSessions

end Database

end Electorate
