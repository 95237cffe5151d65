import Electorate.Form.Checked
import Electorate.Form.Reading
import Electorate.Text.Case
import Electorate.Text.Split

/-!
# Settings

The program is set up by environment variables. Their names count without regard to case, and
variables of other names are passed over.

* `Settings`: the settings with their defaults.
* `Settings.ofEnvironment`: the settings of an environment, or all faults in it.
* `Settings.ofUrl`: the defaults.
* `Settings.chartYearList`, `corsOriginList`, `trustedHeaderList`: the settings that are lists.
-/

namespace Electorate

open Electorate.Form (Checked)

/-- The settings of the program. -/
structure Settings where
  databaseUrl : String
  databaseSchema : Option String
  databasePoolSize : Int
  /-- Milliseconds after which the store breaks a statement off. -/
  statementTimeoutMs : Option Int
  /-- The number of statements of a chart that run at once. -/
  concurrency : Int
  /-- Seconds after which a statement of a chart is given up. -/
  queryTimeoutSeconds : Option Float
  chartYears : String
  cacheMaxEntries : Int
  cacheTtlSeconds : Int
  logLevel : String
  logDir : Option String
  corsOrigins : String
  corsOriginRegex : String
  apiPath : String
  rateLimitPerMinute : Int
  trustedProxyHeaders : String

/-- The value of an environment variable; of two the one that is given last. -/
def valueOf? (env : List (String × String)) (name : String) : Option String :=
  ((env.filter fun v => Text.lowerAscii v.1 == name).getLast?).map Prod.snd

/-- A lower-case letter or an underscore. -/
def isSchemaStart (c : Char) : Bool := ('a' ≤ c && c ≤ 'z') || c == '_'

/-- A character that follows the first one of a schema name. -/
def isSchemaPart (c : Char) : Bool := isSchemaStart c || ('0' ≤ c && c ≤ '9')

/-- Whether a text is a schema name: at most 63 lower-case letters, digits and underscores, the
first one no digit. One line end behind it is let through. -/
def isSchemaName (s : String) : Bool :=
  let cs := s.toList
  match if cs.getLast? = some '\n' then cs.dropLast else cs with
  | [] => false
  | c :: rest => isSchemaStart c && rest.all isSchemaPart && rest.length ≤ 62

/-- The wording for a text that is no schema name. -/
def badSchemaMessage : String :=
  "Invalid database_schema: must match ^[a-z_][a-z0-9_]\x7b0,62\x7d$"

/-- A schema name. -/
def readSchema (s : String) : Except FieldFault String :=
  if isSchemaName s then .ok s else .error (.refused badSchemaMessage)

/-- A positive whole number. -/
def readPositive (s : String) : Except FieldFault Int := do Form.above 0 (← Form.readWhole s)

/-- A positive number of seconds. What is no number at all is let through. -/
def readSeconds (s : String) : Except FieldFault Float := do
  let x ← Form.readNumber s
  if x ≤ 0.0 then .error .notAbove else .ok x

/-- The greatest number of statements of a chart that run at once. -/
def maxConcurrency : Int := 64

/-- A number of statements that run at once. -/
def readConcurrency (s : String) : Except FieldFault Int := do
  Form.above 0 (← Form.atMost maxConcurrency (← Form.readWhole s))

/-- The parts of a text with commas between them, stripped, without the blank ones. -/
def commaList (s : String) : List String :=
  ((Text.splitOn ',' s).map Text.strip).filter (· != "")

namespace Settings

/-- The settings of an environment, or all faults in it. -/
def ofEnvironment (env : List (String × String)) : Checked Settings :=
  let text (name default : String) : Checked String := pure ((valueOf? env name).getD default)
  let read {α : Type} (name : String) (default : α) (f : String → Except FieldFault α) :
      Checked α :=
    match valueOf? env name with
    | none => pure default
    | some s => .field [name] (f s)
  let readOptional {α : Type} (name : String) (default : Option α)
      (f : String → Except FieldFault α) : Checked (Option α) :=
    read name default fun s => (f s).map some
  mk <$>
    .field ["database_url"]
      (match valueOf? env "database_url" with
      | some url => .ok url
      | none => .error .missing) <*>
    readOptional "database_schema" none readSchema <*>
    read "database_pool_size" 10 readPositive <*>
    readOptional "database_statement_timeout_ms" (some 30000) readPositive <*>
    read "aggregation_concurrency" 8 readConcurrency <*>
    readOptional "aggregation_query_timeout_seconds" none readSeconds <*>
    text "chart_years" "2004,2006,2008,2010,2012,2014,2016,2018,2020,2022,2024" <*>
    read "result_cache_max_entries" 256 readPositive <*>
    read "result_cache_ttl_seconds" 3600 readPositive <*>
    text "log_level" "INFO" <*>
    readOptional "log_dir" none .ok <*>
    text "cors_origins" "" <*>
    text "cors_origin_regex" "" <*>
    text "api_v1_prefix" "/api/v1" <*>
    read "rate_limit_per_minute" 200 readPositive <*>
    text "trusted_proxy_headers" "CF-Connecting-IP,X-Forwarded-For,X-Real-IP"

/-- The settings where nothing but the database is chosen. -/
def ofUrl (url : String) : Settings where
  databaseUrl := url
  databaseSchema := none
  databasePoolSize := 10
  statementTimeoutMs := some 30000
  concurrency := 8
  queryTimeoutSeconds := none
  chartYears := "2004,2006,2008,2010,2012,2014,2016,2018,2020,2022,2024"
  cacheMaxEntries := 256
  cacheTtlSeconds := 3600
  logLevel := "INFO"
  logDir := none
  corsOrigins := ""
  corsOriginRegex := ""
  apiPath := "/api/v1"
  rateLimitPerMinute := 200
  trustedProxyHeaders := "CF-Connecting-IP,X-Forwarded-For,X-Real-IP"

theorem ofEnvironment_url (url : String) :
    ofEnvironment [("DATABASE_URL", url)] = .value (ofUrl url) := by
  have hname : Text.lowerAscii "DATABASE_URL" = "database_url" := by decide +kernel
  have hvalue (name : String) : valueOf? [("DATABASE_URL", url)] name =
      if "database_url" = name then some url else none := by
    by_cases h : "database_url" = name <;> simp [valueOf?, hname, h]
  simp only [ofEnvironment, hvalue, String.reduceEq, if_false, if_true]
  rfl

/-- The years of a chart for which none are chosen. -/
def chartYearList (s : Settings) : Except Number.IntegerError (List Int) :=
  (commaList s.chartYears).mapM Number.readInteger

/-- The origins that browsers may call from. -/
def corsOriginList (s : Settings) : List String := commaList s.corsOrigins

/-- The headers that may name the address of a client. -/
def trustedHeaderList (s : Settings) : List String := commaList s.trustedProxyHeaders

end Settings

end Electorate
