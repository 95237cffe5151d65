import Electorate.Text.Split

/-!
# The paths of the interface

* `Endpoint`: what a path asks for.
* `Endpoint.ofPath?`: the endpoint of a path below a base path.
* `Route`: an endpoint, a redirection to a path with or without a final slash, or nothing.
* `PathError`: a base path that cannot be used.
-/

namespace Electorate.Web

/-- What a path asks for. -/
inductive Endpoint where
  | voters
  | summary
  | chartData
  | mapStats
  | lookup
  | household (number : String)
deriving DecidableEq, Repr

/-- Why a base path cannot be used. -/
inductive PathError where
  | noSlash
  | finalSlash
deriving DecidableEq, Repr

/-- The wording for a base path that cannot be used. -/
def PathError.message : PathError → String
  | noSlash => "A path prefix must start with '/'"
  | finalSlash => "A path prefix must not end with '/', as the routes will start with '/'"

/-- A base path: empty, or one that starts with a slash and does not end with one. -/
def checkBase (base : String) : Except PathError String :=
  let cs := base.toList
  if cs.isEmpty then .ok base
  else if cs.head? ≠ some '/' then .error .noSlash
  else if cs.getLast? = some '/' then .error .finalSlash
  else .ok base

/-- The rest of a text behind another one. -/
def behind : List Char → List Char → Option (List Char)
  | [], cs => some cs
  | _ :: _, [] => none
  | a :: rest, c :: cs => if a = c then behind rest cs else none

namespace Endpoint

/-- The endpoint of the parts of a path below the voters. -/
def ofParts? : List String → Option Endpoint
  | [] => some voters
  | ["summary"] => some summary
  | ["chart-data"] => some chartData
  | ["map-stats"] => some mapStats
  | ["lookup"] => some lookup
  | [number, "household"] => if number = "" then none else some (household number)
  | _ => none

/-- A path without one line end behind it. -/
def withoutLineEnd (path : List Char) : List Char :=
  if path.getLast? = some '\n' then path.dropLast else path

/-- The endpoint of a path. One line end behind the path is let through. -/
def ofPath? (base path : String) : Option Endpoint :=
  match behind (base ++ "/voters").toList (withoutLineEnd path.toList) with
  | some [] => ofParts? []
  | some ('/' :: rest) => ofParts? (Text.splitOn '/' (String.ofList rest))
  | _ => none

end Endpoint

/-- Where a path leads. -/
inductive Route where
  | endpoint (e : Endpoint)
  /-- The same path with or without a final slash is that of an endpoint. -/
  | elsewhere
  | nowhere
deriving DecidableEq, Repr

/-- A path with its final slashes taken away, or with one where it has none. -/
def otherForm (path : String) : String :=
  let cs := path.toList
  if cs.getLast? = some '/' then String.ofList (cs.reverse.dropWhile (· == '/')).reverse
  else path ++ "/"

/-- Where a path leads. -/
def Route.ofPath (base path : String) : Route :=
  match Endpoint.ofPath? base path with
  | some e => .endpoint e
  | none =>
    if path ≠ "/" ∧ (Endpoint.ofPath? base (otherForm path)).isSome then .elsewhere else .nowhere

end Electorate.Web
