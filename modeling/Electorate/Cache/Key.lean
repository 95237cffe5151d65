import Electorate.Json

/-!
# Cache keys

* `cacheKey`: the key of a computation, from its name and its arguments. The order of named
  arguments does not count.
-/

namespace Electorate

/-- The key of the computation `computation` with the given arguments. -/
def cacheKey (computation : String) (args : List Json) (named : List (String × Json)) : String :=
  computation ++ ":" ++ (Json.object [("args", .list args), ("kwargs", .object named)]).canonical

end Electorate
