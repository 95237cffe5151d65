import Electorate.Entries
import Electorate.Json

/-!
# Limiting the requests of a client

* `HitLog`: the times of the requests of each client.
* `HitLog.hit`: enters a request and counts those in the window that ends with it.
* `admits`: whether so many requests are let through.

Times are rational numbers of seconds, and a window starts at the exact difference. The rounding of
the doubles that a clock gives is left out.
-/

namespace Electorate.Web

/-- The times of the requests of each client. Times that have left the window are dropped when
the client is seen again. -/
structure HitLog where
  entries : List (String × List Rat)

namespace HitLog

/-- No requests. -/
def empty : HitLog := ⟨[]⟩

/-- The times that are kept for a client. -/
def times (log : HitLog) (client : String) : List Rat := (log.entries.lookup client).getD []

/-- The times after the start of a window. -/
def recent (start : Rat) (times : List Rat) : List Rat := times.filter fun t => start < t

/-- Enters a request at a time. The number counts the client's requests in the window that ends
then, this one included. -/
def hit (log : HitLog) (client : String) (now window : Rat) : Nat × HitLog :=
  let times := recent (now - window) (log.times client) ++ [now]
  (times.length, ⟨Entries.put client times log.entries⟩)

end HitLog

/-- The window of the limit in seconds. -/
def windowSeconds : Rat := 60

/-- The requests per window unless their number is chosen. -/
def defaultLimit : Int := 60

/-- Whether a client's request is let through that is the `count`th in its window. -/
def admits (limit : Int) (count : Nat) : Bool := (count : Int) ≤ limit

/-- The answer to a request beyond the limit. -/
def tooManyRequests : Json := .object [("detail", .text "Rate limit exceeded")]

end Electorate.Web
