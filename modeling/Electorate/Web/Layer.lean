import Electorate.Config.Settings

/-!
# The layers around the routes

* `Layer`: what every request and response passes through.
* `layers`: the layers that the settings ask for, outermost first.
-/

namespace Electorate.Web

/-- The origins that browsers may call from. -/
structure OriginRule where
  /-- Origins by name. -/
  origins : List String
  /-- Origins by a pattern. -/
  pattern : Option String
deriving DecidableEq, Repr

/-- A layer. -/
inductive Layer where
  /-- Refuses requests beyond a number per minute and client. -/
  | rateLimit (limit : Int) (trusted : List String)
  /-- Adds the security headers to a response. -/
  | securityHeaders
  /-- Answers for browsers which origins may call. -/
  | origins (rule : OriginRule)
deriving DecidableEq, Repr

/-- The layer that tells browsers which origins may call. -/
def originLayer (s : Settings) : Layer :=
  let pattern := Text.strip s.corsOriginRegex
  .origins ⟨s.corsOriginList, if pattern = "" then none else some pattern⟩

/-- The layers of the program, outermost first. -/
def layers (s : Settings) : List Layer :=
  [.rateLimit s.rateLimitPerMinute s.trustedHeaderList, .securityHeaders, originLayer s]

/-- The headers that a response is given against misuse by browsers. -/
def securityHeaders : List (String × String) :=
  [("X-Content-Type-Options", "nosniff"), ("X-Frame-Options", "DENY"),
    ("Strict-Transport-Security", "max-age=31536000; includeSubDomains")]

end Electorate.Web
