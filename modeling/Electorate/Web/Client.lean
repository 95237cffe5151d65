import Electorate.Text.Blank
import Electorate.Text.Split
import Electorate.Web.Headers

/-!
# The address of a client

* `clientAddress`: the address that a trusted header names, else that of the connection.
-/

namespace Electorate.Web

/-- The header that lists the addresses on the way, the client's first. -/
def forwardedFor : String := "x-forwarded-for"

/-- The headers that are trusted unless others are chosen. -/
def defaultTrustedHeaders : List String := ["CF-Connecting-IP", "X-Forwarded-For", "X-Real-IP"]

/-- The address in a header; a blank header has none. Of a list of addresses the first counts. -/
def addressIn (headers : Headers) (name : String) : Option String :=
  let value := Text.strip ((header? headers name).getD "")
  if value = "" then none
  else if Text.lowerAscii name = forwardedFor then some (Text.strip (Text.cutAt ',' value).1)
  else some value

/-- The address of a client: that of the first trusted header that has one, else that of the
connection. -/
def clientAddress (trusted : List String) (headers : Headers) (peer : Option String) : String :=
  match trusted.findSome? (addressIn headers) with
  | some address => address
  | none => peer.getD "unknown"

end Electorate.Web
