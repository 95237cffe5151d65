import Electorate.Text.Case

/-!
# Headers

* `Headers`: the headers of a request or of a response.
* `header?`: the first value of a header. The case of its name does not count.
-/

namespace Electorate.Web

/-- Headers in the order in which they stand. -/
abbrev Headers := List (String × String)

/-- The first value of a header; names count without regard to case. -/
def header? (headers : Headers) (name : String) : Option String :=
  (headers.find? fun h => Text.lowerAscii h.1 == Text.lowerAscii name).map Prod.snd

end Electorate.Web
