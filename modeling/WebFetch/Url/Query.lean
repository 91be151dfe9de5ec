import WebFetch.Form
import WebFetch.Url.Setters

/-!
The query of a URL as a list of pairs. The list is read from the query and written back whole.
-/

set_option autoImplicit false

namespace WebFetch

namespace Url

def pairs (u : Url) : Entries := (u.query.map Form.parse).getD []

/-- An empty list leaves no query. -/
def withPairs (u : Url) (pairs : Entries) : Url :=
  if pairs.isEmpty then u.withQuery none else { u with query := some (Form.render pairs) }

def updatePairs (u : Url) (change : Entries → Entries) : Url := u.withPairs (change u.pairs)

end Url

end WebFetch
