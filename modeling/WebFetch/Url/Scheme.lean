/-!
What a scheme decides: the grammar of the rest of the URL and the port that is left out.
-/

set_option autoImplicit false

namespace WebFetch

/-- The three grammars. Web schemes and `file` are the special ones. -/
inductive SchemeKind where
  | file
  | web
  | other
  deriving DecidableEq

namespace SchemeKind

def ofScheme (scheme : String) : SchemeKind :=
  if scheme = "file" then .file
  else if scheme = "http" ∨ scheme = "https" ∨ scheme = "ws" ∨ scheme = "wss" ∨ scheme = "ftp" then
    .web
  else .other

def isSpecial : SchemeKind → Bool
  | .other => false
  | _ => true

end SchemeKind

/-- The port that a URL of the scheme does not write. -/
def defaultPort? (scheme : String) : Option Nat :=
  if scheme = "http" ∨ scheme = "ws" then some 80
  else if scheme = "https" ∨ scheme = "wss" then some 443
  else if scheme = "ftp" then some 21
  else none

end WebFetch
