/-!
The text a URL is read from. Tabs and line ends are passed over wherever they stand.
-/

set_option autoImplicit false

namespace WebFetch.UrlInput

def isSkipped (c : Char) : Bool := c == '\t' || c == '\n' || c == '\r'

def visible (cs : List Char) : List Char := cs.filter fun c => !isSkipped c

/-- The next character and what follows it. -/
def next? (cs : List Char) : Option (Char × List Char) :=
  match cs.dropWhile isSkipped with
  | c :: rest => some (c, rest)
  | [] => none

def peek? (cs : List Char) : Option Char := (next? cs).map Prod.fst

def isEmpty (cs : List Char) : Bool := (next? cs).isNone

/-- What follows the character `c`, if it comes next. -/
def after? (c : Char) (cs : List Char) : Option (List Char) :=
  match next? cs with
  | some (d, rest) => if d = c then some rest else none
  | none => none

def afterSlashes? (cs : List Char) : Option (List Char) := (after? '/' cs).bind (after? '/')

/-- The longest start on which `p` holds, and the rest. -/
def span (p : Char → Bool) (cs : List Char) : List Char × List Char :=
  let q := fun c => isSkipped c || p c
  (visible (cs.takeWhile q), cs.dropWhile q)

def isSlash (c : Char) : Bool := c == '/' || c == '\\'

def isAlpha (c : Char) : Bool := ('a' ≤ c && c ≤ 'z') || ('A' ≤ c && c ≤ 'Z')

def isDigit (c : Char) : Bool := '0' ≤ c && c ≤ '9'

/-- Removes C0 controls and blanks from both ends. -/
def trim (cs : List Char) : List Char :=
  ((cs.dropWhile (· ≤ ' ')).reverse.dropWhile (· ≤ ' ')).reverse

end WebFetch.UrlInput
