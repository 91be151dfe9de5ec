import WebFetch.Headers.Record
import WebFetch.Text.Utf8
import WebFetch.Url.Basic

/-!
The state that objects share and the effects that others can see. Handles are names of cells: two
handles of one cell always see the same content.
-/

set_option autoImplicit false

namespace WebFetch

/-- A URL that may be shared. -/
structure UrlRef where
  cell : Nat
  deriving DecidableEq

structure Signal where
  cell : Nat
  deriving DecidableEq

structure Outbound where
  method : String
  url : String
  headers : HeaderRecord
  body : Option Bytes
  signal : Option Signal
  deriving DecidableEq

structure Inbound where
  status : Nat
  headers : HeaderRecord
  body : Option Bytes
  url : String
  deriving DecidableEq

inductive Level where
  | error
  | warn
  | info
  | debug
  | trace
  deriving DecidableEq

/-- Who writes a record: the program through its console, or this library. -/
inductive Source where
  | console
  | library
  deriving DecidableEq

/-- What can be seen from outside, in the order in which it happens. -/
inductive Event where
  | logged (level : Level) (source : Source) (text : String)
  | contacted (request : Outbound)
  deriving DecidableEq

structure Session where
  urls : Array Url
  cancelled : Array Bool
  journal : List Event

/-- A computation on the shared state. -/
abbrev Run := StateM Session

namespace Session

def empty : Session := ⟨#[], #[], []⟩

/-- The content of a cell that does not exist. -/
def blankUrl : Url := ⟨"", none, false, "", none, none⟩

def url (s : Session) (u : UrlRef) : Url := s.urls.getD u.cell blankUrl

def setUrl (s : Session) (u : UrlRef) (value : Url) : Session :=
  { s with urls := s.urls.setIfInBounds u.cell value }

/-- The cell that the next new URL gets. -/
def nextUrl (s : Session) : UrlRef := ⟨s.urls.size⟩

def addUrl (s : Session) (value : Url) : Session := { s with urls := s.urls.push value }

def HasUrl (s : Session) (u : UrlRef) : Prop := u.cell < s.urls.size

theorem url_setUrl_self {s : Session} {u : UrlRef} (h : s.HasUrl u) (value : Url) :
    (s.setUrl u value).url u = value := by
  have h : u.cell < s.urls.size := h
  simp [setUrl, url, h]

theorem url_setUrl_of_ne (s : Session) {u w : UrlRef} (h : w ≠ u) (value : Url) :
    (s.setUrl u value).url w = s.url w := by
  have hne : u.cell ≠ w.cell := fun e => h (by cases u; cases w; simp_all)
  simp only [setUrl, url, Array.getD_eq_getD_getElem?, Array.getElem?_setIfInBounds_ne hne]

theorem setUrl_url (s : Session) (u : UrlRef) : s.setUrl u (s.url u) = s := by
  have same : s.urls.setIfInBounds u.cell (s.urls.getD u.cell blankUrl) = s.urls := by
    by_cases h : u.cell < s.urls.size
    · simp [Array.setIfInBounds, h]
    · simp [Array.setIfInBounds, h]
  rw [setUrl, url, same]

theorem url_of_not_hasUrl {s : Session} {u : UrlRef} (h : ¬ s.HasUrl u) : s.url u = blankUrl := by
  have h : s.urls.size ≤ u.cell := Nat.le_of_not_lt h
  simp [url, Array.getD_eq_getD_getElem?, h]

theorem hasUrl_setUrl (s : Session) (u w : UrlRef) (value : Url) :
    (s.setUrl u value).HasUrl w ↔ s.HasUrl w := by
  simp [HasUrl, setUrl]

theorem url_addUrl_nextUrl (s : Session) (value : Url) :
    (s.addUrl value).url s.nextUrl = value := by
  simp [addUrl, url, nextUrl]

theorem url_addUrl_of_hasUrl {s : Session} {u : UrlRef} (h : s.HasUrl u) (value : Url) :
    (s.addUrl value).url u = s.url u := by
  have h : u.cell < s.urls.size := h
  simp [addUrl, url, Array.getElem?_push, Nat.ne_of_lt h]

theorem not_hasUrl_nextUrl (s : Session) : ¬ s.HasUrl s.nextUrl := Nat.lt_irrefl _

def isCancelled (s : Session) (signal : Signal) : Bool := s.cancelled.getD signal.cell false

end Session

def record (event : Event) : Run Unit :=
  modify fun s => { s with journal := s.journal ++ [event] }

def log (level : Level) (text : String) : Run Unit := record (.logged level .library text)

namespace UrlRef

def create (value : Url) : Run UrlRef := fun s => (s.nextUrl, s.addUrl value)

def read (u : UrlRef) : Run Url := fun s => (s.url u, s)

def write (u : UrlRef) (value : Url) : Run Unit := modify fun s => s.setUrl u value

def update (u : UrlRef) (change : Url → Url) : Run Unit := do u.write (change (← u.read))

def duplicate (u : UrlRef) : Run UrlRef := do create (← u.read)

end UrlRef

namespace Signal

def create : Run Signal :=
  fun s => (⟨s.cancelled.size⟩, { s with cancelled := s.cancelled.push false })

def cancel (signal : Signal) : Run Unit :=
  modify fun s => { s with cancelled := s.cancelled.setIfInBounds signal.cell true }

def isCancelled (signal : Signal) : Run Bool := fun s => (s.isCancelled signal, s)

end Signal

end WebFetch
