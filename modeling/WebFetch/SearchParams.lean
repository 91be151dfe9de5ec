import WebFetch.Url.Shared

/-!
Search parameters: a live view of the query of a URL as a list of pairs. A view keeps no list of its
own; every call reads the query and writes it back.
-/

set_option autoImplicit false

namespace WebFetch

structure SearchParams where
  url : UrlRef
  deriving DecidableEq

inductive SearchParamsInit where
  | query (text : String)
  | pairs (elements : List (List String))
  | entries (pairs : List (String × String))

namespace SearchParamsInit

/-- The URL whose query holds the parameters of no other URL. -/
def scratch : String := "http://x/"

def appendElement (u : Url) (element : List String) : Except Invalid Url :=
  match element with
  | [name, value] => .ok (u.updatePairs (·.append name value))
  | _ => .error (.pairLength element.length)

/-- Puts the parameters into the query of a URL. One question mark in front of a query is not part
    of it; pairs are appended one by one. -/
def apply (u : Url) : SearchParamsInit → Except Invalid Url
  | .query text =>
    let cs := text.toList
    .ok (u.setSearch (String.ofList ('?' :: (if cs.head? = some '?' then cs.drop 1 else cs))))
  | .pairs elements => elements.foldlM appendElement u
  | .entries list => .ok (list.foldl (fun u pair => u.updatePairs (·.append pair.1 pair.2)) u)

end SearchParamsInit

namespace SearchParams

def ofUrl (u : UrlRef) : SearchParams := ⟨u⟩

/-- Parameters with a URL of their own. -/
def create (host : Host) (init : SearchParamsInit) : Run (Except FetchError SearchParams) :=
  match host.parseUrl SearchParamsInit.scratch with
  | .error e => return .error (.host e)
  | .ok u =>
    match init.apply u with
    | .error e => return .error (.validation e)
    | .ok u => do return .ok ⟨← UrlRef.create u⟩

def entries (p : SearchParams) : Run Entries := do return (← p.url.read).pairs

def update (p : SearchParams) (change : Entries → Entries) : Run Unit :=
  p.url.update fun u => u.updatePairs change

def append (p : SearchParams) (name value : String) : Run Unit := p.update (·.append name value)

def delete (p : SearchParams) (name : String) : Run Unit := p.update (·.delete name)

def set (p : SearchParams) (name value : String) : Run Unit := p.update (·.set name value)

def sort (p : SearchParams) : Run Unit := p.update (·.sort)

def getAll (p : SearchParams) (name : String) : Run (List String) :=
  return (← p.entries).valuesOf name

def get? (p : SearchParams) (name : String) : Run (Option String) :=
  return (← p.getAll name).head?

def has (p : SearchParams) (name : String) : Run Bool :=
  return (← p.entries).has name

def keys (p : SearchParams) : Run (List String) := return (← p.entries).map Prod.fst

def values (p : SearchParams) : Run (List String) := return (← p.entries).map Prod.snd

def size (p : SearchParams) : Run Nat := return (← p.entries).length

def render (p : SearchParams) : Run String := return Form.render (← p.entries)

end SearchParams

end WebFetch
