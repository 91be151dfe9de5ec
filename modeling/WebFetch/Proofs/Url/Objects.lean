import WebFetch.Proofs.Request.Construction
import WebFetch.Proofs.SearchParams.View

/-!
The objects of a program through which URLs are seen: URL objects, views of parameters and requests.
Each shows one cell. What comes of an object is either another object for the same cell or a copy in
a new one, and a write reaches the cell and nothing else.
-/

set_option autoImplicit false

namespace WebFetch

/-- An object of a program through which a URL is seen. -/
inductive UrlObject where
  | url (u : UrlRef)
  | params (p : SearchParams)
  | request (r : Request)

namespace UrlObject

def cell : UrlObject → UrlRef
  | url u => u
  | params p => p.url
  | request r => r.url

/-- What an object shows. The answer to every question about it is a function of this. -/
inductive Reading where
  | url (value : Url)
  | params (list : Entries)
  | request (fields : RequestFields) (value : Url)

def read : UrlObject → Run Reading
  | url u => do return .url (← u.read)
  | params p => do return .params (← p.entries)
  | request r => do return .request r.toRequestFields (← r.url.read)

/-- What an object shows where its URL is this one. -/
def shows (value : Url) : UrlObject → Reading
  | url _ => .url value
  | params _ => .params value.pairs
  | request r => .request r.toRequestFields value

inductive Link where
  | share
  | searchParams
  | parsedUrl

/-- Another object for the same URL. Parameters are taken from URL objects, and URL objects from
    requests. -/
def link? : UrlObject → Link → Option UrlObject
  | url u, .share => some (.url u.share)
  | params p, .share => some (.params p)
  | url u, .searchParams => some (.params (.ofUrl u))
  | request r, .parsedUrl => some (.url r.url)
  | _, _ => none

/-- The object that comes of making something, if it could be made. -/
def keep {α : Type} (object : α → UrlObject) (making : Run (Except FetchError α)) :
    Run (Option UrlObject) := do
  return (← making).toOption.map object

inductive Copy where
  | duplicate
  | request (init : RequestInit)
  | clone

/-- An object with a URL of its own that is made of this one. -/
def copy (host : Host) : UrlObject → Copy → Run (Option UrlObject)
  | url u, .duplicate => do return some (.url (← u.duplicate))
  | url u, .request init => keep .request (Request.create host (.url u) init)
  | request r, .request init => keep .request (Request.create host (.request r) init)
  | request r, .clone => keep .request (r.clone host)
  | _, _ => return none

inductive Opening where
  | parse (text : String) (base : Option String)
  | params (init : SearchParamsInit)
  | request (text : String) (init : RequestInit)

/-- An object that is made of no other. -/
def Opening.run (host : Host) : Opening → Run (Option UrlObject)
  | parse text base => keep .url (UrlRef.parse host text base)
  | params init => keep .params (SearchParams.create host init)
  | request text init => keep .request (Request.create host (.text text) init)

inductive Write where
  | set (c : Component) (value : String)
  | href (text : String)
  | edit (e : Entries.Edit)

/-- URL objects have setters, and views of parameters have edits. -/
def Takes : UrlObject → Write → Prop
  | url _, .set _ _ | url _, .href _ | params _, .edit _ => True
  | _, _ => False

def write : UrlObject → Write → Run Unit
  | url u, .set c value => u.set c value
  | url u, .href text => discard (u.setHref text)
  | params p, .edit e => p.edit e
  | _, _ => pure ()

/-- What a write makes of a URL. A text that is none leaves it as it is. -/
def Write.result (value : Url) : Write → Url
  | set c text => value.setComponent c text
  | href text => (Url.parse text).toOption.getD value
  | edit e => value.updatePairs e.apply

/-! ## One operation -/

section Operations

variable (x : UrlObject) (host : Host) (s : Session)

theorem read_run : x.read s = (x.shows (s.url x.cell), s) := by
  cases x with
  | url u | params p | request r => rfl

theorem cell_of_link {x y : UrlObject} {l : Link} (linked : x.link? l = some y) :
    y.cell = x.cell := by
  cases x with
  | url u | params p | request r =>
    cases l with
    | share | searchParams | parsedUrl => cases linked <;> rfl

/-- Nothing, or an object in a new cell that holds this URL. -/
inductive Makes (s : Session) (value : Url) : Option UrlObject × Session → Prop where
  | nothing : Makes s value (none, s)
  | object {y : UrlObject} (new : y.cell = s.nextUrl) : Makes s value (some y, s.addUrl value)

theorem makes_of_error {α : Type} {making : Run (Except FetchError α)} {e : FetchError}
    {s : Session} (failed : making s = (.error e, s)) (object : α → UrlObject) (value : Url) :
    Makes s value (keep object making s) := by
  rw [keep, run_bind failed]
  exact .nothing

theorem makes_of_ok {α : Type} {making : Run (Except FetchError α)} {a : α} {s : Session}
    {value : Url} (made : making s = (.ok a, s.addUrl value)) {object : α → UrlObject}
    (new : (object a).cell = s.nextUrl) : Makes s value (keep object making s) := by
  rw [keep, run_bind made]
  exact .object new

theorem makes_request {input : RequestInput} {value : Url}
    (target : input.target host s = .ok value) (init : RequestInit) :
    Makes s value (keep .request (Request.create host input init) s) := by
  rcases Request.create_cases host input init s with ⟨e, refused⟩ | ⟨url, _, found, _, made⟩
  · exact makes_of_error refused .request value
  · cases target.symm.trans found
    exact makes_of_ok made rfl

theorem makes_copy (c : Copy) : Makes s (s.url x.cell) (x.copy host c s) := by
  cases x with
  | url u =>
    cases c with
    | duplicate => exact .object rfl
    | request init => exact makes_request host s rfl init
    | clone => exact .nothing
  | params p => exact .nothing
  | request r =>
    cases c with
    | duplicate => exact .nothing
    | request init => exact makes_request host s rfl init
    | clone => exact makes_request host s rfl .empty

theorem Opening.makes_run (o : Opening) : ∃ value, Makes s value (o.run host s) := by
  cases o with
  | parse text base =>
    change ∃ value, Makes s value (keep .url (UrlRef.parse host text base) s)
    unfold UrlRef.parse
    cases host.resolveUrl text base with
    | error e => exact ⟨Session.blankUrl, makes_of_error rfl .url _⟩
    | ok value => exact ⟨value, makes_of_ok rfl rfl⟩
  | params init =>
    change ∃ value, Makes s value (keep .params (SearchParams.create host init) s)
    unfold SearchParams.create
    cases host.parseUrl SearchParamsInit.scratch with
    | error e => exact ⟨Session.blankUrl, makes_of_error rfl .params _⟩
    | ok base =>
      dsimp only
      cases init.apply base with
      | error e => exact ⟨Session.blankUrl, makes_of_error rfl .params _⟩
      | ok value => exact ⟨value, makes_of_ok rfl rfl⟩
  | request text init =>
    change ∃ value, Makes s value (keep .request (Request.create host (.text text) init) s)
    rcases Request.create_cases host (.text text) init s with ⟨e, refused⟩ | ⟨value, _, _, _, made⟩
    · exact ⟨Session.blankUrl, makes_of_error refused .request _⟩
    · exact ⟨value, makes_of_ok made rfl⟩

theorem setHref_run (u : UrlRef) (text : String) :
    (u.setHref text s).2 = s.setUrl u ((Url.parse text).toOption.getD (s.url u)) ∧
      ∀ e, (u.setHref text s).1 = .error e → (u.setHref text s).2 = s := by
  unfold UrlRef.setHref
  cases Url.parse text with
  | ok value => exact ⟨rfl, fun _ failed => by cases failed⟩
  | error e => exact ⟨(Session.setUrl_url s u).symm, fun _ _ => rfl⟩

theorem write_run {x : UrlObject} {w : Write} (takes : x.Takes w) :
    (x.write w s).2 = s.setUrl x.cell (w.result (s.url x.cell)) := by
  cases x with
  | url u =>
    cases w with
    | set c value => rfl
    | href text => exact (setHref_run s u text).1
    | edit e => cases takes
  | params p =>
    cases w with
    | set c value | href text => cases takes
    | edit e => exact congrArg Prod.snd (SearchParams.edit_run p e s)
  | request r => cases w <;> cases takes

theorem write_run_of_not_takes {x : UrlObject} {w : Write} (refuses : ¬ x.Takes w) :
    (x.write w s).2 = s := by
  cases x with
  | url u | params p | request r =>
    cases w with
    | set c value | href text | edit e => first | rfl | exact absurd trivial refuses

end Operations

end UrlObject

end WebFetch
