import WebFetch.Proofs.Request.Workspace
import WebFetch.Proofs.Url.Credentials

/-!
Credentials in the URLs of requests. No request is made of a URL that has any, and nothing that is
done with requests puts them there; but the URL of a request stays an object that can be written to.
So a request is without credentials for as long as nobody writes some to its own URL, and what is
sent then is too. What is fetched always is, for the URL is looked at again.
-/

set_option autoImplicit false

namespace WebFetch

/-! ## One operation -/

namespace Request

/-- The URL of a new request is in a cell of its own and has no credentials. -/
theorem anonymous_of_create {host : Host} {input : RequestInput} {init : RequestInit}
    {s s' : Session} {r : Request} (made : create host input init s = (.ok r, s')) :
    s'.HasUrl r.url ∧ (s'.url r.url).Anonymous := by
  obtain ⟨url, _, resolved, new, rfl⟩ := resolves_of_create made
  rw [new, Session.url_addUrl_nextUrl]
  exact ⟨Session.hasUrl_addUrl_nextUrl s url, Url.anonymous_of_hasCredentials resolved.anonymous⟩

theorem create_of_credentials {host : Host} {input : RequestInput} {init : RequestInit}
    {s : Session} {url : Url} (target : input.target host s = .ok url)
    (present : url.hasCredentials = true) :
    create host input init s = (.error (.validation (.credentials url.href)), s) :=
  create_of_unresolved target (RequestFields.resolve_of_credentials present)

/-- Whatever becomes of it, a request is sent to no other URL than its own. -/
theorem send_sends (host : Host) (r : Request) (s : Session) :
    ∃ requests, s.Sends requests (r.send host s).2 ∧
      ∀ request ∈ requests, request.url = (s.url r.url).href := by
  obtain ⟨requests, sent, shown⟩ := r.send_shows host s
  exact ⟨requests, sent, fun request h => (shown request h).url_eq⟩

end Request

theorem anonymous_of_fetch (host : Host) (input : RequestInput) (init : RequestInit)
    (s : Session) :
    ∃ requests, (fetch host input init s).2.contacts = s.contacts ++ requests ∧
      ∀ request ∈ requests, ∃ u : Url, u.Anonymous ∧ request.url = u.href := by
  obtain ⟨requests, grown, shown⟩ := fetch_grows host input init s
  refine ⟨requests, grown.contacts_eq, fun request h => ?_⟩
  obtain ⟨r, s', made, own⟩ := shown request h
  exact ⟨s'.url r.url, (Request.anonymous_of_create made).2, own.url_eq⟩

namespace Workspace

/-- The actions that have led from a session in which there was no request yet. Between two of them
    anything may happen that leaves the cells alone. -/
inductive Reaches (host : Host) : List Action → Workspace → Prop where
  | start (s : Session) : Reaches host [] ⟨s, []⟩
  | act {history : List Action} {w : Workspace} (before : Reaches host history w) (a : Action) :
      Reaches host (history ++ [a]) (w.act host a)
  | elsewhere {history : List Action} {w : Workspace} (before : Reaches host history w)
      {s : Session} (kept : w.session.Keeps s) : Reaches host history { w with session := s }

/-- The actions that write credentials to a URL. -/
inductive Action.Spoils (u : UrlRef) : Action → Prop where
  | username {value : String} (given : value ≠ "") : Spoils u (.set u .username value)
  | password {value : String} (given : value ≠ "") : Spoils u (.set u .password value)
  | href {text : String} {v : Url} (parsed : Url.parse text = .ok v)
      (present : v.username ≠ "" ∨ v.password ≠ "") : Spoils u (.setHref u text)

/-! ## One action -/

section Step

variable {host : Host} {w : Workspace} {a : Action} {u : UrlRef}

theorem anonymous_of_set {v : Url} {c : Component} {value : String}
    (unspoiled : ¬ (Action.set u c value).Spoils u) (h : v.Anonymous) :
    (v.setComponent c value).Anonymous := by
  by_cases blank : value = ""
  · rw [blank]
    exact h.setComponent_empty c
  · have name : c ≠ .username := by
      rintro rfl
      exact unspoiled (.username blank)
    have word : c ≠ .password := by
      rintro rfl
      exact unspoiled (.password blank)
    exact h.of_credentials (v.credentials_setComponent name word value)

/-- What an action writes to a cell brings no credentials unless it spoils the cell. -/
theorem anonymous_of_writes (writes : a.Writes u) (known : w.session.HasUrl u)
    (unspoiled : ¬ a.Spoils u) (h : (w.session.url u).Anonymous) :
    ((w.act host a).session.url u).Anonymous := by
  cases writes with
  | set c value =>
    change ((w.session.setUrl u _).url u).Anonymous
    rw [Session.url_setUrl_self known]
    exact anonymous_of_set unspoiled h
  | setHref text =>
    change ((u.setHref text w.session).2.url u).Anonymous
    unfold UrlRef.setHref
    cases parsed : Url.parse text with
    | error e => exact h
    | ok v =>
      change ((w.session.setUrl u v).url u).Anonymous
      rw [Session.url_setUrl_self known]
      constructor
      · by_contra present
        exact unspoiled (.href parsed (.inl present))
      · by_contra present
        exact unspoiled (.href parsed (.inr present))
  | @edit p view e =>
    change ((p.edit e w.session).2.url u).Anonymous
    rw [SearchParams.url_edit known view]
    exact h.of_credentials (Url.credentials_updatePairs _ e.apply)

theorem anonymous_act (known : w.session.HasUrl u) (unspoiled : ¬ a.Spoils u)
    (h : (w.session.url u).Anonymous) : ((w.act host a).session.url u).Anonymous := by
  by_cases writes : a.Writes u
  · exact anonymous_of_writes writes known unspoiled h
  · rw [url_act known writes]
    exact h

/-- A request that is held after an action has the URL of one that was held before, or is new. -/
theorem inherits_act {r : Request} (held : (w.act host a).Holds r) :
    (∃ q, w.Holds q ∧ q.url = r.url) ∨
      ((w.act host a).session.HasUrl r.url ∧ ((w.act host a).session.url r.url).Anonymous) := by
  rcases origin_act held with ⟨q, before, later⟩ | ⟨input, init, _, made⟩
  · exact .inl ⟨q, before, later.url_eq.symm⟩
  · exact .inr (Request.anonymous_of_create made)

end Step

/-! ## Runs -/

/-- What a history says about the requests that it has led to. -/
structure Follows (history : List Action) (w : Workspace) : Prop where
  known : ∀ r, w.Holds r → w.session.HasUrl r.url
  anonymous : ∀ r, w.Holds r → (∀ a ∈ history, ¬ a.Spoils r.url) →
    (w.session.url r.url).Anonymous

theorem Follows.act {history : List Action} {w : Workspace} (f : Follows history w) (host : Host)
    (a : Action) : Follows (history ++ [a]) (w.act host a) := by
  constructor
  · intro r held
    rcases inherits_act held with ⟨q, before, same⟩ | ⟨there, _⟩
    · rw [← same]
      exact hasUrl_act (f.known q before)
    · exact there
  · intro r held unspoiled
    rcases inherits_act held with ⟨q, before, same⟩ | ⟨_, new⟩
    -- A request that is there already has been clean all along; a new one has just been checked.
    · rw [← same] at unspoiled ⊢
      have earlier := f.anonymous q before fun b hb => unspoiled b (List.mem_append_left [a] hb)
      have now := unspoiled a (List.mem_append_right history (List.mem_singleton.mpr rfl))
      exact anonymous_act (f.known q before) now earlier
    · exact new

theorem Reaches.follows {host : Host} {history : List Action} {w : Workspace}
    (run : Reaches host history w) : Follows history w := by
  induction run with
  | start s =>
    constructor
    · intro r held
      cases held
    · intro r held
      cases held
  | act _ a ih => exact ih.act host a
  | elsewhere _ kept ih =>
    constructor
    · intro r held
      exact (kept r.url (ih.known r held)).1
    · intro r held unspoiled
      rw [(kept r.url (ih.known r held)).2]
      exact ih.anonymous r held unspoiled

/-- After every run a request to whose own URL no credentials were written has none, and all that is
    sent of it goes to this URL. What is fetched goes to a URL without credentials in any case. -/
theorem anonymous_until_written {host : Host} {history : List Action} {w : Workspace}
    (run : Reaches host history w) :
    (∀ r, w.Holds r → (∀ a ∈ history, ¬ a.Spoils r.url) →
      (w.session.url r.url).username = "" ∧ (w.session.url r.url).password = "" ∧
      ∃ requests, (r.send host w.session).2.contacts = w.session.contacts ++ requests ∧
        ∀ request ∈ requests, request.url = (w.session.url r.url).href) ∧
    ∀ input init, ∃ requests,
      (WebFetch.fetch host input init w.session).2.contacts = w.session.contacts ++ requests ∧
        ∀ request ∈ requests, ∃ u : Url, u.username = "" ∧ u.password = "" ∧
          request.url = u.href := by
  constructor
  · intro r held unspoiled
    have clean := run.follows.anonymous r held unspoiled
    obtain ⟨requests, sent, own⟩ := r.send_sends host w.session
    exact ⟨clean.username_eq, clean.password_eq, requests, sent.contacts, own⟩
  · intro input init
    obtain ⟨requests, contacted, clean⟩ := anonymous_of_fetch host input init w.session
    refine ⟨requests, contacted, fun request h => ?_⟩
    obtain ⟨u, anonymous, same⟩ := clean request h
    exact ⟨u, anonymous.username_eq, anonymous.password_eq, same⟩

/-- A fragment is written to the URL of a request, which leaves it without credentials. -/
theorem anonymous_until_written_of_fragment :
    let home : Url := ⟨"http", some (.ofHost (.name "h")), false, "/", none, none⟩
    let host : Host := ⟨Utf8.encode, fun _ => [], fun _ _ => ⟨[], []⟩, fun _ => .ok home,
      fun _ _ => .error .aborted⟩
    let history : List Action :=
      [.request (.text "http://h/") .empty, .set ⟨0⟩ .hash "top"]
    let w : Workspace :=
      ⟨⟨#[{ home with fragment := some "top" }], #[], []⟩,
        [.request ⟨⟨"GET", .empty, .empty, .follow, none, none, .unset⟩, ⟨0⟩⟩]⟩
    let r : Request := ⟨⟨"GET", .empty, .empty, .follow, none, none, .unset⟩, ⟨0⟩⟩
    Reaches host history w ∧ w.Holds r ∧ (∀ a ∈ history, ¬ a.Spoils r.url) ∧
      (w.session.url r.url).username = "" ∧
      ∀ request ∈ (r.send host w.session).2.contacts, request.url = "http://h/#top" := by
  intro home host history w r
  have made : Reaches host [.request (.text "http://h/") .empty] _ :=
    (Reaches.start Session.empty).act (.request (.text "http://h/") .empty)
  have run : Reaches host history w := made.act (.set ⟨0⟩ .hash "top")
  have held : w.Holds r := List.mem_singleton.mpr rfl
  have unspoiled : ∀ a ∈ history, ¬ a.Spoils r.url := by
    intro a ha spoils
    rcases List.mem_cons.mp ha with rfl | ha
    · cases spoils
    · cases List.mem_singleton.mp ha
      cases spoils
  obtain ⟨name, _, requests, contacted, own⟩ := (anonymous_until_written run).1 r held unspoiled
  refine ⟨run, held, unspoiled, name, ?_⟩
  intro request h
  rw [contacted] at h
  rw [own request h]
  decide

/-- A username that is written to the URL of a request afterwards is sent along, though the same
    request is refused when it is to be cloned or fetched. -/
theorem credentials_written_later :
    let home : Url := ⟨"http", some (.ofHost (.name "h")), false, "/", none, none⟩
    let host : Host := ⟨Utf8.encode, fun _ => [], fun _ _ => ⟨[], []⟩, fun _ => .ok home,
      fun _ _ => .error .aborted⟩
    let history : List Action :=
      [.request (.text "http://h/") .empty, .set ⟨0⟩ .username "me"]
    let r : Request := ⟨⟨"GET", .empty, .empty, .follow, none, none, .unset⟩, ⟨0⟩⟩
    ∃ w, Reaches host history w ∧ w.Holds r ∧ (w.session.url r.url).username = "me" ∧
      (r.send host w.session).2.contacts.map Outbound.url = ["http://me@h/"] ∧
      r.clone host w.session =
        (.error (.validation (.credentials "http://me@h/")), w.session) ∧
      WebFetch.fetch host (.request r) .empty w.session =
        (.error (.validation (.credentials "http://me@h/")), w.session) := by
  intro home host history r
  let named : Url := ⟨"http", some ⟨"me", "", .name "h", none⟩, false, "/", none, none⟩
  let s : Session := ⟨#[named], #[], []⟩
  have written : home.setUsername "me" = named := by decide
  have shown : named.href = "http://me@h/" := by decide
  have made : Reaches host [.request (.text "http://h/") .empty]
      ⟨⟨#[home], #[], []⟩, [.request r]⟩ :=
    (Reaches.start Session.empty).act (.request (.text "http://h/") .empty)
  have set_run : Workspace.act host ⟨⟨#[home], #[], []⟩, [.request r]⟩ (.set ⟨0⟩ .username "me") =
      ⟨⟨#[home.setUsername "me"], #[], []⟩, [.request r]⟩ := rfl
  have run : Reaches host history ⟨s, [.request r]⟩ := by
    have next := made.act (.set ⟨0⟩ .username "me")
    rw [set_run, written] at next
    exact next
  have refused : Request.create host (.request r) .empty s =
      (.error (.validation (.credentials named.href)), s) :=
    Request.create_of_credentials rfl rfl
  rw [shown] at refused
  refine ⟨_, run, List.mem_singleton.mpr rfl, rfl, ?_, refused, fetch_of_error refused⟩
  rw [(Request.send_of_ok (Request.takeBody_of_empty rfl) host s).2.contacts]
  exact congrArg (fun text => [text]) shown

end Workspace

end WebFetch
