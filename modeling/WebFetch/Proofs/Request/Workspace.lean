import WebFetch.Dispatch
import WebFetch.Proofs.Body.SingleUse
import WebFetch.Proofs.Request.Exchange
import WebFetch.Proofs.SearchParams.View

/-!
What a program does with its URLs, with views of their parameters and with its requests, one action
after the other. An action writes to the one cell that it names, or it leaves all cells alone; a
request that is there afterwards was there before or was made by the action; and what reaches the
host is a request that was held or made then, as it was.
-/

set_option autoImplicit false

namespace WebFetch

def Session.HasSignal (s : Session) (x : Signal) : Prop := x.cell < s.cancelled.size

/-! ## One operation -/

theorem UrlRef.parse_grows (host : Host) (text : String) (base : Option String) (s : Session) :
    s.Grows [] (UrlRef.parse host text base s).2 := by
  unfold UrlRef.parse
  cases host.resolveUrl text base with
  | error e => exact .refl s
  | ok u => exact .addUrl s u

theorem SearchParams.create_grows (host : Host) (init : SearchParamsInit) (s : Session) :
    s.Grows [] (SearchParams.create host init s).2 := by
  unfold SearchParams.create
  cases host.parseUrl SearchParamsInit.scratch with
  | error e => exact .refl s
  | ok base =>
    dsimp only
    cases init.apply base with
    | error e => exact .refl s
    | ok u => exact .addUrl s u

/-- Nothing is fetched but the request that was made for it. -/
theorem fetch_grows (host : Host) (input : RequestInput) (init : RequestInit) (s : Session) :
    ∃ requests, s.Grows requests (fetch host input init s).2 ∧
      ∀ request ∈ requests, ∃ r s', Request.create host input init s = (.ok r, s') ∧
        r.Shows s' request := by
  have grown := Request.create_grows host input init s
  rcases made : Request.create host input init s with ⟨result, s'⟩
  rw [made] at grown
  cases result with
  | error e =>
    rw [fetch_of_error made]
    exact ⟨[], grown, fun _ h => absurd h List.not_mem_nil⟩
  | ok r =>
    obtain ⟨requests, sent, shown⟩ := r.send_shows host s'
    rw [fetch_run made]
    exact ⟨requests, grown.trans (.of_sends sent), fun request h => ⟨r, s', rfl, shown request h⟩⟩

/-- A request comes of an action on a message only as a clone, which is made like any request. -/
theorem Message.create_of_copy {host : Host} {m : Message} {a : Message.Action} {s : Session}
    {r : Request} (made : (m.act host a s).1.1.copy? = some (.request r)) :
    a = .clone ∧ ∃ q, m = .request q ∧
      Request.create host (.request q) .empty s = (.ok r, (m.act host a s).2) := by
  have cloned := act_of_copy made
  subst cloned
  cases m with
  | response q =>
    change Answer.copy? (.clone (q.clone.map .response)) = some (.request r) at made
    cases hc : q.clone with
    | error e =>
      rw [hc] at made
      cases made
    | ok copy =>
      rw [hc] at made
      cases made
  | request q =>
    change Answer.copy? (.clone ((q.clone host s).1.map .request)) = some (.request r) at made
    refine ⟨rfl, q, rfl, ?_⟩
    change q.clone host s = (.ok r, (q.clone host s).2)
    rcases hc : q.clone host s with ⟨result, s'⟩
    rw [hc] at made
    cases result with
    | error e => cases made
    | ok copy =>
      cases made
      rfl

/-- A request later on, after reads and after edits of its headers and of its policy. -/
structure Request.Continues (q r : Request) : Prop where
  method_eq : r.method = q.method
  payload_eq : r.body.payload = q.body.payload
  signal_eq : r.signal = q.signal
  referrer_eq : r.referrer = q.referrer
  url_eq : r.url = q.url

theorem Request.Continues.refl (r : Request) : r.Continues r := ⟨rfl, rfl, rfl, rfl, rfl⟩

/-! ## What a program does -/

/-- The cells of a program and the messages that it holds. -/
structure Workspace where
  session : Session
  messages : List Message

namespace Workspace

/-- What a program can do with its URLs, with views of their parameters and with its requests, the
    last of them named by their places. -/
inductive Action where
  | parse (text : String) (base : Option String)
  | duplicate (u : UrlRef)
  | set (u : UrlRef) (c : Component) (value : String)
  | setHref (u : UrlRef) (text : String)
  | edit (p : SearchParams) (e : Entries.Edit)
  | params (init : SearchParamsInit)
  | request (input : RequestInput) (init : RequestInit)
  | receive (raw : RawRequest)
  | message (i : Nat) (a : Message.Action)
  | headers (i : Nat) (change : Headers → Headers)
  | policy (i : Nat) (text : String)
  | fetch (input : RequestInput) (init : RequestInit)

def Holds (w : Workspace) (r : Request) : Prop := Message.request r ∈ w.messages

def revise (w : Workspace) (i : Nat) (change : Request → Request) : Workspace :=
  match w.messages[i]? with
  | some (.request r) => { w with messages := w.messages.set i (.request (change r)) }
  | _ => w

def add (w : Workspace) (made : Except FetchError Request × Session) : Workspace :=
  match made with
  | (.ok r, s) => ⟨s, w.messages ++ [.request r]⟩
  | (.error _, s) => { w with session := s }

def act (host : Host) (w : Workspace) : Action → Workspace
  | .parse text base => { w with session := (UrlRef.parse host text base w.session).2 }
  | .duplicate u => { w with session := (u.duplicate w.session).2 }
  | .set u c value => { w with session := (u.set c value w.session).2 }
  | .setHref u text => { w with session := (u.setHref text w.session).2 }
  | .edit p e => { w with session := (p.edit e w.session).2 }
  | .params init => { w with session := (SearchParams.create host init w.session).2 }
  | .request input init => w.add (Request.create host input init w.session)
  | .receive raw => w.add (Request.create host (.text raw.url) raw.init w.session)
  | .message i a =>
    match w.messages[i]? with
    | none => w
    | some m =>
      let (outcome, s) := m.act host a w.session
      ⟨s, Message.after w.messages i outcome⟩
  | .headers i change => w.revise i fun r => r.mapHeaders change
  | .policy i text => w.revise i fun r => (r.setReferrerPolicy text).toOption.getD r
  | .fetch input init => { w with session := (WebFetch.fetch host input init w.session).2 }

/-! ## What an action has to do with -/

/-- The cell that an action writes to. -/
inductive Action.Writes (u : UrlRef) : Action → Prop where
  | set (c : Component) (value : String) : Writes u (.set u c value)
  | setHref (text : String) : Writes u (.setHref u text)
  | edit {p : SearchParams} (view : p.url = u) (e : Entries.Edit) : Writes u (.edit p e)

/-- The message that an action is about. -/
inductive Action.Handles (i : Nat) : Action → Prop where
  | message (a : Message.Action) : Handles i (.message i a)
  | headers (change : Headers → Headers) : Handles i (.headers i change)
  | policy (text : String) : Handles i (.policy i text)

/-- What an action makes a request of. -/
inductive Action.Makes (w : Workspace) : Action → RequestInput → RequestInit → Prop where
  | request (input : RequestInput) (init : RequestInit) : Makes w (.request input init) input init
  | receive (raw : RawRequest) : Makes w (.receive raw) (.text raw.url) raw.init
  | fetch (input : RequestInput) (init : RequestInit) : Makes w (.fetch input init) input init
  | clone {i : Nat} {r : Request} (found : w.messages[i]? = some (.request r)) :
      Makes w (.message i .clone) (.request r) .empty

/-- What an action lets reach the host is a request that is held or that it has made itself. -/
def Delivers (host : Host) (w : Workspace) (a : Action) (request : Outbound) : Prop :=
  ∃ r s, r.Shows s request ∧ (w.Holds r ∨ ∃ input init, a.Makes w input init ∧
    Request.create host input init w.session = (.ok r, s))

section Step

variable {host : Host} {w : Workspace} {a : Action}

theorem session_add (w : Workspace) (made : Except FetchError Request × Session) :
    (w.add made).session = made.2 := by
  obtain ⟨result, s⟩ := made
  cases result with
  | error e => rfl
  | ok r => rfl

theorem session_revise (w : Workspace) (i : Nat) (change : Request → Request) :
    (w.revise i change).session = w.session := by
  unfold revise
  split
  · rfl
  · rfl

theorem act_message_of_none {i : Nat} (h : w.messages[i]? = none) (host : Host)
    (a : Message.Action) : w.act host (.message i a) = w := by
  simp only [act, h]

theorem act_message_of_found {i : Nat} {m : Message} (found : w.messages[i]? = some m)
    (host : Host) (a : Message.Action) :
    w.act host (.message i a) =
      ⟨(m.act host a w.session).2, Message.after w.messages i (m.act host a w.session).1⟩ := by
  simp only [act, found]
  rfl

/-! ### Cells -/

theorem message_grows (host : Host) (w : Workspace) (i : Nat) (a : Message.Action) :
    ∃ requests, w.session.Grows requests (w.act host (.message i a)).session ∧
      ∀ request ∈ requests, w.Delivers host (.message i a) request := by
  cases found : w.messages[i]? with
  | none =>
    rw [act_message_of_none found]
    exact ⟨[], .refl w.session, fun _ h => absurd h List.not_mem_nil⟩
  | some m =>
    rw [act_message_of_found found]
    obtain ⟨requests, grown, silent⟩ := @Message.act_grows m host w.session a
    by_cases sending : a = .send
    · subst sending
      cases m with
      | response r => exact ⟨[], .refl w.session, fun _ h => absurd h List.not_mem_nil⟩
      | request r =>
        obtain ⟨sent, contacted, shown⟩ := r.send_shows host w.session
        refine ⟨sent, .of_sends contacted, fun request h => ?_⟩
        exact ⟨r, w.session, shown request h, .inl (List.mem_of_getElem? found)⟩
    · refine ⟨requests, grown, fun request h => ?_⟩
      rw [silent sending] at h
      exact absurd h List.not_mem_nil

theorem add_grows (host : Host) (w : Workspace) (input : RequestInput) (init : RequestInit) :
    w.session.Grows [] (w.add (Request.create host input init w.session)).session := by
  rw [session_add]
  exact Request.create_grows host input init w.session

/-- An action writes to one cell, or cells are only added and some requests reach the host. -/
theorem session_act (host : Host) (w : Workspace) (a : Action) :
    (∃ requests, w.session.Grows requests (w.act host a).session ∧
      ∀ request ∈ requests, w.Delivers host a request) ∨
    ∃ u v, a.Writes u ∧ (w.act host a).session = w.session.setUrl u v := by
  have quiet (h : w.session.Grows [] (w.act host a).session) :
      ∃ requests, w.session.Grows requests (w.act host a).session ∧
        ∀ request ∈ requests, w.Delivers host a request :=
    ⟨[], h, fun _ h => absurd h List.not_mem_nil⟩
  cases a with
  | parse text base => exact .inl (quiet (UrlRef.parse_grows host text base w.session))
  | duplicate u => exact .inl (quiet (.addUrl w.session _))
  | set u c value => exact .inr ⟨u, _, .set c value, rfl⟩
  | setHref u text =>
    -- A text that is no URL leaves the cell as it is.
    cases parsed : Url.parse text with
    | error e =>
      refine .inl (quiet ?_)
      change w.session.Grows [] (u.setHref text w.session).2
      unfold UrlRef.setHref
      rw [parsed]
      exact .refl w.session
    | ok v =>
      refine .inr ⟨u, v, .setHref text, ?_⟩
      change (u.setHref text w.session).2 = w.session.setUrl u v
      unfold UrlRef.setHref
      rw [parsed]
      rfl
  | edit p e =>
    exact .inr ⟨p.url, _, .edit rfl e, congrArg Prod.snd (SearchParams.edit_run p e w.session)⟩
  | params init => exact .inl (quiet (SearchParams.create_grows host init w.session))
  | request input init => exact .inl (quiet (add_grows host w input init))
  | receive raw => exact .inl (quiet (add_grows host w (.text raw.url) raw.init))
  | message i a => exact .inl (message_grows host w i a)
  | headers i change =>
    refine .inl (quiet ?_)
    change w.session.Grows [] (w.revise i _).session
    rw [session_revise]
    exact .refl w.session
  | policy i text =>
    refine .inl (quiet ?_)
    change w.session.Grows [] (w.revise i _).session
    rw [session_revise]
    exact .refl w.session
  | fetch input init =>
    obtain ⟨requests, grown, shown⟩ := fetch_grows host input init w.session
    refine .inl ⟨requests, grown, fun request h => ?_⟩
    obtain ⟨r, s, made, shows_⟩ := shown request h
    exact ⟨r, s, shows_, .inr ⟨input, init, .fetch input init, made⟩⟩

theorem hasUrl_act {u : UrlRef} (known : w.session.HasUrl u) :
    (w.act host a).session.HasUrl u := by
  rcases session_act host w a with ⟨_, grown, _⟩ | ⟨x, v, _, written⟩
  · exact (grown.keeps u known).1
  · rw [written]
    exact (Session.hasUrl_setUrl w.session x u v).mpr known

theorem url_act {u : UrlRef} (known : w.session.HasUrl u) (unwritten : ¬ a.Writes u) :
    (w.act host a).session.url u = w.session.url u := by
  rcases session_act host w a with ⟨_, grown, _⟩ | ⟨x, v, writes, written⟩
  · exact (grown.keeps u known).2
  · have other : u ≠ x := by
      rintro rfl
      exact unwritten writes
    rw [written]
    exact Session.url_setUrl_of_ne w.session other v

/-! ### Messages -/

theorem messages_add (w : Workspace) (made : Except FetchError Request × Session) :
    (w.add made).messages = w.messages ++ (made.1.toOption.map Message.request).toList := by
  obtain ⟨result, s⟩ := made
  cases result with
  | error e => exact (List.append_nil _).symm
  | ok r => rfl

theorem message_revise {i k : Nat} {m : Message} (found : w.messages[k]? = some m) (other : i ≠ k)
    (change : Request → Request) : (w.revise i change).messages[k]? = some m := by
  unfold revise
  split
  · rw [List.getElem?_set_ne other]
    exact found
  · exact found

/-- A message that an action is not about stays as it is and where it is. -/
theorem message_act {k : Nat} {m : Message} (found : w.messages[k]? = some m)
    (untouched : ¬ a.Handles k) : (w.act host a).messages[k]? = some m := by
  have present := Message.lt_length_of_found found
  cases a with
  | parse | duplicate | set | setHref | edit | params | fetch => exact found
  | request input init =>
    change (w.add _).messages[k]? = some m
    rw [messages_add, List.getElem?_append_left present]
    exact found
  | receive raw =>
    change (w.add _).messages[k]? = some m
    rw [messages_add, List.getElem?_append_left present]
    exact found
  | message i a =>
    have other : k ≠ i := by
      rintro rfl
      exact untouched (.message a)
    cases there : w.messages[i]? with
    | none =>
      rw [act_message_of_none there]
      exact found
    | some _ =>
      rw [act_message_of_found there]
      exact (Message.getElem?_after_of_ne other present).trans found
  | headers i change =>
    refine message_revise found (fun same => ?_) _
    subst same
    exact untouched (.headers change)
  | policy i text =>
    refine message_revise found (fun same => ?_) _
    subst same
    exact untouched (.policy text)

/-- Where a request comes from that is held after an action: it was held before, or the action has
    made it. -/
def Origin (host : Host) (w : Workspace) (a : Action) (r : Request) : Prop :=
  (∃ q, w.Holds q ∧ q.Continues r) ∨ ∃ input init, a.Makes w input init ∧
    Request.create host input init w.session = (.ok r, (w.act host a).session)

theorem origin_of_held {r : Request} (held : w.Holds r) : w.Origin host a r :=
  .inl ⟨r, held, .refl r⟩

theorem origin_add {r : Request} {input : RequestInput} {init : RequestInit}
    (makes : a.Makes w input init)
    (run : w.act host a = w.add (Request.create host input init w.session))
    (held : (w.act host a).Holds r) : w.Origin host a r := by
  rcases made : Request.create host input init w.session with ⟨result, s⟩
  rw [made] at run
  cases result with
  | error e =>
    rw [run] at held
    exact origin_of_held held
  | ok q =>
    have there : r ∈ [q] ∨ w.Holds r := by
      rw [run] at held
      rcases List.mem_append.mp held with old | new
      · exact .inr old
      · cases List.mem_singleton.mp new
        exact .inl List.mem_cons_self
    rcases there with new | old
    · cases List.mem_singleton.mp new
      refine .inr ⟨input, init, makes, ?_⟩
      rw [made, run]
      rfl
    · exact origin_of_held old

theorem origin_revise {r : Request} {i : Nat} (change : Request → Request)
    (continues : ∀ q : Request, q.Continues (change q)) (run : w.act host a = w.revise i change)
    (held : (w.act host a).Holds r) : w.Origin host a r := by
  rw [run] at held
  unfold revise at held
  split at held
  · next q found =>
    rcases List.mem_or_eq_of_mem_set held with old | changed
    · exact origin_of_held old
    · cases changed
      exact .inl ⟨q, List.mem_of_getElem? found, continues q⟩
  · exact origin_of_held held

theorem origin_message {r : Request} {i : Nat} {a : Message.Action}
    (held : (w.act host (.message i a)).Holds r) : w.Origin host (.message i a) r := by
  cases found : w.messages[i]? with
  | none =>
    rw [act_message_of_none found] at held
    exact origin_of_held held
  | some m =>
    rw [act_message_of_found found] at held
    rcases List.mem_append.mp held with kept | copied
    · rcases List.mem_or_eq_of_mem_set kept with old | own
      · exact origin_of_held old
      · rw [Message.act_message] at own
        cases m with
        | response q => cases own
        | request q =>
          cases own
          exact .inl ⟨q, List.mem_of_getElem? found, rfl, rfl, rfl, rfl, rfl⟩
    · obtain ⟨rfl, q, rfl, made⟩ := Message.create_of_copy (Option.mem_toList.mp copied)
      refine .inr ⟨.request q, .empty, .clone found, ?_⟩
      rw [made, act_message_of_found found]

theorem origin_act {r : Request} (held : (w.act host a).Holds r) : w.Origin host a r := by
  cases a with
  | parse | duplicate | set | setHref | edit | params | fetch => exact origin_of_held held
  | request input init => exact origin_add (.request input init) rfl held
  | receive raw => exact origin_add (.receive raw) rfl held
  | message i a => exact origin_message held
  | headers i change =>
    exact origin_revise (fun q => q.mapHeaders change) (fun _ => ⟨rfl, rfl, rfl, rfl, rfl⟩) rfl held
  | policy i text =>
    let revised (q : Request) : Request := (q.setReferrerPolicy text).toOption.getD q
    refine origin_revise revised (fun q => ?_) rfl held
    change q.Continues ((q.setReferrerPolicy text).toOption.getD q)
    unfold Request.setReferrerPolicy
    cases ReferrerPolicy.parse text with
    | error e => exact .refl q
    | ok policy => exact ⟨rfl, rfl, rfl, rfl, rfl⟩

end Step

/-! ## Runs -/

/-- What happens next. Every action may go to a host of its own. -/
inductive Move where
  | act (host : Host) (a : Action)
  | newSignal
  | cancel (signal : Signal)

def move (w : Workspace) : Move → Workspace
  | .act host a => w.act host a
  | .newSignal => { w with session := (Signal.create w.session).2 }
  | .cancel signal => { w with session := (signal.cancel w.session).2 }

/-- Requests are made of such requests only as are held, with signals that there are. -/
def Move.Owned (w : Workspace) : Move → Prop
  | .act _ a => ∀ input init, a.Makes w input init →
      (∀ r, input.source? = some r → w.Holds r) ∧
        ∀ x, init.signal = some x → w.session.HasSignal x
  | .newSignal => True
  | .cancel _ => True

theorem Move.owned_request (w : Workspace) (host : Host) {input : RequestInput}
    {init : RequestInit} (unsourced : input.source? = none) (unsignalled : init.signal = none) :
    (Move.act host (.request input init)).Owned w := by
  intro input init makes
  cases makes with
  | request =>
    rw [unsourced, unsignalled]
    constructor
    · intro q from_
      cases from_
    · intro x given
      cases given

theorem Move.owned_clone (w : Workspace) (host : Host) (i : Nat) :
    (Move.act host (.message i .clone)).Owned w := by
  intro input init makes
  cases makes with
  | clone found =>
    constructor
    · intro q from_
      cases from_
      exact List.mem_of_getElem? found
    · intro x given
      cases given

/-- A workspace that comes about, from a session in which no request was made yet. -/
inductive Arises (start : Session) : Workspace → Prop where
  | start : Arises start ⟨start, []⟩
  | move {w : Workspace} (before : Arises start w) {m : Move} (owned : m.Owned w) :
      Arises start (w.move m)

theorem cancelled_act (host : Host) (w : Workspace) (a : Action) :
    (w.act host a).session.cancelled = w.session.cancelled := by
  rcases session_act host w a with ⟨_, grown, _⟩ | ⟨u, v, _, written⟩
  · exact grown.cancelled_eq
  · rw [written]
    rfl

end Workspace

end WebFetch
