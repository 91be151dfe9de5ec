import WebFetch.Proofs.Body.Reading
import WebFetch.Proofs.ContentType
import WebFetch.Proofs.Referrer

/-!
Chains of requests, each made of the one before it and of the fields that are given for it. The main
statement says what the last request of a chain is: it points where the first one did, each of its
fields is the last one that was given along the chain, and a text body that was given since the
headers were leaves them its type, even if another body has taken its place.
-/

set_option autoImplicit false

namespace WebFetch

namespace Headers

/-- What a text body makes of the headers that it meets. -/
def typed (h : Headers) : Headers := h.setDefault contentType textContentType

theorem typed_of_has {h : Headers} (there : h.has contentType = true) : h.typed = h :=
  setDefault_of_has there textContentType

theorem entries_typed {h : Headers} (absent : h.has contentType = false) :
    h.typed.entries = h.entries ++ [(contentType, textContentType)] := by
  have stored : lower contentType = contentType := by decide
  rw [typed, entries_setDefault absent, stored]

theorem has_typed (h : Headers) : h.typed.has contentType = true :=
  has_setDefault h contentType textContentType

theorem typed_typed (h : Headers) : h.typed.typed = h.typed := typed_of_has h.has_typed

/-- A text body leaves its type as one more entry, unless there is one. -/
theorem eq_typed_iff {h out : Headers} {text : Bool} :
    out = (if text then h.typed else h) ↔
      out.entries =
        if h.has contentType = false ∧ text = true then
          h.entries ++ [(contentType, textContentType)]
        else h.entries := by
  have ext : out = (if text then h.typed else h) ↔
      out.entries = (if text then h.typed else h).entries := by
    refine ⟨congrArg entries, fun same => ?_⟩
    cases out
    exact congrArg mk same
  rw [ext]
  cases text with
  | false => simp
  | true =>
    cases there : h.has contentType with
    | true => simp [typed_of_has there]
    | false => simp [entries_typed there]

end Headers

/-! ## The fields that are given along a chain -/

def RequestInit.givesText (init : RequestInit) : Bool := init.body.any BodyInit.isText

/-- The last of the values that are given for a field. -/
def lastGiven {α : Type} (field : RequestInit → Option α) (inits : List RequestInit) : Option α :=
  (inits.filterMap field).getLast?

theorem lastGiven_concat {α : Type} (field : RequestInit → Option α) (inits : List RequestInit)
    (init : RequestInit) :
    lastGiven field (inits ++ [init]) = (field init).or (lastGiven field inits) := by
  rw [lastGiven, List.filterMap_append, List.getLast?_append]
  cases given : field init with
  | none => simp [given, lastGiven]
  | some value => simp [given]

/-- The headers that were given last, and the inits since then: the one that gave them and all later
    ones. Where none gave any, the list is empty, and all inits count. -/
inductive GivesHeaders : List RequestInit → Headers → List RequestInit → Prop where
  | given {init : RequestInit} {h : Headers} (here : init.headers = some h)
      {later : List RequestInit} (silent : ∀ i ∈ later, i.headers = none)
      (before : List RequestInit) : GivesHeaders (before ++ init :: later) h (init :: later)
  | absent {inits : List RequestInit} (silent : ∀ i ∈ inits, i.headers = none) :
      GivesHeaders inits .empty inits

theorem GivesHeaders.concat {inits since : List RequestInit} {h : Headers}
    (gives : GivesHeaders inits h since) {init : RequestInit} (silent : init.headers = none) :
    GivesHeaders (inits ++ [init]) h (since ++ [init]) := by
  have all {front : List RequestInit} (quiet : ∀ i ∈ front, i.headers = none) :
      ∀ i ∈ front ++ [init], i.headers = none := by
    intro i there
    rcases List.mem_append.mp there with there | there
    · exact quiet i there
    · rw [List.mem_singleton.mp there, silent]
  cases gives with
  | given here quiet before =>
    rw [List.append_assoc]
    exact .given here (all quiet) before
  | absent quiet => exact .absent (all quiet)

/-! ## What the fields are made of -/

/-- How a payload is made of what is given for a body. Without anything given it is empty. -/
inductive Payload.MadeOf (encode : String → Bytes) : Option BodyInit → Payload → Prop where
  | nothing : MadeOf encode none .empty
  | bytes (content : Bytes) : MadeOf encode (some (.bytes content)) (.bytes content)
  | text (text : String) : MadeOf encode (some (.text text)) (.bytes (encode text))
  | failed (cause : HostError) : MadeOf encode (some (.failed cause)) (.failed cause)

theorem Body.madeOf_ofInit (host : Host) (given : Option BodyInit) :
    Payload.MadeOf host.encode given (ofInit host given).payload := by
  cases given with
  | none => exact .nothing
  | some init =>
    cases init with
    | bytes content => exact .bytes content
    | text text => exact .text text
    | failed cause => exact .failed cause

theorem Body.unread_ofInit (host : Host) (given : Option BodyInit) :
    (ofInit host given).used = false := by
  cases given with
  | none => rfl
  | some init => cases init <;> rfl

theorem ReferrerPolicy.name_of_parse {text : String} {policy : ReferrerPolicy}
    (parsed : parse text = .ok policy) : policy.name = text := by
  unfold parse at parsed
  cases found : all.find? fun policy => policy.name == text with
  | none =>
    rw [found] at parsed
    cases parsed
  | some named =>
    rw [found] at parsed
    cases parsed
    simpa using List.find?_some found

namespace RequestFields

/-- The fields are the last ones that were given, and what stands for them where none was. -/
structure Collects (host : Host) (inits : List RequestInit) (fields : RequestFields) : Prop where
  method_eq : fields.method =
    ((lastGiven RequestInit.method inits).map normalizeMethod).getD "GET"
  payload_made : Payload.MadeOf host.encode (lastGiven RequestInit.body inits) fields.body.payload
  unread : fields.body.used = false
  redirect_eq : fields.redirect = (lastGiven RequestInit.redirect inits).getD .follow
  signal_eq : fields.signal = lastGiven RequestInit.signal inits
  referrer_eq : ∀ text, lastGiven RequestInit.referrer inits = some text →
    ∃ referrer, Referrer.Means host.parseUrl text referrer ∧ fields.referrer = some referrer
  no_referrer : lastGiven RequestInit.referrer inits = none → fields.referrer = none
  policy_name : ∀ text, lastGiven RequestInit.referrerPolicy inits = some text →
    fields.referrerPolicy.name = text
  no_policy : lastGiven RequestInit.referrerPolicy inits = none → fields.referrerPolicy = .unset
  headers_eq : ∃ h since, GivesHeaders inits h since ∧
    fields.headers.entries =
      if h.has contentType = false ∧ ∃ i ∈ since, i.givesText = true then
        h.entries ++ [(contentType, textContentType)]
      else h.entries

/-- A request of which nothing was given. -/
def blank : RequestFields := ⟨"GET", .empty, .empty, .follow, none, none, .unset⟩

theorem collects_blank (host : Host) : Collects host [] blank where
  method_eq := rfl
  payload_made := .nothing
  unread := rfl
  redirect_eq := rfl
  signal_eq := rfl
  referrer_eq := fun _ given => by cases given
  no_referrer := fun _ => rfl
  policy_name := fun _ given => by cases given
  no_policy := fun _ => rfl
  headers_eq := ⟨.empty, [], .absent (fun _ there => by cases there), rfl⟩

theorem headers_collected {fields : RequestFields} {h : Headers} {since : List RequestInit} :
    fields.headers = (if since.any RequestInit.givesText then h.typed else h) ↔
      fields.headers.entries =
        if h.has contentType = false ∧ ∃ i ∈ since, i.givesText = true then
          h.entries ++ [(contentType, textContentType)]
        else h.entries := by
  rw [Headers.eq_typed_iff]
  simp only [List.any_eq_true]

/-- Making a request of no other one is making it of the blank one. -/
theorem Resolves.of_blank {host : Host} {url : Url} {init : RequestInit} {fields : RequestFields}
    (resolved : Resolves host url none init fields) :
    Resolves host url (some blank) init fields := by
  obtain ⟨method, headers, body, redirect, signal, referrer, policy⟩ := init
  cases method <;> cases body <;>
    exact ⟨resolved.anonymous, resolved.allowed, resolved.method_eq, resolved.body_eq,
      resolved.headers_eq, resolved.redirect_eq, resolved.signal_eq, resolved.referrer_eq,
      resolved.policy_eq⟩

theorem headers_of_resolved {host : Host} {url : Url} {source fields : RequestFields}
    {init : RequestInit} (resolved : Resolves host url (some source) init fields) :
    fields.headers =
      if init.givesText then (init.headers.getD source.headers).typed
      else init.headers.getD source.headers :=
  resolved.headers_eq

theorem resolveReferrer_of_given {host : Host} {source : Option RequestFields} {init : RequestInit}
    {text : String} (given : init.referrer = some text) {resolved : Option Referrer}
    (h : resolveReferrer host source init = .ok resolved) :
    ∃ referrer, Referrer.Means host.parseUrl text referrer ∧ resolved = some referrer := by
  rw [resolveReferrer, given] at h
  dsimp only at h
  cases parsed : Referrer.parse host text with
  | error e =>
    rw [parsed] at h
    cases h
  | ok referrer =>
    rw [parsed] at h
    exact ⟨referrer, Referrer.means_of_parse parsed, (Except.ok.inj h).symm⟩

theorem resolveBody_of_given {host : Host} {source : Option RequestFields} {init : RequestInit}
    {given : BodyInit} (here : init.body = some given) {resolved : Body}
    (h : resolveBody host source init = .ok resolved) :
    Payload.MadeOf host.encode (some given) resolved.payload ∧ resolved.used = false := by
  unfold resolveBody at h
  rw [here] at h
  cases h
  exact ⟨Body.madeOf_ofInit host (some given), Body.unread_ofInit host (some given)⟩

/-- A body is inherited only if it is unread, and then it begins unread again. -/
theorem resolveBody_of_silent {host : Host} {source : RequestFields} {init : RequestInit}
    (silent : init.body = none) {resolved : Body}
    (h : resolveBody host (some source) init = .ok resolved) :
    resolved = ⟨source.body.payload, false⟩ := by
  unfold resolveBody at h
  rw [silent] at h
  exact (Body.copy_eq_ok_iff.mp h).2

/-- One link of a chain: what is given takes the place of what the source has collected. -/
theorem Collects.concat {host : Host} {inits : List RequestInit} {source fields : RequestFields}
    (collects : Collects host inits source) {url : Url} {init : RequestInit}
    (resolved : Resolves host url (some source) init fields) :
    Collects host (inits ++ [init]) fields where
  method_eq := by
    rw [resolved.method_eq, lastGiven_concat]
    unfold resolveMethod
    cases init.method with
    | some method => rw [Option.some_or, Option.map_some, Option.getD_some]
    | none => rw [Option.none_or, ← collects.method_eq]
  payload_made := by
    rw [lastGiven_concat]
    cases given : init.body with
    | some payload => exact (resolveBody_of_given given resolved.body_eq).1
    | none =>
      rw [resolveBody_of_silent given resolved.body_eq, Option.none_or]
      exact collects.payload_made
  unread := by
    cases given : init.body with
    | some payload => exact (resolveBody_of_given given resolved.body_eq).2
    | none => rw [resolveBody_of_silent given resolved.body_eq]
  redirect_eq := by
    rw [resolved.redirect_eq, lastGiven_concat]
    cases init.redirect with
    | some mode => rfl
    | none => rw [Option.none_or, ← collects.redirect_eq, Option.map_some, Option.getD_none,
        Option.getD_some]
  signal_eq := by
    rw [resolved.signal_eq, lastGiven_concat, ← collects.signal_eq]
    rfl
  referrer_eq := by
    intro text last
    have referrer := resolved.referrer_eq
    rw [lastGiven_concat] at last
    cases given : init.referrer with
    | some own =>
      rw [given] at last
      cases last
      exact resolveReferrer_of_given given referrer
    | none =>
      rw [given] at last
      rw [resolveReferrer, given] at referrer
      obtain ⟨x, means, inherited⟩ := collects.referrer_eq text last
      exact ⟨x, means, (Except.ok.inj referrer).symm.trans inherited⟩
  no_referrer := by
    intro silent
    have referrer := resolved.referrer_eq
    rw [lastGiven_concat, Option.or_eq_none_iff] at silent
    rw [resolveReferrer, silent.1] at referrer
    exact (Except.ok.inj referrer).symm.trans (collects.no_referrer silent.2)
  policy_name := by
    intro text last
    have policy := resolved.policy_eq
    rw [lastGiven_concat] at last
    cases given : init.referrerPolicy with
    | some own =>
      rw [given] at last
      cases last
      rw [resolveReferrerPolicy, given] at policy
      exact ReferrerPolicy.name_of_parse policy
    | none =>
      rw [given] at last
      rw [resolveReferrerPolicy, given] at policy
      rw [← Except.ok.inj policy]
      exact collects.policy_name text last
  no_policy := by
    intro silent
    have policy := resolved.policy_eq
    rw [lastGiven_concat, Option.or_eq_none_iff] at silent
    rw [resolveReferrerPolicy, silent.1] at policy
    exact (Except.ok.inj policy).symm.trans (collects.no_policy silent.2)
  headers_eq := by
    have headers := headers_of_resolved resolved
    cases given : init.headers with
    | some own =>
      rw [given] at headers
      refine ⟨own, [init], .given given (fun _ there => by cases there) inits, ?_⟩
      rw [← headers_collected, headers]
      simp
    | none =>
      obtain ⟨h, since, gives, inherited⟩ := collects.headers_eq
      refine ⟨h, since ++ [init], gives.concat given, ?_⟩
      rw [← headers_collected] at inherited ⊢
      rw [given, Option.getD_none] at headers
      rw [headers, inherited, List.any_append, List.any_cons, List.any_nil, Bool.or_false]
      -- The type that an earlier text body has left is not set a second time.
      cases since.any RequestInit.givesText with
      | true =>
        cases init.givesText with
        | true => exact h.typed_typed
        | false => rfl
      | false =>
        cases init.givesText with
        | true => rfl
        | false => rfl

end RequestFields

/-! ## Chains -/

namespace Request

/-- Requests made one of the other, `first` among the fields of all. Between two links anything may
    happen that leaves the URL of the last one as it is. -/
inductive Chain (host : Host) (first : Request) (begun : Session) :
    List RequestInit → Request → Session → Prop where
  | start : Chain host first begun [] first begun
  | link {inits : List RequestInit} {r : Request} {s : Session}
      (chain : Chain host first begun inits r s) {later : Session}
      (unchanged : later.url r.url = s.url r.url) {init : RequestInit} {next : Request}
      {after : Session} (made : create host (.request r) init later = (.ok next, after)) :
      Chain host first begun (inits ++ [init]) next after

theorem url_of_create {host : Host} {r next : Request} {init : RequestInit} {s after : Session}
    (made : create host (.request r) init s = (.ok next, after)) :
    after.url next.url = s.url r.url := by
  obtain ⟨url, target, _, new, rfl⟩ := resolves_of_create made
  rw [new, Session.url_addUrl_nextUrl]
  exact (Except.ok.inj target).symm

theorem collects_of_create {host : Host} {input : RequestInput} (unsourced : input.source? = none)
    {init : RequestInit} {s s' : Session} {r : Request}
    (made : create host input init s = (.ok r, s')) :
    RequestFields.Collects host [init] r.toRequestFields := by
  obtain ⟨url, _, resolved, _, _⟩ := resolves_of_create made
  have none_ : sourceFields input = none := by rw [sourceFields, unsourced, Option.map_none]
  rw [none_] at resolved
  exact (RequestFields.collects_blank host).concat resolved.of_blank

theorem Chain.collects {host : Host} {first r : Request} {begun s : Session}
    {inits : List RequestInit} (chain : Chain host first begun inits r s) {init : RequestInit}
    (collects : RequestFields.Collects host [init] first.toRequestFields) :
    s.url r.url = begun.url first.url ∧
      RequestFields.Collects host (init :: inits) r.toRequestFields := by
  induction chain with
  | start => exact ⟨rfl, collects⟩
  | link chain unchanged made ih =>
    obtain ⟨_, _, resolved, _, _⟩ := resolves_of_create made
    refine ⟨?_, ih.2.concat resolved⟩
    rw [url_of_create made, unchanged, ih.1]

/-- However long a chain of requests is, and whichever fields are given for each of them, the last
    one has the URL of the first. Its method, body, redirect mode, signal, referrer and referrer
    policy are the last ones that were given, or what stands for each where none was. Its entries
    are those of the headers that were given last, and behind them the type of a text, if it is not
    among them and a text body was given together with them or later. -/
theorem fields_of_last_given {host : Host} {input : RequestInput} (unsourced : input.source? = none)
    {init : RequestInit} {s begun : Session} {first : Request}
    (made : create host input init s = (.ok first, begun)) {inits : List RequestInit}
    {last : Request} {ended : Session} (chain : Chain host first begun inits last ended) :
    input.target host s = .ok (ended.url last.url) ∧
      (ended.url last.url).href = (begun.url first.url).href ∧
      last.Collects host (init :: inits) := by
  obtain ⟨same, collects⟩ := chain.collects (collects_of_create unsourced made)
  obtain ⟨url, target, _, new, stored⟩ := resolves_of_create made
  have held : begun.url first.url = url := by
    rw [stored, new, Session.url_addUrl_nextUrl]
  exact ⟨by rw [same, held, target], by rw [same], collects⟩

/-- Headers are given between two text bodies, and bytes take the place of the second one. The type
    that it has left stays, in the headers that were there when it came. -/
theorem fields_of_last_given_of_bytes :
    let home : Url := ⟨"http", some (.ofHost (.name "h")), false, "/", none, none⟩
    let host : Host := ⟨Utf8.encode, fun _ => [], fun _ _ => ⟨[], []⟩, fun _ => .ok home,
      fun _ _ => .error .aborted⟩
    let init : RequestInit :=
      { RequestInit.empty with method := some "put", body := some (.text "a"), referrer := some "" }
    let inits : List RequestInit :=
      [{ RequestInit.empty with headers := some ⟨[("x", "1")]⟩, referrerPolicy := some "origin" },
        { RequestInit.empty with method := some "PaTcH", body := some (.text "b") },
        { RequestInit.empty with body := some (.bytes [7]) }]
    let first : Request := ⟨⟨"PUT", ⟨.bytes [97], false⟩, ⟨[(contentType, textContentType)]⟩,
      .follow, none, some .noReferrer, .unset⟩, ⟨0⟩⟩
    let last : Request := ⟨⟨"PaTcH", ⟨.bytes [7], false⟩,
      ⟨[("x", "1"), (contentType, textContentType)]⟩, .follow, none, some .noReferrer, .origin⟩,
      ⟨3⟩⟩
    let begun : Session := ⟨#[home], #[], []⟩
    let ended : Session := ⟨#[home, home, home, home], #[], []⟩
    (RequestInput.text "http://h/").source? = none ∧
      create host (.text "http://h/") init Session.empty = (.ok first, begun) ∧
      Chain host first begun inits last ended ∧ last.Collects host (init :: inits) ∧
      (ended.url last.url).href = "http://h/" := by
  intro home host init inits first last begun ended
  have made : create host (.text "http://h/") init Session.empty = (.ok first, begun) := rfl
  let second : Request := { first with
    headers := ⟨[("x", "1")]⟩, referrerPolicy := .origin, url := ⟨1⟩ }
  let third : Request := { second with
    method := "PaTcH", body := ⟨.bytes [98], false⟩, headers := last.headers, url := ⟨2⟩ }
  have chain : Chain host first begun inits last ended := by
    have one : Chain host first begun [inits[0]] second ⟨#[home, home], #[], []⟩ :=
      .link .start rfl rfl
    have two : Chain host first begun [inits[0], inits[1]] third ⟨#[home, home, home], #[], []⟩ :=
      .link one rfl rfl
    exact .link two rfl rfl
  obtain ⟨target, _, collects⟩ := fields_of_last_given rfl made chain
  refine ⟨rfl, made, chain, collects, ?_⟩
  rw [← Except.ok.inj target]
  decide

end Request

end WebFetch
