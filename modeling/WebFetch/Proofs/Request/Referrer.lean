import WebFetch.NativeHost
import WebFetch.Proofs.Request.Inheritance
import WebFetch.Proofs.Request.Workspace

/-!
Requests and the texts that show their referrers. The main statement is for a parser that reads its
own URLs back: however a request has come to its referrer, the text that shows it says the same when
it is given for the next request, and the client is shown for all of its spellings and for nothing
else.
-/

set_option autoImplicit false

namespace WebFetch

/-! ## A parser that reads its own URLs back -/

namespace Url

/-- The parser of the ready-made host, for every text of which it reads the URL back. -/
def parseSteady (text : String) : Outcome Url :=
  match parse text with
  | .error e => .error (.url e)
  | .ok u => if parse u.href = .ok u then .ok u else .error (.message "URL is not read back")

theorem parseSteady_eq_ok_iff {text : String} {u : Url} :
    parseSteady text = .ok u ↔ parse text = .ok u ∧ parse u.href = .ok u := by
  unfold parseSteady
  cases parse text with
  | error e => simp
  | ok v =>
    by_cases back : parse v.href = .ok v
    · simp only [if_pos back, Except.ok.injEq]
      exact ⟨fun same => ⟨same, same ▸ back⟩, And.left⟩
    · simp only [if_neg back, Except.ok.injEq, reduceCtorEq, false_iff]
      rintro ⟨rfl, back'⟩
      exact back back'

theorem readsBack_parseSteady : Referrer.ReadsBack parseSteady where
  href text u parsed := by
    rw [parseSteady_eq_ok_iff] at parsed ⊢
    exact ⟨parsed.2, parsed.2⟩
  client := by
    refine ⟨⟨"about", none, false, "client", none, none⟩, ?_, by decide, rfl⟩
    exact parseSteady_eq_ok_iff.mpr ⟨by decide, by decide⟩

end Url

/-! ## Making a request with a referrer -/

namespace RequestFields

variable {host : Host} {text : String} {x : Referrer}

/-- Nothing else looks at a referrer that is given, and where it can be read it stops nothing. -/
theorem resolve_of_referrer {init : RequestInit} (given : init.referrer = some text)
    (parsed : Referrer.parse host text = .ok x) (url : Url) (source : Option RequestFields) :
    resolve host url source init =
      (resolve host url source { init with referrer := none }).map fun fields =>
        { fields with referrer := some x } := by
  let plain : RequestInit := { init with referrer := none }
  have own : resolveReferrer host source init = .ok (some x) := by
    rw [resolveReferrer, given]
    dsimp only
    rw [parsed]
    rfl
  have inherited : resolveReferrer host source plain = .ok (source.bind RequestFields.referrer) :=
    rfl
  change resolve host url source init = (resolve host url source plain).map _
  cases hc : url.hasCredentials with
  | true =>
    rw [resolve_of_credentials hc, resolve_of_credentials hc]
    rfl
  | false =>
    cases hb : isBodyless (resolveMethod source init) && wouldHaveBody source init with
    | true =>
      have forbidden : (isBodyless (resolveMethod source plain) && wouldHaveBody source plain) =
          true := hb
      rw [resolve_of_forbidden_body hc hb, resolve_of_forbidden_body hc forbidden]
      rfl
    | false =>
      have allowed : (isBodyless (resolveMethod source plain) && wouldHaveBody source plain) =
          false := hb
      have body : resolveBody host source plain = resolveBody host source init := rfl
      have policy : resolveReferrerPolicy source plain = resolveReferrerPolicy source init := rfl
      rw [resolve_of_checks hc hb, resolve_of_checks hc allowed, own, inherited, body, policy]
      cases resolveBody host source init with
      | error e => rfl
      | ok body =>
        cases resolveReferrerPolicy source init with
        | error e => rfl
        | ok policy => rfl

end RequestFields

namespace Request

/-- The outcome of making a request, with `x` as the referrer of the request if there is one. -/
def referring (x : Referrer) (made : Except FetchError Request × Session) :
    Except FetchError Request × Session :=
  (made.1.map fun r => { r with referrer := some x }, made.2)

theorem create_of_referrer {host : Host} {text : String} {x : Referrer} {init : RequestInit}
    (given : init.referrer = some text) (parsed : Referrer.parse host text = .ok x)
    (input : RequestInput) (s : Session) :
    create host input init s =
      referring x (create host input { init with referrer := none } s) := by
  rw [create_run, create_run]
  cases input.target host s with
  | error cause => rfl
  | ok url =>
    dsimp only
    rw [RequestFields.resolve_of_referrer given parsed]
    cases RequestFields.resolve host url (sourceFields input) { init with referrer := none } with
    | error e => rfl
    | ok fields => rfl

/-- The referrer of a new request was given with it or is that of its source. -/
theorem referrer_of_create {host : Host} {input : RequestInput} {init : RequestInit}
    {s s' : Session} {r : Request} {x : Referrer} (made : create host input init s = (.ok r, s'))
    (refers : r.referrer = some x) :
    (∃ text, Referrer.Means host.parseUrl text x) ∨
      ∃ q, input.source? = some q ∧ q.referrer = some x := by
  obtain ⟨_, _, resolved, _⟩ := resolves_of_create made
  have referrer := resolved.referrer_eq
  cases given : init.referrer with
  | some text =>
    obtain ⟨y, means, own⟩ := RequestFields.resolveReferrer_of_given given referrer
    rw [own] at refers
    cases refers
    exact .inl ⟨text, means⟩
  | none =>
    rw [RequestFields.resolveReferrer, given] at referrer
    rw [← Except.ok.inj referrer, Option.bind_eq_some_iff] at refers
    exact .inr (exists_sourceFields.mp refers)

end Request

/-! ## Runs -/

namespace Workspace

/-- Whatever else its host does, it reads URLs by `read`. -/
def Move.ReadsBy (read : String → Outcome Url) : Move → Prop
  | .act host _ => host.parseUrl = read
  | .newSignal => True
  | .cancel _ => True

/-- A workspace that comes about while all URLs are read by one parser. -/
inductive ArisesBy (read : String → Outcome Url) (start : Session) : Workspace → Prop where
  | start : ArisesBy read start ⟨start, []⟩
  | move {w : Workspace} (before : ArisesBy read start w) {m : Move} (owned : m.Owned w)
      (reads : m.ReadsBy read) : ArisesBy read start (w.move m)

variable {read : String → Outcome Url} {start : Session} {w : Workspace}

/-- Every referrer that is held is what some text says. -/
theorem ArisesBy.means (run : ArisesBy read start w) {r : Request} (held : w.Holds r)
    {x : Referrer} (refers : r.referrer = some x) : ∃ text, Referrer.Means read text x := by
  induction run generalizing r with
  | start => cases held
  | @move w _ m owned reads ih =>
    cases m with
    | newSignal | cancel => exact ih held refers
    | act host a =>
      rcases origin_act held with ⟨q, before, later⟩ | ⟨input, init, makes, made⟩
      · exact ih before (later.referrer_eq.symm.trans refers)
      · rcases Request.referrer_of_create made refers with said | ⟨q, from_, inherited⟩
        · rw [← reads]
          exact said
        · exact ih ((owned input init makes).1 q from_) inherited

/-- Let URLs be read by a parser that reads them back. However a held request has come to its
    referrer, a request that is given the text that shows it is made or refused as it would be
    without, and has the same referrer. The empty text shows that there is no referrer, the text of
    the client shows the client, and neither shows a URL. Every text that is read as a URL is taken,
    and what it says is shown as the client exactly when the URL stands for the client. -/
theorem referrer_reads_back (back : Referrer.ReadsBack read) (run : ArisesBy read start w)
    {r : Request} (held : w.Holds r) {x : Referrer} (refers : r.referrer = some x) {host : Host}
    (reads : host.parseUrl = read) :
    (∀ (input : RequestInput) (init : RequestInit) (s : Session),
      Request.create host input { init with referrer := some x.text } s =
        Request.referring x (Request.create host input { init with referrer := none } s)) ∧
    (x.text = "" ↔ x = .noReferrer) ∧ (x.text = "about:client" ↔ x = .client) ∧
    ∀ text u, text ≠ "" → read text = .ok u → ∃ y : Referrer,
      (y = .client ↔ u.MeansClient) ∧ (y.text = "about:client" ↔ u.MeansClient) ∧
      ∀ (input : RequestInput) (init : RequestInit) (s : Session),
        Request.create host input { init with referrer := some text } s =
          Request.referring y (Request.create host input { init with referrer := none } s) := by
  subst reads
  obtain ⟨text, means⟩ := run.means held refers
  refine ⟨fun input init s => ?_, means.text_eq_empty_iff, means.text_eq_client_iff back, ?_⟩
  · exact Request.create_of_referrer rfl (Referrer.parse_of_means (means.shown back)) input s
  · intro text u given parsed
    obtain ⟨y, meant, client⟩ := Referrer.exists_means given parsed
    refine ⟨y, client, (meant.text_eq_client_iff back).trans client, fun input init s => ?_⟩
    exact Request.create_of_referrer rfl (Referrer.parse_of_means meant) input s

/-- The referrer of a request was spelled in another way than it is shown, and the request is
    cloned. A request can then be given the text that the clone shows, or an odd spelling of the
    client. -/
theorem referrer_reads_back_of_clone :
    let home : Url := ⟨"http", some (.ofHost (.name "h")), false, "/", none, none⟩
    let host : Host :=
      { NativeHost.overTransport ⟨false, fun _ => .error .noRuntime⟩ with
        parseUrl := Url.parseSteady }
    let x : Referrer := .url "http://[::1]/b"
    let r : Request := ⟨⟨"GET", .empty, .empty, .follow, none, some x, .unset⟩, ⟨2⟩⟩
    Referrer.ReadsBack host.parseUrl ∧
      ∃ w, ArisesBy host.parseUrl ⟨#[home], #[], []⟩ w ∧ w.Holds r ∧ r.referrer = some x ∧
      (∀ (input : RequestInput) (init : RequestInit) (s : Session),
        Request.create host input { init with referrer := some "http://[::1]/b" } s =
          Request.referring x (Request.create host input { init with referrer := none } s)) ∧
      ∃ y : Referrer, y.text = "about:client" ∧
        ∀ (input : RequestInput) (init : RequestInit) (s : Session),
          Request.create host input { init with referrer := some "About://client/?q#f" } s =
            Request.referring y (Request.create host input { init with referrer := none } s) := by
  intro home host x r
  let page : Url :=
    ⟨"http", some ⟨"", "", .ipv6 [0, 0, 0, 0, 0, 0, 0, 1], none⟩, false, "/b", none, none⟩
  let init : RequestInit := { RequestInit.empty with referrer := some "HTTP://[::1]:80/a/../b" }
  let first : Request := { r with url := ⟨1⟩ }
  have resolved : Referrer.parse host "HTTP://[::1]:80/a/../b" = .ok x := by
    have parsed : Url.parseSteady "HTTP://[::1]:80/a/../b" = .ok page :=
      Url.parseSteady_eq_ok_iff.mpr ⟨by decide, by decide⟩
    have other : ¬ page.MeansClient := by
      intro client
      cases client with
      | path scheme | host scheme => exact absurd scheme (by decide)
    have shown : page.href = "http://[::1]/b" := by decide
    have means := Referrer.Means.url (by decide) parsed other
    rw [shown] at means
    exact Referrer.parse_of_means means
  have made : Request.create host (.url ⟨0⟩) init ⟨#[home], #[], []⟩ =
      (.ok first, ⟨#[home, home], #[], []⟩) :=
    Request.create_of_referrer rfl resolved (.url ⟨0⟩) ⟨#[home], #[], []⟩
  let before : Workspace := ⟨⟨#[home, home], #[], []⟩, [.request first]⟩
  have given : ArisesBy Url.parseSteady ⟨#[home], #[], []⟩ before := by
    have step : (⟨⟨#[home], #[], []⟩, []⟩ : Workspace).move
        (.act host (.request (.url ⟨0⟩) init)) = before := congrArg (Workspace.add _) made
    rw [← step]
    exact ArisesBy.start.move (Move.owned_request _ host rfl rfl) rfl
  have run : ArisesBy Url.parseSteady _ (before.move (.act host (.message 0 .clone))) :=
    given.move (Move.owned_clone before host 0) rfl
  have held : (before.move (.act host (.message 0 .clone))).Holds r :=
    List.mem_of_getElem? (i := 1) rfl
  have reads : host.parseUrl = Url.parseSteady := rfl
  obtain ⟨again, _, _, taken⟩ :=
    referrer_reads_back Url.readsBack_parseSteady run held rfl reads
  let odd : Url := ⟨"about", some (.ofHost (.name "client")), false, "/", some "q", some "f"⟩
  have parsed : Url.parseSteady "About://client/?q#f" = .ok odd :=
    Url.parseSteady_eq_ok_iff.mpr ⟨by decide, by decide⟩
  have spelled : odd.MeansClient := .host (by decide) (by decide) (.inr rfl)
  obtain ⟨y, _, shown, named⟩ := taken _ odd (by decide) parsed
  exact ⟨Url.readsBack_parseSteady, _, run, held, rfl, again, y, shown.mpr spelled, named⟩

end Workspace

end WebFetch
