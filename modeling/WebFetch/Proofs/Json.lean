import WebFetch.Json.RoundTrip
import WebFetch.Proofs.Codec
import WebFetch.Proofs.Request.Construction
import WebFetch.Proofs.Response.Construction

/-!
JSON data through a message. The text of a value is encoded into the body of a response or a
request, and reading it decodes and parses: through the codec of the ready-made host each step takes
back the one before it, for every value without doubles that the parser is deep enough for.
-/

set_option autoImplicit false

namespace WebFetch

/-- A host with this codec reads JSON data from a body that is made of its text. -/
theorem Host.CodesText.parsed_render {host : Host} (codes : host.CodesText) {v : Json.Value}
    (plain : v.Plain Json.depthLimit) :
    (Body.ofInit host (some (.text v.render))).payload.parsed host = .ok v := by
  rw [Payload.parsed, codes.decoded_of_text]
  change (Json.parse v.render).mapError FetchError.malformedJson = _
  rw [Json.parse_render plain]
  rfl

namespace Response

/-- JSON data is accepted wherever some body is. -/
theorem json_of_accepts (host : Host) {init : ResponseInit} (accepts : Accepts init true)
    (v : Json.Value) :
    ∃ r, json host v init = .ok r ∧ r.body = .ofInit host (some (.text v.render)) := by
  unfold json
  exact ⟨_, create_of_accepts ⟨accepts.lower, accepts.upper, accepts.bodied⟩, rfl⟩

theorem text_fst (r : Response) (unused : r.body.used = false) (host : Host) (s : Session) :
    (r.text host s).1.1 = r.body.payload.decoded host :=
  congrArg Prod.fst (Body.text_of_unused unused host s).1

theorem jsonBody_fst (r : Response) (unused : r.body.used = false) (host : Host) (s : Session) :
    (r.jsonBody host s).1.1 = r.body.payload.parsed host :=
  congrArg Prod.fst (Body.json_of_unused unused host s).1

end Response

namespace Request

theorem json_fst (r : Request) (unused : r.body.used = false) (host : Host) (s : Session) :
    (r.json host s).1.1 = r.body.payload.parsed host :=
  congrArg Prod.fst (Body.json_of_unused unused host s).1

/-- Which body is given makes no difference for whether a request is made. -/
theorem create_of_body {host : Host} {input : RequestInput} {init : RequestInit}
    {body : BodyInit} {s s' : Session} {r : Request}
    (made : create host input { init with body := some body } s = (.ok r, s')) (other : BodyInit) :
    ∃ r', create host input { init with body := some other } s = (.ok r', s') ∧
      r'.body = .ofInit host (some other) := by
  obtain ⟨url, target, resolved, -, rfl⟩ := resolves_of_create made
  have referrer : RequestFields.resolveReferrer host (sourceFields input)
      { init with body := some other } = .ok r.referrer := resolved.referrer_eq
  have policy : RequestFields.resolveReferrerPolicy (sourceFields input)
      { init with body := some other } = .ok r.referrerPolicy := resolved.policy_eq
  have fields : RequestFields.resolve host url (sourceFields input)
      { init with body := some other } = _ :=
    RequestFields.resolve_of_checks resolved.anonymous resolved.allowed
  rw [referrer, policy] at fields
  exact ⟨_, create_of_resolved target fields, rfl⟩

end Request

namespace NativeHost

/-- With the ready-made host, JSON data is read back from the messages that it is put into: every
    value without doubles that nests at most 127 levels deep. A response is made of it with any
    fields that some body is accepted with; its text is the compact text of the value, and parsing
    that gives the value. A request is made of the text wherever it is made with some body, and its
    data is the value as well. -/
theorem json_round_trip (transport : Transport) {v : Json.Value} (plain : v.Plain 127) :
    let host := overTransport transport
    (∀ (body : BodyInit) (init : ResponseInit) (accepted : Response),
      Response.create host (some body) init = .ok accepted →
        ∃ r, Response.json host v init = .ok r ∧
          ∀ s, (r.text host s).1.1 = .ok v.render ∧ (r.jsonBody host s).1.1 = .ok v) ∧
    ∀ (body : BodyInit) (input : RequestInput) (init : RequestInit) (s s' : Session)
      (accepted : Request),
      Request.create host input { init with body := some body } s = (.ok accepted, s') →
        ∃ r, Request.create host input { init with body := some (.text v.render) } s =
            (.ok r, s') ∧
          ∀ t, (r.json host t).1.1 = .ok v := by
  intro host
  have codes : host.CodesText := codesText transport
  have parsed := codes.parsed_render plain
  refine ⟨fun body init accepted made => ?_, fun body input init s s' accepted made => ?_⟩
  · obtain ⟨r, created, holds⟩ :=
      Response.json_of_accepts host (Response.accepts_of_create made) v
    have unused : r.body.used = false := by rw [holds]; rfl
    refine ⟨r, created, fun s => ⟨?_, ?_⟩⟩
    · rw [Response.text_fst r unused, holds]
      exact codes.decoded_of_text v.render
    · rw [Response.jsonBody_fst r unused, holds, parsed]
  · obtain ⟨r, created, holds⟩ := Request.create_of_body made (.text v.render)
    have unused : r.body.used = false := by rw [holds]; rfl
    refine ⟨r, created, fun t => ?_⟩
    rw [Request.json_fst r unused, holds, parsed]

/-- Empty containers, the limits of whole numbers, and characters that are escaped or that take four
    bytes. -/
theorem json_round_trip_of_limits :
    let transport : Transport := ⟨true, fun _ => .error .aborted⟩
    let host := overTransport transport
    let s : Session := ⟨#[⟨"http", some (.ofHost (.name "h")), false, "/", none, none⟩], #[], []⟩
    let v : Json.Value := .object
      [("", .array [.array [], .object [], .null]),
        ("\x01\"", .array [.number (.integer (-0x8000000000000000)),
          .number (.integer 0xFFFFFFFFFFFFFFFF)]),
        ("😀", .string "\\\n/\x7f😀")]
    v.Plain 127 ∧
    (∃ r, Response.json host v ⟨some 201, none, none⟩ = .ok r ∧
      ∀ s, (r.text host s).1.1 = .ok v.render ∧ (r.jsonBody host s).1.1 = .ok v) ∧
    ∃ r s', Request.create host (.url ⟨0⟩)
        ⟨some "post", none, some (.text v.render), none, none, none, none⟩ s = (.ok r, s') ∧
      ∀ t, (r.json host t).1.1 = .ok v := by
  intro transport host s v
  have plain : v.Plain 127 := by
    refine .object (by decide) ?_
    simp only [List.forall_mem_cons, List.not_mem_nil, false_imp_iff, implies_true, and_true]
    refine ⟨.array ?_, .array ?_, .string _⟩
    · simp only [List.forall_mem_cons, List.not_mem_nil, false_imp_iff, implies_true, and_true]
      exact ⟨.array nofun, .object .nil nofun, .null⟩
    · simp only [List.forall_mem_cons, List.not_mem_nil, false_imp_iff, implies_true, and_true]
      exact ⟨.integer (by decide) (by decide), .integer (by decide) (by decide)⟩
  obtain ⟨response, request⟩ := json_round_trip transport plain
  refine ⟨plain, response (.bytes []) ⟨some 201, none, none⟩ _ rfl, ?_⟩
  obtain ⟨r, made, reads⟩ := request (.bytes []) (.url ⟨0⟩)
    ⟨some "post", none, none, none, none, none, none⟩ s _ _ rfl
  exact ⟨r, _, made, reads⟩

end NativeHost

end WebFetch
