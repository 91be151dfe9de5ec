import WebFetch.Proofs.Request.Methods

/-!
Clones of requests. To clone is to make a request of a request, with every check that this takes;
and yet a clone fails only for a body that was read or for credentials in the URL, since a request
that is held passes all the others. The clone has all fields of its original and a cell of its own
with the same URL, so that nothing that is done to one of them is seen in the other. Only the signal
is the same for both.
-/

set_option autoImplicit false

namespace WebFetch

/-! ## One clone -/

namespace RequestFields

variable {host : Host} {url : Url} {fields : RequestFields}

/-- Nothing is forbidden to a clone that was allowed to its original. -/
theorem Regular.allows (regular : fields.Regular) :
    (isBodyless (resolveMethod (some fields) .empty) && wouldHaveBody (some fields) .empty) =
      false := by
  rw [← Bool.not_eq_true, bodyForbidden_iff]
  rintro ⟨bodyless, given | ⟨q, same, filled⟩⟩
  · exact given rfl
  · cases same
    exact filled (regular.bodiless bodyless)

theorem resolve_of_clone (regular : fields.Regular) :
    resolve host url (some fields) .empty =
      if url.hasCredentials = true then .error (.validation (.credentials url.href))
      else if fields.body.used = true then .error (.validation .copyOfUsedBody)
      else .ok fields := by
  cases hc : url.hasCredentials with
  | true =>
    rw [resolve_of_credentials hc]
    rfl
  | false =>
    rw [resolve_of_checks hc regular.allows]
    obtain ⟨method, ⟨payload, used⟩, headers, redirect, signal, referrer, policy⟩ := fields
    cases used with
    | true => rfl
    | false => rfl

end RequestFields

namespace Request

variable {r : Request}

/-- All that cloning a request can do. -/
theorem clone_run (regular : r.Regular) (host : Host) (s : Session) :
    r.clone host s =
      if (s.url r.url).hasCredentials = true then
        (.error (.validation (.credentials (s.url r.url).href)), s)
      else if r.body.used = true then (.error (.validation .copyOfUsedBody), s)
      else (.ok { r with url := s.nextUrl }, s.addUrl (s.url r.url)) := by
  have target : (RequestInput.request r).target host s = .ok (s.url r.url) := rfl
  have resolved : RequestFields.resolve host (s.url r.url) (sourceFields (.request r)) .empty = _ :=
    RequestFields.resolve_of_clone regular
  unfold clone
  split_ifs with hc hu
  · rw [if_pos hc] at resolved
    exact create_of_unresolved target resolved
  · rw [if_neg hc, if_pos hu] at resolved
    exact create_of_unresolved target resolved
  · rw [if_neg hc, if_neg hu] at resolved
    exact create_of_resolved target resolved

theorem hasUrl_of_create {host : Host} {input : RequestInput} {init : RequestInit}
    {s s' : Session} (made : create host input init s = (.ok r, s')) : s'.HasUrl r.url := by
  obtain ⟨url, _, _, new, rfl⟩ := resolves_of_create made
  rw [new]
  exact Session.hasUrl_addUrl_nextUrl s url

theorem signal_of_create {host : Host} {input : RequestInput} {init : RequestInit}
    {s s' : Session} {x : Signal} (made : create host input init s = (.ok r, s'))
    (h : r.signal = some x) :
    init.signal = some x ∨ ∃ q, input.source? = some q ∧ q.signal = some x := by
  obtain ⟨_, _, resolved, _⟩ := resolves_of_create made
  rw [resolved.signal_eq, Option.or_eq_some_iff, Option.bind_eq_some_iff] at h
  rcases h with given | ⟨_, fields, from_, inherited⟩
  · exact .inl given
  · obtain ⟨q, there, rfl⟩ := Option.map_eq_some_iff.mp from_
    exact .inr ⟨q, there, inherited⟩

theorem used_of_clone {host : Host} {s : Session} {copy : Request} (regular : r.Regular)
    (made : (r.clone host s).1 = .ok copy) :
    r.body.used = false ∧ copy = { r with url := s.nextUrl } ∧
      (r.clone host s).2 = s.addUrl (s.url r.url) := by
  rw [clone_run regular] at made ⊢
  by_cases hc : (s.url r.url).hasCredentials = true
  · rw [if_pos hc] at made
    cases made
  · by_cases hu : r.body.used = true
    · rw [if_neg hc, if_pos hu] at made
      cases made
    · rw [if_neg hc, if_neg hu] at made ⊢
      cases made
      exact ⟨Bool.eq_false_iff.mpr hu, rfl, rfl⟩

theorem clone_isOk_iff (regular : r.Regular) (host : Host) (s : Session) :
    (∃ copy, (r.clone host s).1 = .ok copy) ↔
      r.body.used = false ∧ (s.url r.url).hasCredentials = false := by
  rw [clone_run regular]
  split_ifs with hc hu
  · simp [hc]
  · simp [hu]
  · simp [hc, hu]

end Request

/-! ## What a move leaves alone -/

namespace Workspace

/-- The move is made on the request in this place: on the message itself or on its URL. -/
def Move.On (i : Nat) (u : UrlRef) : Move → Prop
  | .act _ a => a.Handles i ∨ a.Writes u
  | .newSignal => False
  | .cancel _ => False

def after (w : Workspace) (moves : List Move) : Workspace := moves.foldl move w

/-- A request in its place, with what its URL holds. -/
structure Presents (w : Workspace) (i : Nat) (r : Request) (url : Url) : Prop where
  message : w.messages[i]? = some (.request r)
  known : w.session.HasUrl r.url
  url_eq : w.session.url r.url = url

section Moves

variable {w : Workspace} {m : Move}

theorem Presents.move {k : Nat} {r : Request} {url : Url} (p : w.Presents k r url)
    (off : ¬ m.On k r.url) : (w.move m).Presents k r url := by
  cases m with
  | act host a =>
    obtain ⟨untouched, unwritten⟩ := not_or.mp off
    constructor
    · exact message_act p.message untouched
    · exact hasUrl_act p.known
    · exact (url_act p.known unwritten).trans p.url_eq
  | newSignal => exact ⟨p.message, p.known, p.url_eq⟩
  | cancel signal => exact ⟨p.message, p.known, p.url_eq⟩

theorem Presents.after {k : Nat} {r : Request} {url : Url} (p : w.Presents k r url)
    {moves : List Move} (off : ∀ m ∈ moves, ¬ m.On k r.url) :
    (w.after moves).Presents k r url := by
  induction moves generalizing w with
  | nil => exact p
  | cons m rest ih =>
    have here := off m List.mem_cons_self
    exact ih (p.move here) fun next h => off next (List.mem_cons_of_mem m h)

theorem Move.On.disjoint {i k : Nat} {u v : UrlRef} (on : m.On i u) (places : i ≠ k)
    (cells : u ≠ v) : ¬ m.On k v := by
  cases m with
  | newSignal | cancel => exact id
  | act host a =>
    rintro (handles | writes)
    · rcases on with handles' | writes'
      · cases handles <;> cases handles' <;> exact places rfl
      · cases handles <;> cases writes'
    · rcases on with handles' | writes'
      · cases writes <;> cases handles'
      · cases writes with
        | set | setHref =>
          cases writes'
          exact cells rfl
        | edit view =>
          cases writes' with
          | edit view' => exact cells (view'.symm.trans view)

/-! ### Signals -/

theorem hasSignal_move {x : Signal} (known : w.session.HasSignal x) :
    (w.move m).session.HasSignal x := by
  unfold Session.HasSignal at known ⊢
  cases m with
  | act host a =>
    change x.cell < (w.act host a).session.cancelled.size
    rw [cancelled_act]
    exact known
  | newSignal =>
    change x.cell < (w.session.cancelled.push false).size
    rw [Array.size_push]
    exact Nat.lt_succ_of_lt known
  | cancel signal =>
    change x.cell < (w.session.cancelled.setIfInBounds signal.cell true).size
    rw [Array.size_setIfInBounds]
    exact known

/-- A signal is cancelled by a move that says so, and by no other. -/
theorem isCancelled_move {x : Signal} (known : w.session.HasSignal x) :
    (w.move m).session.isCancelled x = true ↔
      w.session.isCancelled x = true ∨ m = .cancel x := by
  unfold Session.isCancelled
  cases m with
  | act host a =>
    change (w.act host a).session.cancelled.getD x.cell false = true ↔ _
    rw [cancelled_act]
    simp
  | newSignal =>
    have known : x.cell < w.session.cancelled.size := known
    change (w.session.cancelled.push false).getD x.cell false = true ↔ _
    simp [Array.getElem?_push, Nat.ne_of_lt known]
  | cancel signal =>
    have known : x.cell < w.session.cancelled.size := known
    change (w.session.cancelled.setIfInBounds signal.cell true).getD x.cell false = true ↔ _
    by_cases same : signal = x
    · subst same
      simp [known]
    · have other : signal.cell ≠ x.cell := fun h => same (by cases signal; cases x; simp_all)
      simp [Array.getElem?_setIfInBounds_ne other, same]

theorem isCancelled_after {x : Signal} (known : w.session.HasSignal x) (moves : List Move) :
    (w.after moves).session.isCancelled x = true ↔
      w.session.isCancelled x = true ∨ .cancel x ∈ moves := by
  induction moves generalizing w with
  | nil => simp [after]
  | cons m rest ih =>
    have next := ih (hasSignal_move (m := m) known)
    rw [isCancelled_move known] at next
    rw [List.mem_cons, ← or_assoc, eq_comm (a := Move.cancel x)]
    exact next

end Moves

/-! ## Runs -/

/-- The cells and the signals of the requests that are held are there. -/
structure Provided (w : Workspace) : Prop where
  urls : ∀ r, w.Holds r → w.session.HasUrl r.url
  signals : ∀ r, w.Holds r → ∀ x, r.signal = some x → w.session.HasSignal x

variable {start : Session} {w : Workspace}

theorem Provided.act (f : w.Provided) {host : Host} {a : Action}
    (owned : (Move.act host a).Owned w) : (w.act host a).Provided := by
  constructor
  · intro r held
    rcases origin_act held with ⟨q, before, later⟩ | ⟨input, init, _, made⟩
    · rw [later.url_eq]
      exact hasUrl_act (f.urls q before)
    · exact Request.hasUrl_of_create made
  · intro r held x signal
    have kept (known : w.session.HasSignal x) : (w.act host a).session.HasSignal x :=
      hasSignal_move (m := .act host a) known
    rcases origin_act held with ⟨q, before, later⟩ | ⟨input, init, makes, made⟩
    · exact kept (f.signals q before x (later.signal_eq.symm.trans signal))
    -- The signal of a new request was given with it or is that of its source.
    · obtain ⟨sources, given⟩ := owned input init makes
      rcases Request.signal_of_create made signal with new | ⟨q, from_, inherited⟩
      · exact kept (given x new)
      · exact kept (f.signals q (sources q from_) x inherited)

theorem Arises.provided (run : Arises start w) : w.Provided := by
  induction run with
  | start =>
    constructor
    · intro r held
      cases held
    · intro r held
      cases held
  | @move w _ m owned ih =>
    cases m with
    | act host a => exact ih.act owned
    | newSignal | cancel signal =>
      exact ⟨ih.urls, fun r held x h => hasSignal_move (ih.signals r held x h)⟩

/-- After a clone both are there, with one URL in two cells. -/
theorem Provided.presents_of_clone (provided : w.Provided) {i : Nat} {r copy : Request}
    {host : Host} (found : w.messages[i]? = some (.request r)) (regular : r.Regular)
    (made : (r.clone host w.session).1 = .ok copy) :
    (w.act host (.message i .clone)).Presents i r (w.session.url r.url) ∧
      (w.act host (.message i .clone)).Presents w.messages.length copy (w.session.url r.url) := by
  obtain ⟨_, copy_eq, cells⟩ := Request.used_of_clone regular made
  have known := provided.urls r (List.mem_of_getElem? found)
  have answer : (Message.request r).act host .clone w.session =
      ((.clone (.ok (.request copy)), .request r), w.session.addUrl (w.session.url r.url)) := by
    rw [← cells, ← Except.map_ok (f := Message.request), ← made]
    rfl
  rw [act_message_of_found found, answer]
  constructor
  · constructor
    · exact Message.getElem?_after_self found
    · exact Session.hasUrl_addUrl known _
    · exact Session.url_addUrl_of_hasUrl known _
  · rw [copy_eq]
    constructor
    · exact Message.getElem?_after_copy rfl
    · exact Session.hasUrl_addUrl_nextUrl w.session _
    · exact Session.url_addUrl_nextUrl w.session _

theorem Provided.url_ne_of_clone (provided : w.Provided) {r copy : Request} {host : Host}
    (held : w.Holds r) (regular : r.Regular) (made : (r.clone host w.session).1 = .ok copy) :
    r.url ≠ copy.url := by
  obtain ⟨_, copy_eq, _⟩ := Request.used_of_clone regular made
  intro same
  have known := provided.urls r held
  rw [same, copy_eq] at known
  exact Session.not_hasUrl_nextUrl w.session known

/-- A request that is held can be cloned exactly when its body was not read and its URL has no
    credentials. The clone has the fields of its original, is unread, and has the same URL in a cell
    of its own behind all messages. From then on no move on one of the two is a move on the other,
    and whatever moves are made, each stays as it is but for those on itself. A signal is one and
    the same for both, and cancelled when it is cancelled. -/
theorem clone_equal_and_apart (run : Arises start w) {i : Nat} {r : Request}
    (found : w.messages[i]? = some (.request r)) (host : Host) :
    ((∃ copy, (r.clone host w.session).1 = .ok copy) ↔
      r.body.used = false ∧ (w.session.url r.url).username = "" ∧
        (w.session.url r.url).password = "") ∧
    ∀ copy, (r.clone host w.session).1 = .ok copy →
      let w' := w.act host (.message i .clone)
      let k := w.messages.length
      let url := w.session.url r.url
      copy.toRequestFields = r.toRequestFields ∧ copy.body.used = false ∧
      w'.Presents i r url ∧ w'.Presents k copy url ∧
      (∀ m : Move, m.On i r.url → ¬ m.On k copy.url) ∧
      ∀ moves : List Move,
        ((∀ m ∈ moves, ¬ m.On i r.url) → (w'.after moves).Presents i r url) ∧
        ((∀ m ∈ moves, ¬ m.On k copy.url) → (w'.after moves).Presents k copy url) ∧
        ∀ x, r.signal = some x →
          ((w'.after moves).session.isCancelled x = true ↔
            w.session.isCancelled x = true ∨ .cancel x ∈ moves) := by
  have held : w.Holds r := List.mem_of_getElem? found
  have regular := run.regular.held r held
  have provided := run.provided
  constructor
  · rw [Request.clone_isOk_iff regular]
    simp [Url.hasCredentials]
  · intro copy made w' k url
    obtain ⟨unread, copy_eq, _⟩ := Request.used_of_clone regular made
    obtain ⟨original, twin⟩ := provided.presents_of_clone found regular made
    refine ⟨by rw [copy_eq], by rw [copy_eq, unread], original, twin, ?_, ?_⟩
    · intro m on
      have places := Nat.ne_of_lt (Message.lt_length_of_found found)
      exact on.disjoint places (provided.url_ne_of_clone held regular made)
    · intro moves
      refine ⟨original.after, twin.after, fun x signal => ?_⟩
      have known : w'.session.HasSignal x :=
        hasSignal_move (m := .act host (.message i .clone)) (provided.signals r held x signal)
      have before : w'.session.isCancelled x = w.session.isCancelled x := by
        unfold Session.isCancelled
        rw [cancelled_act]
      rw [← before]
      exact isCancelled_after known moves

/-- The URL and the headers of a request were edited before it is cloned. Then its URL is written
    to, its body is read and its signal is cancelled. -/
theorem clone_equal_and_apart_of_edited :
    let home : Url := ⟨"http", some (.ofHost (.name "h")), false, "/", none, some "top"⟩
    let host : Host := ⟨Utf8.encode, fun _ => [], fun _ _ => ⟨[], []⟩,
      fun _ => .ok { home with fragment := none }, fun _ _ => .error .aborted⟩
    let r : Request := ⟨⟨"POST", ⟨.bytes [7], false⟩, ⟨[("a", "1"), ("a", "2")]⟩, .manual, some ⟨0⟩,
      some .noReferrer, .origin⟩, ⟨0⟩⟩
    let w : Workspace := ⟨⟨#[home], #[false], []⟩, [.request r]⟩
    let moves : List Move :=
      [.act host (.set ⟨0⟩ .hash "end"), .act host (.message 0 .text), .cancel ⟨0⟩]
    Arises Session.empty w ∧ w.messages[0]? = some (.request r) ∧
      ∃ copy, (r.clone host w.session).1 = .ok copy ∧ copy.toRequestFields = r.toRequestFields ∧
        ((w.act host (.message 0 .clone)).after moves).Presents 1 copy home ∧
        ((w.act host (.message 0 .clone)).after moves).session.isCancelled ⟨0⟩ = true := by
  intro home host r w moves
  let init : RequestInit := ⟨some "POST", some ⟨[("a", "1")]⟩, some (.bytes [7]), some .manual,
    some ⟨0⟩, some "", some "origin"⟩
  have run : Arises Session.empty w := by
    have signal : Arises Session.empty ⟨⟨#[], #[false], []⟩, []⟩ :=
      Arises.start.move (m := .newSignal) trivial
    have made := signal.move (m := .act host (.request (.text "http://h/") init)) <| by
      intro input init makes
      cases makes with
      | request input init =>
        constructor
        · intro q from_
          cases from_
        · intro x given
          cases given
          exact Nat.one_pos
    have edited := made.move (m := .act host (.headers 0 fun h => h.append "a" "2"))
      fun _ _ makes => by cases makes
    exact edited.move (m := .act host (.set ⟨0⟩ .hash "top")) fun _ _ makes => by cases makes
  have found : w.messages[0]? = some (.request r) := rfl
  obtain ⟨isOk, twins⟩ := clone_equal_and_apart run found host
  obtain ⟨copy, made⟩ := isOk.mpr ⟨rfl, rfl, rfl⟩
  obtain ⟨fields, _, _, _, apart, later⟩ := twins copy made
  obtain ⟨_, kept, cancelled⟩ := later moves
  refine ⟨run, found, copy, made, fields, kept fun m h => ?_, ?_⟩
  · simp only [moves, List.mem_cons, List.not_mem_nil, or_false] at h
    rcases h with rfl | rfl | rfl
    · exact apart _ (.inr (.set .hash "end"))
    · exact apart _ (.inl (.message .text))
    · exact id
  · exact (cancelled ⟨0⟩ rfl).mpr (.inr (by simp [moves]))

end Workspace

end WebFetch
