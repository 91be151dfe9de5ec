import WebFetch.Session

/-!
The journal only grows. What a computation does to it is said by the events that it adds, and the
requests among them are all that the host ever sees.
-/

set_option autoImplicit false

namespace WebFetch

/-- A computation continues where its first part has ended. -/
theorem run_bind {α β : Type} {first : Run α} {next : α → Run β} {s s' : Session} {a : α}
    (h : first s = (a, s')) : (first >>= next) s = next a s' := by
  change next (first s).1 (first s).2 = next a s'
  rw [h]

def Event.request? : Event → Option Outbound
  | .contacted request => some request
  | .logged .. => none

namespace Session

def note (s : Session) (events : List Event) : Session :=
  { s with journal := s.journal ++ events }

/-- The requests that have reached the host. -/
def contacts (s : Session) : List Outbound := s.journal.filterMap Event.request?

@[simp] theorem note_nil (s : Session) : s.note [] = s := by
  cases s
  simp [note]

@[simp] theorem note_note (s : Session) (xs ys : List Event) :
    (s.note xs).note ys = s.note (xs ++ ys) := by
  simp [note]

theorem contacts_note (s : Session) (events : List Event) :
    (s.note events).contacts = s.contacts ++ events.filterMap Event.request? := by
  simp [contacts, note, List.filterMap_append]

/-- From `s` to `t` only the journal has grown, and `requests` have reached the host. -/
def Sends (s : Session) (requests : List Outbound) (t : Session) : Prop :=
  ∃ events : List Event, events.filterMap Event.request? = requests ∧ t = s.note events

namespace Sends

variable {s t u : Session} {xs ys : List Outbound}

theorem refl (s : Session) : s.Sends [] s := ⟨[], rfl, (note_nil s).symm⟩

theorem trans (h : s.Sends xs t) (h' : t.Sends ys u) : s.Sends (xs ++ ys) u := by
  obtain ⟨first, rfl, rfl⟩ := h
  obtain ⟨second, rfl, rfl⟩ := h'
  exact ⟨first ++ second, List.filterMap_append, note_note s first second⟩

theorem contacts (h : s.Sends xs t) : t.contacts = s.contacts ++ xs := by
  obtain ⟨events, rfl, rfl⟩ := h
  exact contacts_note s events

theorem url (h : s.Sends xs t) (u : UrlRef) : t.url u = s.url u := by
  obtain ⟨events, _, rfl⟩ := h
  rfl

theorem isCancelled (h : s.Sends xs t) : t.isCancelled = s.isCancelled := by
  obtain ⟨events, _, rfl⟩ := h
  rfl

end Sends

theorem hasUrl_addUrl {s : Session} {u : UrlRef} (known : s.HasUrl u) (value : Url) :
    (s.addUrl value).HasUrl u := by
  have known : u.cell < s.urls.size := known
  simp only [HasUrl, Session.addUrl, Array.size_push]
  exact Nat.lt_succ_of_lt known

theorem hasUrl_addUrl_nextUrl (s : Session) (value : Url) :
    (s.addUrl value).HasUrl s.nextUrl := by
  simp [HasUrl, Session.addUrl, nextUrl]

/-- Every cell of `s` is there in `t` and holds what it held. -/
def Keeps (s t : Session) : Prop := ∀ u, s.HasUrl u → t.HasUrl u ∧ t.url u = s.url u

namespace Keeps

variable {s t t' : Session}

theorem refl (s : Session) : s.Keeps s := fun _ known => ⟨known, rfl⟩

theorem trans (h : s.Keeps t) (h' : t.Keeps t') : s.Keeps t' := by
  intro u known
  obtain ⟨there, same⟩ := h u known
  obtain ⟨there', same'⟩ := h' u there
  exact ⟨there', same'.trans same⟩

theorem of_sends {requests : List Outbound} (h : s.Sends requests t) : s.Keeps t := by
  obtain ⟨events, _, rfl⟩ := h
  exact fun _ known => ⟨known, rfl⟩

theorem addUrl (s : Session) (value : Url) : s.Keeps (s.addUrl value) := by
  intro u known
  exact ⟨hasUrl_addUrl known value, url_addUrl_of_hasUrl known value⟩

end Keeps

/-- From `s` to `t` no cell has changed and no signal was cancelled or made, and `requests` have
    reached the host. -/
structure Grows (s : Session) (requests : List Outbound) (t : Session) : Prop where
  keeps : s.Keeps t
  cancelled_eq : t.cancelled = s.cancelled
  contacts_eq : t.contacts = s.contacts ++ requests

namespace Grows

variable {s t t' : Session} {xs ys : List Outbound}

theorem of_sends (h : s.Sends xs t) : s.Grows xs t := by
  refine ⟨.of_sends h, ?_, h.contacts⟩
  obtain ⟨events, _, rfl⟩ := h
  rfl

theorem refl (s : Session) : s.Grows [] s := of_sends (.refl s)

theorem trans (h : s.Grows xs t) (h' : t.Grows ys t') : s.Grows (xs ++ ys) t' := by
  refine ⟨h.keeps.trans h'.keeps, h'.cancelled_eq.trans h.cancelled_eq, ?_⟩
  rw [h'.contacts_eq, h.contacts_eq, List.append_assoc]

theorem addUrl (s : Session) (value : Url) : s.Grows [] (s.addUrl value) :=
  ⟨.addUrl s value, rfl, (List.append_nil _).symm⟩

end Grows

end Session

theorem log_sends (level : Level) (text : String) (s : Session) :
    s.Sends [] (log level text s).2 :=
  ⟨[.logged level .library text], rfl, rfl⟩

theorem forIn_log_run (lines : List (Level × String)) (s : Session) :
    (forIn lines PUnit.unit fun line _ => do
      log line.1 line.2
      pure (ForInStep.yield PUnit.unit) : Run PUnit) s =
      (PUnit.unit, s.note (lines.map fun line => .logged line.1 .library line.2)) := by
  induction lines generalizing s with
  | nil =>
    rw [List.map_nil, Session.note_nil]
    rfl
  | cons line rest ih =>
    rw [List.forIn_cons]
    refine (ih (log line.1 line.2 s).2).trans (congrArg (PUnit.unit, ·) ?_)
    exact Session.note_note s [.logged line.1 .library line.2] _

theorem logged_sends (lines : List (Level × String)) (s : Session) :
    s.Sends [] (s.note (lines.map fun line => .logged line.1 .library line.2)) := by
  refine ⟨_, ?_, rfl⟩
  rw [List.filterMap_map]
  exact List.filterMap_eq_nil_iff.mpr fun _ _ => rfl

end WebFetch
