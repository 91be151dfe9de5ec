import WebFetch.Completion
import WebFetch.Proofs.Journal

/-!
Settlements one by one and in a row. The first one is sent if anybody waits for it; every other one
leaves the channel as it is and is reported. Waiting for a primitive therefore gives its first
settlement, and the failure of a dropped completion if there is none.
-/

set_option autoImplicit false

namespace WebFetch.Channel

variable {α : Type}

def repeated (operation : String) : Event :=
  .logged .warn .library ("host settled \x60" ++ operation ++
    "\x60 more than once; extra result ignored")

theorem complete_of_settled {c : Channel α} (h : c.settled = true) (outcome : Outcome α)
    (s : Session) : c.complete outcome s = ((false, c), s.note [repeated c.operation]) := by
  obtain ⟨operation, settled, sender, holders, mail, awaited⟩ := c
  cases h
  rfl

theorem complete_of_stored {c : Channel α} (h : c.settled = false) (hs : c.sender = .stored)
    (outcome : Outcome α) (s : Session) :
    c.complete outcome s =
      ((true, { c with
        settled := true
        sender := .gone
        mail := if c.awaited then some outcome else none }), s) := by
  obtain ⟨operation, settled, sender, holders, mail, awaited⟩ := c
  cases h
  cases hs
  rfl

theorem poll_of_mail {c : Channel α} {outcome : Outcome α} (h : c.mail = some outcome) :
    c.poll = .ready outcome := by
  rw [poll, h]

theorem poll_of_gone {c : Channel α} (h : c.mail = none) (hs : c.sender = .gone) :
    c.poll = .ready (.error (.dropped c.operation)) := by
  rw [poll, h]
  exact if_pos hs

theorem poll_of_not_gone {c : Channel α} (h : c.mail = none) (hs : c.sender ≠ .gone) :
    c.poll = .pending := by
  rw [poll, h]
  exact if_neg hs

theorem completeAll_cons (c : Channel α) (outcome : Outcome α) (rest : List (Outcome α))
    (s : Session) :
    c.completeAll (outcome :: rest) s =
      (c.complete outcome s).1.2.completeAll rest (c.complete outcome s).2 := rfl

theorem completeAll_of_settled {c : Channel α} (h : c.settled = true) (outcomes : List (Outcome α))
    (s : Session) :
    c.completeAll outcomes s =
      (c, s.note (List.replicate outcomes.length (repeated c.operation))) := by
  induction outcomes generalizing s with
  | nil =>
    rw [List.length_nil, List.replicate_zero, Session.note_nil]
    rfl
  | cons outcome rest ih =>
    rw [completeAll_cons, complete_of_settled h, ih, Session.note_note]
    rfl

/-- What waiting for a primitive comes to. -/
def awaitedOutcome (operation : String) (outcomes : List (Outcome α)) : Outcome α :=
  outcomes.head?.getD (.error (.dropped operation))

/-- Only the first settlement counts, and each other one is reported. -/
theorem await_run (operation : String) (outcomes : List (Outcome α)) (s : Session) :
    await operation outcomes s =
      (awaitedOutcome operation outcomes,
        s.note (List.replicate (outcomes.length - 1) (repeated operation))) := by
  cases outcomes with
  | nil =>
    rw [List.length_nil, List.replicate_zero, Session.note_nil]
    rfl
  | cons outcome rest =>
    let sent : Channel α := ⟨operation, true, .gone, 1, some outcome, true⟩
    have first : (create operation : Channel α).completeAll (outcome :: rest) s =
        (sent, s.note (List.replicate rest.length (repeated operation))) := by
      rw [completeAll_cons, complete_of_stored rfl rfl]
      exact completeAll_of_settled (c := sent) rfl rest s
    unfold await
    rw [run_bind first]
    rfl

theorem replicate_repeated_sends (operation : String) (n : Nat) (s : Session) :
    s.Sends [] (s.note (List.replicate n (repeated operation))) := by
  refine ⟨_, ?_, rfl⟩
  induction n with
  | zero => rfl
  | succ n ih =>
    rw [List.replicate_succ, List.filterMap_cons]
    exact ih

theorem await_sends (operation : String) (outcomes : List (Outcome α)) (s : Session) :
    s.Sends [] (await operation outcomes s).2 := by
  rw [await_run]
  exact replicate_repeated_sends operation (outcomes.length - 1) s

end WebFetch.Channel
