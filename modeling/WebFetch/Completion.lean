import WebFetch.Error
import WebFetch.Session

/-!
A result that is delivered once. The host holds the completion, in any number of clones, and may
settle it more than once; only the first settlement reaches the future on the other side. Settling
takes three steps, each of them atomic: raise the flag, take the sender, send.
-/

set_option autoImplicit false

namespace WebFetch

abbrev Outcome (α : Type) := Except HostError α

/-- Where the one sender is: with the completion, with a call that took it, or gone. -/
inductive Sender where
  | stored
  | taken
  | gone
  deriving DecidableEq

/-- The state that the clones of a completion and its future share. -/
structure Channel (α : Type) where
  operation : String
  settled : Bool
  sender : Sender
  holders : Nat
  mail : Option (Outcome α)
  awaited : Bool

inductive Poll (α : Type) where
  | pending
  | ready (outcome : Outcome α)

namespace Channel

variable {α : Type}

def create (operation : String) : Channel α := ⟨operation, false, .stored, 1, none, true⟩

/-! ## The steps of a settlement -/

/-- Raises the flag; the answer is whether it was up before. -/
def swap (c : Channel α) : Bool × Channel α := (c.settled, { c with settled := true })

def take (c : Channel α) : Bool × Channel α :=
  if c.sender = .stored then (true, { c with sender := .taken }) else (false, c)

/-- Sends an outcome, which nobody gets if the future is gone. -/
def send (outcome : Outcome α) (c : Channel α) : Channel α :=
  { c with sender := .gone, mail := if c.awaited then some outcome else none }

/-! ## The operations -/

def warning (c : Channel α) : String :=
  "host settled \x60" ++ c.operation ++ "\x60 more than once; extra result ignored"

/-- Settles with an outcome. The answer is whether this was the first settlement. -/
def complete (outcome : Outcome α) (c : Channel α) : Run (Bool × Channel α) := do
  let (before, c) := c.swap
  if before then
    log .warn c.warning
    return (false, c)
  else
    let (got, c) := c.take
    return (true, if got then c.send outcome else c)

def succeed (value : α) (c : Channel α) : Run (Bool × Channel α) := c.complete (.ok value)

def fail (cause : HostError) (c : Channel α) : Run (Bool × Channel α) := c.complete (.error cause)

def isSettled (c : Channel α) : Bool := c.settled

def clone (c : Channel α) : Channel α := { c with holders := c.holders + 1 }

/-- Drops one clone. A sender still stored goes with the last one. -/
def drop (c : Channel α) : Channel α :=
  { c with
    holders := c.holders - 1
    sender := if c.holders ≤ 1 ∧ c.sender = .stored then .gone else c.sender }

/-- Asks the future: an outcome that was sent, or a failure once none can come anymore. -/
def poll (c : Channel α) : Poll α :=
  match c.mail with
  | some outcome => .ready outcome
  | none => if c.sender = .gone then .ready (.error (.dropped c.operation)) else .pending

def abandon (c : Channel α) : Channel α := { c with awaited := false, mail := none }

def completeAll (c : Channel α) : List (Outcome α) → Run (Channel α)
  | [] => return c
  | outcome :: rest => do
    let (_, c) ← c.complete outcome
    completeAll c rest

/-- Calls a primitive that settles with `outcomes`, drops the completion, and waits for the result.
    The future is never pending then: what was not sent can no longer come. -/
def await (operation : String) (outcomes : List (Outcome α)) : Run (Outcome α) := do
  let c ← (create operation).completeAll outcomes
  match c.drop.poll with
  | .ready outcome => return outcome
  | .pending => return .error (.dropped operation)

end Channel

end WebFetch
