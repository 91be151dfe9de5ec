import Mathlib.Data.Finset.Card
import Mathlib.Logic.Function.Basic
import Mathlib.Logic.Relation
import WebFetch.Proofs.Completion.Settlement

/-!
Settlements that run at the same time. Any number of threads hold clones of one completion and call
`complete`, each call in its three steps, and between two steps of a call anything else may happen:
steps of other calls, clones that are made and dropped, polls, and the end of the future. A call
that runs keeps its clone, and that is what keeps the sender: the one call that finds the flag down
takes and uses it. So one call at most is accepted, and once it has raised the flag the future gets its
outcome and nothing else.
-/

set_option autoImplicit false

namespace WebFetch.Channel

variable {α : Type}

/-! ## One call, step by step -/

/-- How far a call has come: begun, past the flag that it has raised, past the lock with the sender
    in its hands, or over with its answer. -/
inductive Phase where
  | begun
  | raised
  | holding
  | returned (accepted : Bool)
  deriving DecidableEq

namespace Phase

/-- The call has found the flag down. -/
def won : Phase → Bool
  | .begun => false
  | .raised => true
  | .holding => true
  | .returned accepted => accepted

def finished : Phase → Bool
  | .returned _ => true
  | _ => false

/-- Where the sender is when the call that has won is in this phase. -/
def sender : Phase → Sender
  | .begun => .stored
  | .raised => .stored
  | .holding => .taken
  | .returned _ => .gone

theorem won_of_finished {p : Phase} (won : p.won = true) (finished : p.finished = true) :
    p = .returned true := by
  cases p with
  | begun | raised | holding => cases finished
  | returned accepted =>
    cases won
    rfl

end Phase

/-- The next step of a call. A call that is over stays so. -/
def advance (outcome : Outcome α) (c : Channel α) : Phase → Phase × Channel α
  | .begun =>
    let (before, c) := c.swap
    (if before then .returned false else .raised, c)
  | .raised =>
    let (got, c) := c.take
    (if got then .holding else .returned true, c)
  | .holding => (.returned true, c.send outcome)
  | .returned accepted => (.returned accepted, c)

/-- A call from its beginning with nothing between its steps. -/
def uninterrupted (outcome : Outcome α) (c : Channel α) : Phase × Channel α :=
  let (first, c) := c.advance outcome .begun
  let (second, c) := c.advance outcome first
  c.advance outcome second

/-- The steps are those of `complete`. -/
theorem uninterrupted_eq (outcome : Outcome α) (c : Channel α) (s : Session) :
    c.uninterrupted outcome =
      (.returned (c.complete outcome s).1.1, (c.complete outcome s).1.2) := by
  obtain ⟨operation, settled, sender, holders, mail, awaited⟩ := c
  cases settled with
  | true => rfl
  | false => cases sender <;> rfl

/-! ## Many calls -/

structure Call (α : Type) where
  clone : Nat
  outcome : Outcome α
  phase : Phase

inductive Waiter (α : Type) where
  | waiting
  | resolved (outcome : Outcome α)
  | dropped

/-- A channel with its clones, the calls on them and its future. -/
structure Race (α : Type) where
  channel : Channel α
  clones : Finset Nat
  calls : Nat → Option (Call α)
  waiter : Waiter α

namespace Race

def start (operation : String) : Race α := ⟨create operation, {0}, fun _ => none, .waiting⟩

def enter (w : Race α) (n i : Nat) (outcome : Outcome α) : Race α :=
  { w with calls := Function.update w.calls n (some ⟨i, outcome, .begun⟩) }

def advance (w : Race α) (n : Nat) (call : Call α) : Race α :=
  let (phase, c) := w.channel.advance call.outcome call.phase
  { w with channel := c, calls := Function.update w.calls n (some { call with phase := phase }) }

/-- Asks the future. With an outcome it has resolved for good. -/
def poll (w : Race α) : Race α :=
  match w.channel.poll with
  | .pending => w
  | .ready outcome => { w with channel := w.channel.abandon, waiter := .resolved outcome }

/-- What can happen next. A clone is dropped only while no call runs on it, and a future that has
    resolved is asked no more. -/
inductive Step : Race α → Race α → Prop where
  | clone {w : Race α} {i j : Nat} (held : i ∈ w.clones) (fresh : j ∉ w.clones) :
      Step w { w with channel := w.channel.clone, clones := insert j w.clones }
  | drop {w : Race α} {i : Nat} (held : i ∈ w.clones)
      (free : ∀ n call, w.calls n = some call → call.clone = i → call.phase.finished = true) :
      Step w { w with channel := w.channel.drop, clones := w.clones.erase i }
  | enter {w : Race α} {n i : Nat} (held : i ∈ w.clones) (new : w.calls n = none)
      (outcome : Outcome α) : Step w (w.enter n i outcome)
  | advance {w : Race α} {n : Nat} {call : Call α} (found : w.calls n = some call)
      (running : call.phase.finished = false) : Step w (w.advance n call)
  | poll {w : Race α} (waiting : w.waiter = .waiting) : Step w w.poll
  | abandon {w : Race α} (waiting : w.waiter = .waiting) :
      Step w { w with channel := w.channel.abandon, waiter := .dropped }

def Leads : Race α → Race α → Prop := Relation.ReflTransGen Step

/-! ## What every state keeps -/

/-- Nobody has raised the flag: no call has made a step, and the sender is there as long as there is
    a clone. -/
structure Open (operation : String) (w : Race α) : Prop where
  flag : w.channel.settled = false
  begun : ∀ n call, w.calls n = some call → call.phase = .begun
  sender_eq : w.channel.sender = if w.clones = ∅ then .gone else .stored
  mail_eq : w.channel.mail = none
  resolved : ∀ outcome, w.waiter = .resolved outcome →
    w.clones = ∅ ∧ outcome = .error (.dropped operation)

/-- The one call that has raised the flag carries the sender on its way. -/
structure WonBy (w : Race α) (n : Nat) (call : Call α) : Prop where
  flag : w.channel.settled = true
  found : w.calls n = some call
  won : call.phase.won = true
  only : ∀ m other, w.calls m = some other → other.phase.won = true → m = n
  sender_eq : w.channel.sender = call.phase.sender
  mail_eq : w.channel.mail =
    if call.phase.finished = true ∧ w.channel.awaited = true then some call.outcome else none
  resolved : ∀ outcome, w.waiter = .resolved outcome →
    call.phase.finished = true ∧ outcome = call.outcome

structure Sound (operation : String) (w : Race α) : Prop where
  operation_eq : w.channel.operation = operation
  holders_eq : w.channel.holders = w.clones.card
  awaited_iff : w.channel.awaited = true ↔ w.waiter = .waiting
  borrowed : ∀ n call, w.calls n = some call → call.phase.finished = false → call.clone ∈ w.clones
  stage : w.Open operation ∨ ∃ n call, w.WonBy n call

theorem sound_start (operation : String) : (start operation : Race α).Sound operation := by
  constructor
  · rfl
  · rfl
  · exact ⟨fun _ => rfl, fun _ => rfl⟩
  · intro n call found
    cases found
  · left
    constructor
    · rfl
    · intro n call found
      cases found
    · rfl
    · rfl
    · intro outcome h
      cases h

theorem WonBy.eq {w : Race α} {n m : Nat} {call other : Call α} (h : w.WonBy n call)
    (found : w.calls m = some other) (won : other.phase.won = true) : m = n ∧ other = call := by
  have same := h.only m other found won
  subst same
  exact ⟨rfl, Option.some.inj (found.symm.trans h.found)⟩

/-! ## One step -/

section Step

variable {operation : String} {w : Race α} {n i j : Nat} {call : Call α}

theorem Open.sender_stored (o : w.Open operation) (held : i ∈ w.clones) :
    w.channel.sender = .stored := by
  have some_ : w.clones ≠ ∅ := Finset.ne_empty_of_mem held
  rw [o.sender_eq, if_neg some_]

theorem Open.unresolved (o : w.Open operation) (held : i ∈ w.clones) (outcome : Outcome α) :
    w.waiter ≠ .resolved outcome := by
  intro h
  have none_ := (o.resolved outcome h).1
  simp [none_] at held

theorem Sound.clone (f : w.Sound operation) (held : i ∈ w.clones) (fresh : j ∉ w.clones) :
    Sound operation { w with channel := w.channel.clone, clones := insert j w.clones } := by
  constructor
  · exact f.operation_eq
  · have counted := f.holders_eq
    rw [Finset.card_insert_of_notMem fresh, ← counted]
    rfl
  · exact f.awaited_iff
  · intro n call found running
    exact Finset.mem_insert_of_mem (f.borrowed n call found running)
  · rcases f.stage with o | ⟨n, call, h⟩
    · left
      have stored := o.sender_stored held
      constructor
      · exact o.flag
      · exact o.begun
      · rw [if_neg (Finset.insert_ne_empty j w.clones)]
        exact stored
      · exact o.mail_eq
      · intro outcome resolved
        exact absurd resolved (o.unresolved held outcome)
    · exact .inr ⟨n, call, h.flag, h.found, h.won, h.only, h.sender_eq, h.mail_eq, h.resolved⟩

theorem Sound.last_iff (f : w.Sound operation) (held : i ∈ w.clones) :
    w.channel.holders ≤ 1 ↔ w.clones.erase i = ∅ := by
  have card := Finset.card_erase_of_mem held
  rw [f.holders_eq, ← Finset.card_eq_zero]
  omega

/-- The sender goes with the last clone, which is never dropped under the call that has won. -/
theorem Sound.drop (f : w.Sound operation) (held : i ∈ w.clones)
    (free : ∀ n call, w.calls n = some call → call.clone = i → call.phase.finished = true) :
    Sound operation { w with channel := w.channel.drop, clones := w.clones.erase i } := by
  have kept : ∀ n call, w.calls n = some call → call.phase.finished = false →
      call.clone ∈ w.clones.erase i := by
    intro n call found running
    refine Finset.mem_erase.mpr ⟨fun same => ?_, f.borrowed n call found running⟩
    rw [free n call found same] at running
    cases running
  have last := f.last_iff held
  constructor
  · exact f.operation_eq
  · have counted := f.holders_eq
    rw [Finset.card_erase_of_mem held, ← counted]
    rfl
  · exact f.awaited_iff
  · exact kept
  · rcases f.stage with o | ⟨n, call, h⟩
    · left
      have stored := o.sender_stored held
      constructor
      · exact o.flag
      · exact o.begun
      · simp [Channel.drop, stored, last]
      · exact o.mail_eq
      · intro outcome resolved
        exact absurd resolved (o.unresolved held outcome)
    · refine .inr ⟨n, call, h.flag, h.found, h.won, h.only, ?_, h.mail_eq, h.resolved⟩
      -- With the last clone the call that has won would lose the clone that it runs on.
      have same : ¬ (w.channel.holders ≤ 1 ∧ w.channel.sender = .stored) := by
        rintro ⟨few, stored⟩
        rw [h.sender_eq] at stored
        cases hp : call.phase with
        | begun =>
          have won := h.won
          rw [hp] at won
          cases won
        | raised =>
          have other := kept n call h.found (by rw [hp]; rfl)
          rw [last.mp few] at other
          simp at other
        | holding | returned accepted =>
          rw [hp] at stored
          cases stored
      change (if w.channel.holders ≤ 1 ∧ w.channel.sender = .stored then Sender.gone
        else w.channel.sender) = _
      rw [if_neg same]
      exact h.sender_eq

/-! ### Calls -/

theorem WonBy.update_other {m : Nat} {winner : Call α} (h : w.WonBy m winner) (other : m ≠ n)
    (lost : call.phase.won = false) :
    WonBy { w with calls := Function.update w.calls n (some call) } m winner := by
  refine ⟨h.flag, ?_, h.won, ?_, h.sender_eq, h.mail_eq, h.resolved⟩
  · change Function.update w.calls n (some call) m = some winner
    rw [Function.update_of_ne other]
    exact h.found
  · intro k third found won
    change Function.update w.calls n (some call) k = some third at found
    by_cases same : k = n
    · rw [same, Function.update_self] at found
      cases found
      rw [lost] at won
      cases won
    · rw [Function.update_of_ne same] at found
      exact h.only k third found won

theorem Sound.enter (f : w.Sound operation) (held : i ∈ w.clones) (new : w.calls n = none)
    (outcome : Outcome α) : Sound operation (w.enter n i outcome) := by
  refine ⟨f.operation_eq, f.holders_eq, f.awaited_iff, ?_, ?_⟩
  · intro m call found running
    change Function.update w.calls n _ m = some call at found
    by_cases same : m = n
    · rw [same, Function.update_self] at found
      cases found
      exact held
    · rw [Function.update_of_ne same] at found
      exact f.borrowed m call found running
  · rcases f.stage with o | ⟨m, winner, h⟩
    · left
      refine ⟨o.flag, ?_, o.sender_eq, o.mail_eq, o.resolved⟩
      intro m call found
      change Function.update w.calls n _ m = some call at found
      by_cases same : m = n
      · rw [same, Function.update_self] at found
        cases found
        rfl
      · rw [Function.update_of_ne same] at found
        exact o.begun m call found
    · right
      have other : m ≠ n := by
        rintro rfl
        cases h.found.symm.trans new
      exact ⟨m, winner, h.update_other other rfl⟩

theorem Sound.borrowed_update (f : w.Sound operation) (found : w.calls n = some call)
    (running : call.phase.finished = false) (p : Phase) (m : Nat) (other : Call α)
    (there : Function.update w.calls n (some { call with phase := p }) m = some other)
    (open_ : other.phase.finished = false) : other.clone ∈ w.clones := by
  by_cases same : m = n
  · rw [same, Function.update_self] at there
    cases there
    exact f.borrowed n call found running
  · rw [Function.update_of_ne same] at there
    exact f.borrowed m other there open_

theorem only_update {p : Phase}
    (only : ∀ m other, w.calls m = some other → other.phase.won = true → m = n) (m : Nat)
    (other : Call α)
    (there : Function.update w.calls n (some { call with phase := p }) m = some other)
    (won : other.phase.won = true) : m = n := by
  by_cases same : m = n
  · exact same
  · rw [Function.update_of_ne same] at there
    exact only m other there won

theorem advance_lost (begun : call.phase = .begun) (flag : w.channel.settled = true) :
    w.advance n call =
      { w with
        calls := Function.update w.calls n (some { call with phase := .returned false }) } := by
  obtain ⟨⟨operation, settled, sender, holders, mail, awaited⟩, clones, calls, waiter⟩ := w
  cases flag
  simp [advance, Channel.advance, begun, swap]

theorem advance_won (begun : call.phase = .begun) (flag : w.channel.settled = false) :
    w.advance n call =
      { w with
        channel := { w.channel with settled := true }
        calls := Function.update w.calls n (some { call with phase := .raised }) } := by
  simp [advance, Channel.advance, begun, swap, flag]

theorem advance_raised (raised : call.phase = .raised) (stored : w.channel.sender = .stored) :
    w.advance n call =
      { w with
        channel := { w.channel with sender := .taken }
        calls := Function.update w.calls n (some { call with phase := .holding }) } := by
  simp [advance, Channel.advance, raised, take, stored]

theorem advance_holding (holding : call.phase = .holding) :
    w.advance n call =
      { w with
        channel := w.channel.send call.outcome
        calls := Function.update w.calls n (some { call with phase := .returned true }) } := by
  simp [advance, Channel.advance, holding]

/-- The first step: the flag is up already and the call is over, or the call has won. -/
theorem Sound.advance_begun (f : w.Sound operation) (found : w.calls n = some call)
    (begun : call.phase = .begun) : Sound operation (w.advance n call) := by
  have running : call.phase.finished = false := by rw [begun]; rfl
  rcases f.stage with o | ⟨m, winner, h⟩
  · have held := f.borrowed n call found running
    rw [advance_won begun o.flag]
    refine ⟨f.operation_eq, f.holders_eq, f.awaited_iff, f.borrowed_update found running .raised,
      .inr ⟨n, { call with phase := .raised }, ?_⟩⟩
    constructor
    · rfl
    · exact Function.update_self n _ w.calls
    · rfl
    · refine only_update fun m other there won => ?_
      rw [o.begun m other there] at won
      cases won
    · exact o.sender_stored held
    · exact o.mail_eq
    · intro outcome resolved
      exact absurd resolved (o.unresolved held outcome)
  · rw [advance_lost begun h.flag]
    refine ⟨f.operation_eq, f.holders_eq, f.awaited_iff,
      f.borrowed_update found running (.returned false), .inr ⟨m, winner, h.update_other ?_ rfl⟩⟩
    rintro rfl
    have won := h.won
    cases h.found.symm.trans found
    rw [begun] at won
    cases won

/-- A call past the flag is the one that has won. -/
theorem Sound.wonBy (f : w.Sound operation) (found : w.calls n = some call)
    (won : call.phase.won = true) : w.WonBy n call := by
  rcases f.stage with o | ⟨m, winner, h⟩
  · rw [o.begun n call found] at won
    cases won
  · obtain ⟨rfl, rfl⟩ := h.eq found won
    exact h

theorem WonBy.unresolved (h : w.WonBy n call) (running : call.phase.finished = false)
    (outcome : Outcome α) : w.waiter ≠ .resolved outcome := by
  intro resolved
  have finished := (h.resolved outcome resolved).1
  rw [running] at finished
  cases finished

theorem Sound.advance_raised (f : w.Sound operation) (found : w.calls n = some call)
    (raised : call.phase = .raised) : Sound operation (w.advance n call) := by
  have running : call.phase.finished = false := by rw [raised]; rfl
  have h := f.wonBy found (by rw [raised]; rfl)
  have stored : w.channel.sender = .stored := by rw [h.sender_eq, raised]; rfl
  have mail : w.channel.mail = none := by rw [h.mail_eq, running]; rfl
  rw [Race.advance_raised raised stored]
  refine ⟨f.operation_eq, f.holders_eq, f.awaited_iff, f.borrowed_update found running .holding,
    .inr ⟨n, { call with phase := .holding }, ?_⟩⟩
  constructor
  · exact h.flag
  · exact Function.update_self n _ w.calls
  · rfl
  · exact only_update h.only
  · rfl
  · exact mail
  · intro outcome resolved
    exact absurd resolved (h.unresolved running outcome)

theorem Sound.advance_holding (f : w.Sound operation) (found : w.calls n = some call)
    (holding : call.phase = .holding) : Sound operation (w.advance n call) := by
  have running : call.phase.finished = false := by rw [holding]; rfl
  have h := f.wonBy found (by rw [holding]; rfl)
  rw [Race.advance_holding holding]
  refine ⟨f.operation_eq, f.holders_eq, f.awaited_iff,
    f.borrowed_update found running (.returned true),
    .inr ⟨n, { call with phase := .returned true }, ?_⟩⟩
  constructor
  · exact h.flag
  · exact Function.update_self n _ w.calls
  · rfl
  · exact only_update h.only
  · rfl
  · simp [Channel.send, Phase.finished]
  · intro outcome resolved
    exact absurd resolved (h.unresolved running outcome)

theorem Sound.advance (f : w.Sound operation) (found : w.calls n = some call)
    (running : call.phase.finished = false) : Sound operation (w.advance n call) := by
  cases hp : call.phase with
  | begun => exact f.advance_begun found hp
  | raised => exact f.advance_raised found hp
  | holding => exact f.advance_holding found hp
  | returned accepted =>
    rw [hp] at running
    cases running

/-! ### The future -/

theorem Sound.poll_open (f : w.Sound operation) (o : w.Open operation) :
    w.channel.poll = if w.clones = ∅ then .ready (.error (.dropped operation)) else .pending := by
  have sender := o.sender_eq
  by_cases none_ : w.clones = ∅
  · rw [if_pos none_] at sender ⊢
    rw [poll_of_gone o.mail_eq sender, f.operation_eq]
  · rw [if_neg none_] at sender ⊢
    exact poll_of_not_gone o.mail_eq (by rw [sender]; decide)

theorem WonBy.poll_eq (h : w.WonBy n call) (awaited : w.channel.awaited = true) :
    w.channel.poll = if call.phase.finished = true then .ready call.outcome else .pending := by
  have mail := h.mail_eq
  by_cases finished : call.phase.finished = true
  · rw [if_pos ⟨finished, awaited⟩] at mail
    rw [if_pos finished, poll_of_mail mail]
  · rw [if_neg fun both => finished both.1] at mail
    rw [if_neg finished]
    refine poll_of_not_gone mail ?_
    rw [h.sender_eq]
    cases hp : call.phase with
    | begun | raised | holding => decide
    | returned accepted =>
      rw [hp] at finished
      exact absurd rfl finished

/-- The future ends: it has resolved with what it was answered, or it was dropped. -/
theorem Sound.ended (f : w.Sound operation) (waiting : w.waiter = .waiting) {waiter : Waiter α}
    (ended : waiter ≠ .waiting)
    (answered : ∀ outcome, waiter = .resolved outcome → w.channel.poll = .ready outcome) :
    Sound operation { w with channel := w.channel.abandon, waiter := waiter } := by
  refine ⟨f.operation_eq, f.holders_eq, ?_, f.borrowed, ?_⟩
  · exact ⟨fun h => Bool.noConfusion h, fun h => absurd h ended⟩
  · rcases f.stage with o | ⟨n, call, h⟩
    · left
      refine ⟨o.flag, o.begun, o.sender_eq, rfl, fun outcome resolved => ?_⟩
      have polled := (f.poll_open o).symm.trans (answered outcome resolved)
      by_cases none_ : w.clones = ∅
      · rw [if_pos none_] at polled
        cases polled
        exact ⟨none_, rfl⟩
      · rw [if_neg none_] at polled
        cases polled
    · right
      refine ⟨n, call, h.flag, h.found, h.won, h.only, h.sender_eq, ?_, fun outcome resolved => ?_⟩
      · simp [Channel.abandon]
      · have asked := h.poll_eq (f.awaited_iff.mpr waiting)
        have polled := asked.symm.trans (answered outcome resolved)
        by_cases finished : call.phase.finished = true
        · rw [if_pos finished] at polled
          cases polled
          exact ⟨finished, rfl⟩
        · rw [if_neg finished] at polled
          cases polled

theorem Sound.poll (f : w.Sound operation) (waiting : w.waiter = .waiting) :
    Sound operation w.poll := by
  unfold Race.poll
  cases polled : w.channel.poll with
  | pending => exact f
  | ready outcome =>
    refine f.ended waiting (by simp) fun other h => ?_
    cases h
    exact polled

theorem Sound.step {w' : Race α} (f : w.Sound operation) (step : Step w w') :
    w'.Sound operation := by
  cases step with
  | clone held fresh => exact f.clone held fresh
  | drop held free => exact f.drop held free
  | enter held new outcome => exact f.enter held new outcome
  | advance found running => exact f.advance found running
  | poll waiting => exact f.poll waiting
  | abandon waiting => exact f.ended waiting (by simp) (by simp)

/-- What was won stays won, and a call keeps its outcome. -/
theorem Step.won {w' : Race α} (step : Step w w') (found : w.calls n = some call)
    (won : call.phase.won = true) :
    ∃ later, w'.calls n = some later ∧ later.phase.won = true ∧ later.outcome = call.outcome := by
  cases step with
  | clone | drop | abandon => exact ⟨call, found, won, rfl⟩
  | poll =>
    refine ⟨call, ?_, won, rfl⟩
    unfold Race.poll
    split
    · exact found
    · exact found
  | @enter m _ _ new _ =>
    have other : n ≠ m := by
      rintro rfl
      cases found.symm.trans new
    refine ⟨call, ?_, won, rfl⟩
    exact (Function.update_of_ne other _ w.calls).trans found
  | @advance m moving there running =>
    by_cases same : n = m
    · subst same
      cases found.symm.trans there
      refine ⟨_, Function.update_self n _ w.calls, ?_, rfl⟩
      cases hp : call.phase with
      | begun =>
        rw [hp] at won
        cases won
      | raised =>
        by_cases stored : w.channel.sender = .stored
        · simp [take, stored, Phase.won]
        · simp [take, stored, Phase.won]
      | holding => rfl
      | returned accepted =>
        rw [hp] at running
        cases running
    · exact ⟨call, (Function.update_of_ne same _ w.calls).trans found, won, rfl⟩

end Step

/-! ## Runs -/

theorem Leads.sound {operation : String} {w w' : Race α} (later : w.Leads w')
    (f : w.Sound operation) : w'.Sound operation := by
  induction later with
  | refl => exact f
  | tail _ step ih => exact ih.step step

theorem Leads.won {w w' : Race α} {n : Nat} {call : Call α} (later : w.Leads w')
    (found : w.calls n = some call) (won : call.phase.won = true) :
    ∃ last, w'.calls n = some last ∧ last.phase.won = true ∧ last.outcome = call.outcome := by
  induction later with
  | refl => exact ⟨call, found, won, rfl⟩
  | tail _ step ih =>
    obtain ⟨before, found, won, same⟩ := ih
    obtain ⟨last, found, won, same'⟩ := step.won found won
    exact ⟨last, found, won, same'.trans same⟩

section Sound

variable {operation : String} {w w' : Race α} {n m : Nat} {call other : Call α}

theorem Sound.eq_of_accepted (f : w.Sound operation) (found : w.calls n = some call)
    (found' : w.calls m = some other) (accepted : call.phase = .returned true)
    (accepted' : other.phase = .returned true) : n = m := by
  have h := f.wonBy found' (by rw [accepted']; rfl)
  exact h.only n call found (by rw [accepted]; rfl)

/-- A call that has won is the only one that the future can hear of from then on. -/
theorem Leads.heard (later : w.Leads w') (f : w.Sound operation) (found : w.calls n = some call)
    (won : call.phase.won = true) :
    (∀ outcome, w'.waiter = .resolved outcome → outcome = call.outcome) ∧
      (w'.waiter = .waiting →
        w'.channel.poll = .pending ∨ w'.channel.poll = .ready call.outcome) := by
  obtain ⟨last, found, won, same⟩ := later.won found won
  have f' := later.sound f
  have h := f'.wonBy found won
  rw [← same]
  constructor
  · intro outcome resolved
    exact (h.resolved outcome resolved).2
  · intro waiting
    rw [h.poll_eq (f'.awaited_iff.mpr waiting)]
    by_cases finished : last.phase.finished = true
    · exact .inr (if_pos finished)
    · exact .inl (if_neg finished)

/-- Without clones nobody has begun a call as long as the flag is down. -/
theorem Open.calls_eq_none (o : w.Open operation) (f : w.Sound operation) (none_ : w.clones = ∅)
    (n : Nat) : w.calls n = none := by
  cases found : w.calls n with
  | none => rfl
  | some call =>
    have held := f.borrowed n call found (by rw [o.begun n call found]; rfl)
    rw [none_] at held
    simp at held

theorem Sound.resolved (f : w.Sound operation) {outcome : Outcome α}
    (resolved : w.waiter = .resolved outcome) :
    (∃ n call, w.calls n = some call ∧ call.phase = .returned true ∧ outcome = call.outcome) ∨
      ((∀ n, w.calls n = none) ∧ w.clones = ∅ ∧ outcome = .error (.dropped operation)) := by
  rcases f.stage with o | ⟨n, call, h⟩
  · obtain ⟨none_, dropped⟩ := o.resolved outcome resolved
    exact .inr ⟨o.calls_eq_none f none_, none_, dropped⟩
  · obtain ⟨finished, same⟩ := h.resolved outcome resolved
    exact .inl ⟨n, call, h.found, Phase.won_of_finished h.won finished, same⟩

/-- When there were calls and all are over, the flag is up and its call was accepted. -/
theorem Sound.accepted_of_finished (f : w.Sound operation) (made : w.calls n ≠ none)
    (finished : ∀ n call, w.calls n = some call → call.phase.finished = true) :
    ∃ m winner, w.WonBy m winner ∧ winner.phase = .returned true := by
  rcases f.stage with o | ⟨m, winner, h⟩
  · obtain ⟨call, found⟩ := Option.ne_none_iff_exists'.mp made
    have ended := finished n call found
    rw [o.begun n call found] at ended
    cases ended
  · exact ⟨m, winner, h, Phase.won_of_finished h.won (finished m winner h.found)⟩

theorem WonBy.delivered (h : w.WonBy n call) (f : w.Sound operation)
    (accepted : call.phase = .returned true) :
    w.waiter = .dropped ∨ w.waiter = .resolved call.outcome ∨
      w.waiter = .waiting ∧ w.channel.poll = .ready call.outcome := by
  cases waiter : w.waiter with
  | dropped => exact .inl rfl
  | resolved outcome =>
    rw [(h.resolved outcome waiter).2]
    exact .inr (.inl rfl)
  | waiting =>
    rw [h.poll_eq (f.awaited_iff.mpr waiter), accepted]
    exact .inr (.inr ⟨rfl, rfl⟩)

end Sound

/-- However the steps of the calls run into each other and into all else, one call at most is
    accepted. As soon as a call has raised the flag, the future resolves with the outcome of this
    call alone, and is pending until then, so that it does not fail for want of a sender. What it
    has resolved with is the outcome of the accepted call, unless all clones went without a call.
    And when calls were made and all of them are over, one was accepted, and a future that is still
    there has its outcome or gets it when it is asked. -/
theorem one_call_settles {operation : String} {w : Race α}
    (run : (start operation : Race α).Leads w) :
    (∀ (outcome : Outcome α) (c : Channel α) (s : Session), c.uninterrupted outcome =
      (.returned (c.complete outcome s).1.1, (c.complete outcome s).1.2)) ∧
    (∀ n m first second, w.calls n = some first → w.calls m = some second →
      first.phase = .returned true → second.phase = .returned true → n = m) ∧
    (∀ n call, w.calls n = some call → call.phase.won = true → ∀ w', w.Leads w' →
      (∀ outcome, w'.waiter = .resolved outcome → outcome = call.outcome) ∧
      (w'.waiter = .waiting → w'.channel.poll = .pending ∨ w'.channel.poll = .ready call.outcome)) ∧
    (∀ outcome, w.waiter = .resolved outcome →
      (∃ n call, w.calls n = some call ∧ call.phase = .returned true ∧ outcome = call.outcome) ∨
      ((∀ n, w.calls n = none) ∧ w.clones = ∅ ∧ outcome = .error (.dropped operation))) ∧
    ((∃ n, w.calls n ≠ none) → (∀ n call, w.calls n = some call → call.phase.finished = true) →
      ∃ n call, w.calls n = some call ∧ call.phase = .returned true ∧
        (w.waiter = .dropped ∨ w.waiter = .resolved call.outcome ∨
          w.waiter = .waiting ∧ w.channel.poll = .ready call.outcome)) := by
  have f := run.sound (sound_start operation)
  refine ⟨uninterrupted_eq, ?_, ?_, ?_, ?_⟩
  · intro n m first second found found' accepted accepted'
    exact f.eq_of_accepted found found' accepted accepted'
  · intro n call found won w' later
    exact later.heard f found won
  · intro outcome resolved
    exact f.resolved resolved
  · rintro ⟨n, made⟩ finished
    obtain ⟨m, winner, h, accepted⟩ := f.accepted_of_finished made finished
    exact ⟨m, winner, h.found, accepted, h.delivered f accepted⟩

/-- The second call comes between the flag and the sender of the first; then its clone goes, and the
    other clone too before the future is asked. -/
theorem one_call_settles_of_two :
    ∃ w : Race Nat, (start "decode").Leads w ∧ w.clones = ∅ ∧
      w.calls 0 = some ⟨0, .ok 1, .returned true⟩ ∧
      w.calls 1 = some ⟨1, .ok 2, .returned false⟩ ∧ w.waiter = .waiting ∧
      w.channel.poll = .ready (.ok 1) ∧
      ∀ w', w.Leads w' → ∀ outcome, w'.waiter = .resolved outcome → outcome = .ok 1 := by
  have r1 := Relation.ReflTransGen.single
    (Step.clone (w := (start "decode" : Race Nat)) (i := 0) (j := 1) (by decide) (by decide))
  have r2 := r1.tail (.enter (n := 0) (i := 0) (by decide) rfl (.ok 1))
  have r3 := r2.tail (.enter (n := 1) (i := 1) (by decide) rfl (.ok 2))
  have raised := r3.tail (.advance (n := 0) rfl rfl)
  have lost := raised.tail (.advance (n := 1) rfl rfl)
  have dropped := lost.tail (.drop (i := 1) (by decide) fun n call found on => by
    rcases n with _ | _ | n
    · cases found
      cases on
    · cases found
      rfl
    · cases found)
  have asked := dropped.tail (.poll rfl)
  have taken := asked.tail (.advance (n := 0) rfl rfl)
  have sent := taken.tail (.advance (n := 0) rfl rfl)
  have run := sent.tail (.drop (i := 0) (by decide) fun n call found on => by
    rcases n with _ | _ | n
    · cases found
      rfl
    · cases found
      cases on
    · cases found)
  refine ⟨_, run, by decide, rfl, rfl, rfl, rfl, ?_⟩
  intro w' later
  exact ((one_call_settles run).2.2.1 0 _ rfl rfl w' later).1

end Race

end WebFetch.Channel
