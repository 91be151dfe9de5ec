import WebFetch.Proofs.Completion.Settlement

/-!
A channel in the hands of a host that does with it what it likes. The clones of the completion are
settled, cloned, asked and dropped, and the future is asked and dropped, in any order. What each
action answers is a matter of the actions before it: the first settlement is the only one that
counts, whether or not anybody waits for it, and the future gets it whatever became of the clones.
-/

set_option autoImplicit false

namespace WebFetch.Channel

variable {α : Type}

/-- What the owners of the clones and the owner of the future can do. -/
inductive Action (α : Type) where
  | complete (outcome : Outcome α)
  | succeed (value : α)
  | fail (cause : HostError)
  | clone
  | drop
  | isSettled
  | poll
  | abandon

def Action.outcome? : Action α → Option (Outcome α)
  | .complete outcome => some outcome
  | .succeed value => some (.ok value)
  | .fail cause => some (.error cause)
  | _ => none

inductive Answer (α : Type) where
  | settlement (accepted : Bool)
  | settled (flag : Bool)
  | polled (poll : Poll α)
  | done

/-- A future is asked until it has resolved, and all else but dropping it needs a clone. -/
def Allows (c : Channel α) : Action α → Prop
  | .poll => c.awaited = true
  | .abandon => True
  | _ => 0 < c.holders

def act (c : Channel α) : Action α → Run (Answer α × Channel α)
  | .complete outcome => do
    let (accepted, c) ← c.complete outcome
    return (.settlement accepted, c)
  | .succeed value => do
    let (accepted, c) ← c.succeed value
    return (.settlement accepted, c)
  | .fail cause => do
    let (accepted, c) ← c.fail cause
    return (.settlement accepted, c)
  | .clone => return (.done, c.clone)
  | .drop => return (.done, c.drop)
  | .isSettled => return (.settled c.isSettled, c)
  | .poll =>
    match c.poll with
    | .pending => return (.polled .pending, c)
    -- A future that has resolved is used up.
    | .ready outcome => return (.polled (.ready outcome), c.abandon)
  | .abandon => return (.done, c.abandon)

/-- The actions that have led from a new channel to this one. Between two of them anything may
    happen to the session. -/
inductive Reaches (operation : String) : List (Action α) → Channel α → Prop where
  | create : Reaches operation [] (create operation)
  | act {history : List (Action α)} {c : Channel α} (before : Reaches operation history c)
      (a : Action α) (allowed : c.Allows a) (s : Session) :
      Reaches operation (history ++ [a]) (c.act a s).1.2

/-! ## What a history says -/

def firstSettlement (history : List (Action α)) : Option (Outcome α) :=
  history.findSome? Action.outcome?

/-- The clones that are held: one to begin with, one more for each clone, one less for each drop. -/
def held (history : List (Action α)) : Nat :=
  history.foldl
    (fun n a => match a with
      | .clone => n + 1
      | .drop => n - 1
      | _ => n)
    1

/-- What the future answers after a history, as long as it is unresolved. -/
def expected (operation : String) (history : List (Action α)) : Poll α :=
  match firstSettlement history with
  | some outcome => .ready outcome
  | none => if held history = 0 then .ready (.error (.dropped operation)) else .pending

theorem firstSettlement_concat (history : List (Action α)) (a : Action α) :
    firstSettlement (history ++ [a]) = (firstSettlement history).or a.outcome? := by
  rw [firstSettlement, List.findSome?_append, List.findSome?_singleton]
  rfl

theorem held_concat (history : List (Action α)) (a : Action α) :
    held (history ++ [a]) =
      match a with
      | .clone => held history + 1
      | .drop => held history - 1
      | _ => held history := by
  rw [held, List.foldl_append]
  rfl

/-! ## What every state keeps -/

/-- How the flag, the sender and the mail of a channel follow from its history. The sender is never
    seen between a completion and the future: a call that takes it also uses it. -/
structure Follows (operation : String) (history : List (Action α)) (c : Channel α) : Prop where
  operation_eq : c.operation = operation
  settled_eq : c.settled = (firstSettlement history).isSome
  holders_eq : c.holders = held history
  sender_eq : c.sender =
    if (firstSettlement history).isSome ∨ held history = 0 then .gone else .stored
  mail_eq : c.mail = if c.awaited then firstSettlement history else none

theorem follows_create (operation : String) :
    Follows operation [] (create operation : Channel α) :=
  ⟨rfl, rfl, rfl, rfl, rfl⟩

theorem act_settlement {a : Action α} {outcome : Outcome α} (h : a.outcome? = some outcome)
    (c : Channel α) (s : Session) :
    c.act a s =
      ((.settlement (c.complete outcome s).1.1, (c.complete outcome s).1.2),
        (c.complete outcome s).2) := by
  cases a with
  | complete o | succeed v | fail e =>
    cases h
    rfl
  | clone | drop | isSettled | poll | abandon => cases h

theorem holders_pos_of_settlement {a : Action α} {outcome : Outcome α}
    (h : a.outcome? = some outcome) {c : Channel α} (allowed : c.Allows a) : 0 < c.holders := by
  cases a with
  | complete o | succeed v | fail e => exact allowed
  | clone | drop | isSettled | poll | abandon => cases h

theorem held_settlement {a : Action α} {outcome : Outcome α} (h : a.outcome? = some outcome)
    (history : List (Action α)) : held (history ++ [a]) = held history := by
  rw [held_concat]
  cases a with
  | complete o | succeed v | fail e => rfl
  | clone | drop | isSettled | poll | abandon => cases h

namespace Follows

variable {operation : String} {history : List (Action α)} {c : Channel α}

theorem sender_stored (f : Follows operation history c) (h : firstSettlement history = none)
    (hc : 0 < c.holders) : c.sender = .stored := by
  rw [f.holders_eq] at hc
  rw [f.sender_eq, h, if_neg]
  rintro (hs | hz)
  · cases hs
  · omega

theorem poll_eq (f : Follows operation history c) (h : c.awaited = true) :
    c.poll = expected operation history := by
  have hm := f.mail_eq
  rw [if_pos h] at hm
  cases hf : firstSettlement history with
  | some outcome => rw [expected, hf, poll_of_mail (hm.trans hf)]
  | none =>
    have hs := f.sender_eq
    simp only [hf, Option.isSome_none, Bool.false_eq_true, false_or] at hs
    rw [expected, hf]
    by_cases hz : held history = 0
    · rw [if_pos hz] at hs
      rw [poll_of_gone (hm.trans hf) hs, f.operation_eq, if_pos hz]
    · rw [if_neg hz] at hs
      rw [poll_of_not_gone (hm.trans hf) (by rw [hs]; decide), if_neg hz]

theorem act_repeated (f : Follows operation history c) {a : Action α} {outcome first : Outcome α}
    (ha : a.outcome? = some outcome) (h : firstSettlement history = some first) (s : Session) :
    c.act a s = ((.settlement false, c), s.note [repeated operation]) := by
  have settled : c.settled = true := by rw [f.settled_eq, h]; rfl
  rw [act_settlement ha, complete_of_settled settled, f.operation_eq]

theorem act_first (f : Follows operation history c) {a : Action α} {outcome : Outcome α}
    (ha : a.outcome? = some outcome) (h : firstSettlement history = none) (allowed : c.Allows a)
    (s : Session) :
    c.act a s = ((.settlement true, { c with
      settled := true
      sender := .gone
      mail := if c.awaited then some outcome else none }), s) := by
  have open_ : c.settled = false := by rw [f.settled_eq, h]; rfl
  have stored := f.sender_stored h (holders_pos_of_settlement ha allowed)
  rw [act_settlement ha, complete_of_stored open_ stored]

/-! ## One step -/

theorem settlement (f : Follows operation history c) {a : Action α} {outcome : Outcome α}
    (ha : a.outcome? = some outcome) (allowed : c.Allows a) (s : Session) :
    Follows operation (history ++ [a]) (c.act a s).1.2 := by
  have hh := held_settlement ha history
  have hf := firstSettlement_concat history a
  -- A later settlement changes nothing, the first one sets the flag and spends the sender.
  cases h : firstSettlement history with
  | some first =>
    rw [h, Option.some_or, ← h] at hf
    rw [f.act_repeated ha h]
    constructor
    · exact f.operation_eq
    · rw [hf]; exact f.settled_eq
    · rw [hh]; exact f.holders_eq
    · rw [hf, hh]; exact f.sender_eq
    · rw [hf]; exact f.mail_eq
  | none =>
    rw [h, Option.none_or, ha] at hf
    rw [f.act_first ha h allowed]
    constructor
    · exact f.operation_eq
    · rw [hf]; rfl
    · rw [hh]; exact f.holders_eq
    · rw [hf]; exact (if_pos (.inl rfl)).symm
    · rw [hf]

theorem firstSettlement_other (history : List (Action α)) {a : Action α} (ha : a.outcome? = none) :
    firstSettlement (history ++ [a]) = firstSettlement history := by
  rw [firstSettlement_concat, ha, Option.or_none]

theorem clone (f : Follows operation history c) (allowed : 0 < c.holders) :
    Follows operation (history ++ [.clone]) c.clone := by
  have hf := firstSettlement_other history (a := .clone) rfl
  have hh := held_concat history .clone
  rw [f.holders_eq] at allowed
  constructor
  · exact f.operation_eq
  · rw [hf]; exact f.settled_eq
  · rw [hh]; exact congrArg (· + 1) f.holders_eq
  · have hs := f.sender_eq
    simp only [Nat.ne_of_gt allowed, or_false] at hs
    simp only [hf, hh, Nat.succ_ne_zero, or_false]
    exact hs
  · rw [hf]; exact f.mail_eq

theorem drop (f : Follows operation history c) (allowed : 0 < c.holders) :
    Follows operation (history ++ [.drop]) c.drop := by
  have hf := firstSettlement_other history (a := .drop) rfl
  have hh := held_concat history .drop
  have hc := f.holders_eq
  have hs := f.sender_eq
  constructor
  · exact f.operation_eq
  · rw [hf]; exact f.settled_eq
  · rw [hh]; exact congrArg (· - 1) hc
  · rw [hf, hh]
    change (if c.holders ≤ 1 ∧ c.sender = .stored then Sender.gone else c.sender) = _
    -- The sender goes with the last clone only if no settlement has taken it before.
    cases h : firstSettlement history with
    | some first =>
      rw [h, if_pos (.inl rfl)] at hs
      rw [hs, if_neg (fun both => Sender.noConfusion both.2), if_pos (.inl rfl)]
    | none =>
      have stored := f.sender_stored h allowed
      have last : c.holders ≤ 1 ↔ held history - 1 = 0 := by omega
      simp only [stored, last, and_true, Option.isSome_none, Bool.false_eq_true, false_or]
  · rw [hf]; exact f.mail_eq

theorem abandon (f : Follows operation history c) : Follows operation history c.abandon :=
  ⟨f.operation_eq, f.settled_eq, f.holders_eq, f.sender_eq, rfl⟩

theorem poll (f : Follows operation history c) (s : Session) :
    Follows operation history (c.act .poll s).1.2 := by
  unfold act
  cases c.poll with
  | pending => exact f
  | ready outcome => exact f.abandon

theorem extend (f : Follows operation history c) {a : Action α} (ha : a.outcome? = none)
    (hh : held (history ++ [a]) = held history) : Follows operation (history ++ [a]) c := by
  have hf := firstSettlement_other history ha
  constructor
  · exact f.operation_eq
  · rw [hf]; exact f.settled_eq
  · rw [hh]; exact f.holders_eq
  · rw [hf, hh]; exact f.sender_eq
  · rw [hf]; exact f.mail_eq

theorem act (f : Follows operation history c) (a : Action α) (allowed : c.Allows a) (s : Session) :
    Follows operation (history ++ [a]) (c.act a s).1.2 := by
  cases a with
  | complete o | succeed v | fail e => exact f.settlement rfl allowed s
  | clone => exact f.clone allowed
  | drop => exact f.drop allowed
  | isSettled => exact f.extend rfl (held_concat history .isSettled)
  | poll => exact (f.poll s).extend rfl (held_concat history .poll)
  | abandon => exact f.abandon.extend rfl (held_concat history .abandon)

end Follows

/-! ## Runs -/

theorem Reaches.follows {operation : String} {history : List (Action α)} {c : Channel α}
    (run : Reaches operation history c) : Follows operation history c := by
  induction run with
  | create => exact follows_create operation
  | act _ a allowed s ih => exact ih.act a allowed s

/-- Only a settlement that comes too late is written to the log. -/
theorem act_of_no_settlement {a : Action α} (h : a.outcome? = none) (c : Channel α) (s : Session) :
    (c.act a s).2 = s := by
  cases a with
  | complete o | succeed v | fail e => cases h
  | clone | drop | isSettled | abandon => rfl
  | poll =>
    unfold act
    cases c.poll with
    | pending => rfl
    | ready outcome => rfl

theorem act_poll (c : Channel α) (s : Session) : (c.act .poll s).1.1 = .polled c.poll := by
  unfold act
  cases c.poll with
  | pending => rfl
  | ready outcome => rfl

/-- After every run of actions the first settlement is accepted, and each later one is refused,
    reported once and without effect. The flag is up if there was a settlement. A future that has
    not resolved yet gets the first settlement; without one it fails as soon as no clone is left,
    and is pending as long as there is one. -/
theorem first_settlement_decides {operation : String} {history : List (Action α)} {c : Channel α}
    (run : Reaches operation history c) (a : Action α) (allowed : c.Allows a) (s : Session) :
    (∀ outcome, a.outcome? = some outcome → firstSettlement history = none →
      (c.act a s).1.1 = .settlement true ∧ (c.act a s).2 = s) ∧
    (∀ outcome first, a.outcome? = some outcome → firstSettlement history = some first →
      c.act a s = ((.settlement false, c), s.note [repeated operation])) ∧
    (a = .isSettled → c.act a s = ((.settled (firstSettlement history).isSome, c), s)) ∧
    (a = .poll → (c.act a s).1.1 = .polled (expected operation history)) ∧
    (a.outcome? = none → (c.act a s).2 = s) := by
  have f := run.follows
  refine ⟨?_, ?_, ?_, ?_, ?_⟩
  · intro outcome ha h
    rw [f.act_first ha h allowed]
    exact ⟨rfl, rfl⟩
  · intro outcome first ha h
    exact f.act_repeated ha h s
  · rintro rfl
    rw [← f.settled_eq]
    rfl
  · rintro rfl
    rw [act_poll, f.poll_eq allowed]
  · intro h
    exact act_of_no_settlement h c s

/-- The one clone that is left settles twice and goes before the future is asked. -/
theorem first_settlement_decides_after_drop :
    let c : Channel Nat := ⟨"decode", true, .gone, 0, some (.ok 1), true⟩
    Reaches "decode" [.clone, .drop, .succeed 1, .succeed 2, .drop] c ∧ c.Allows .poll ∧
      (c.act .poll Session.empty).1.1 = .polled (.ready (.ok 1)) := by
  have r1 : Reaches "decode" [] (create "decode" : Channel Nat) := .create
  have r2 := r1.act .clone (Nat.succ_pos _) Session.empty
  have r3 := r2.act .drop (Nat.succ_pos _) Session.empty
  have r4 := r3.act (.succeed 1) (Nat.succ_pos _) Session.empty
  have r5 := r4.act (.succeed 2) (Nat.succ_pos _) Session.empty
  have r6 := r5.act .drop (Nat.succ_pos _) Session.empty
  refine ⟨r6, rfl, ?_⟩
  exact (first_settlement_decides r6 .poll rfl Session.empty).2.2.2.1 rfl

end WebFetch.Channel
