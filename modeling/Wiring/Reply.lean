/-! # Replies and effects

A step of a running scope ends in one of three ways: it returns a value, it fails with an error
that its caller may handle, or it unwinds through every caller up to the operation that started
it. An effect also changes a state, and it may need more depth than it was given, in which case
it has no reply at all; that outcome is kept apart from every reply.
-/

namespace Wiring

/-- How a step ends. -/
inductive Reply (ε α : Type) where
  | ok (value : α)
  | error (error : ε)
  /-- The step unwinds with a text. -/
  | panic (text : String)
deriving DecidableEq, Repr

/-- The reply that a known result amounts to. -/
def Reply.ofExcept {ε α : Type} : Except ε α → Reply ε α
  | .ok value => .ok value
  | .error failure => .error failure

def Reply.mapError {ε ε' α : Type} (change : ε → ε') : Reply ε α → Reply ε' α
  | .ok value => .ok value
  | .error failure => .error (change failure)
  | .panic text => .panic text

/-- The same ending with the error as a value. -/
def Reply.attempt {ε ε' α : Type} : Reply ε α → Reply ε' (Except ε α)
  | .ok value => .ok (.ok value)
  | .error failure => .ok (.error failure)
  | .panic text => .panic text

/-- A step over a state `W`; without an answer it ran out of depth. -/
def Effect (W ε α : Type) : Type := W → Option (Reply ε α × W)

namespace Effect

variable {W ε ε' α β : Type}

def ok (value : α) : Effect W ε α := fun w => some (.ok value, w)

def error (error : ε) : Effect W ε α := fun w => some (.error error, w)

def panic (text : String) : Effect W ε α := fun w => some (.panic text, w)

/-- The step that never answers. -/
def starved : Effect W ε α := fun _ => none

/-- Runs `next` on the value of `first`; an error or a panic ends both. -/
def andThen (first : Effect W ε α) (next : α → Effect W ε β) : Effect W ε β := fun w =>
  match first w with
  | none => none
  | some (.ok value, w) => next value w
  | some (.error error, w) => some (.error error, w)
  | some (.panic text, w) => some (.panic text, w)

instance : Monad (Effect W ε) where
  pure := ok
  bind := andThen

def mapError (change : ε → ε') (step : Effect W ε α) : Effect W ε' α := fun w =>
  match step w with
  | none => none
  | some (.ok value, w) => some (.ok value, w)
  | some (.error error, w) => some (.error (change error), w)
  | some (.panic text, w) => some (.panic text, w)

/-- Hands an error to the caller as a value. -/
def attempt (step : Effect W ε α) : Effect W ε' (Except ε α) := fun w =>
  match step w with
  | none => none
  | some (.ok value, w) => some (.ok (.ok value), w)
  | some (.error error, w) => some (.ok (.error error), w)
  | some (.panic text, w) => some (.panic text, w)

def get : Effect W ε W := fun w => some (.ok w, w)

def modify (change : W → W) : Effect W ε Unit := fun w => some (.ok (), change w)

/-- A result that is already known. -/
def ofExcept : Except ε α → Effect W ε α
  | .ok value => ok value
  | .error error => .error error

section Endings

variable {w after : W}

/-- A sequence goes on from a success, and ends where its first step fails or unwinds. -/
theorem andThen_cases {first : Effect W ε α} {next : α → Effect W ε β}
    {reply : Reply ε β} (ran : first.andThen next w = some (reply, after)) :
    (∃ value middle, first w = some (.ok value, middle) ∧ next value middle = some (reply, after)) ∨
    (∃ failure, first w = some (.error failure, after) ∧ reply = .error failure) ∨
    ∃ text, first w = some (.panic text, after) ∧ reply = .panic text := by
  unfold andThen at ran
  cases answer : first w with
  | none => simp [answer] at ran
  | some found =>
    obtain ⟨answered, middle⟩ := found
    rw [answer] at ran
    cases answered with
    | ok value => exact .inl ⟨value, middle, rfl, ran⟩
    | error failure =>
      cases ran
      exact .inr (.inl ⟨failure, rfl, rfl⟩)
    | panic text =>
      cases ran
      exact .inr (.inr ⟨text, rfl, rfl⟩)

/-- Changing failures changes the answer and nothing else. -/
theorem mapError_eq_some {step : Effect W ε α} {change : ε → ε'} {reply : Reply ε' α} :
    step.mapError change w = some (reply, after) ↔
      ∃ answered, step w = some (answered, after) ∧ reply = answered.mapError change := by
  have ends : step.mapError change w =
      (step w).map fun ending => (ending.1.mapError change, ending.2) := by
    rcases ran : step w with _ | ⟨⟨_⟩ | ⟨_⟩ | ⟨_⟩, _⟩ <;> simp only [mapError, ran] <;> rfl
  rw [ends, Option.map_eq_some_iff]
  constructor
  · rintro ⟨⟨answered, _⟩, ran, ⟨⟩⟩
    exact ⟨answered, ran, rfl⟩
  · rintro ⟨answered, ran, rfl⟩
    exact ⟨(answered, after), ran, rfl⟩

/-- Answering a step with its outcome changes the answer and nothing else. -/
theorem attempt_eq_some {step : Effect W ε α} {reply : Reply ε' (Except ε α)} :
    step.attempt w = some (reply, after) ↔
      ∃ answered, step w = some (answered, after) ∧ reply = answered.attempt := by
  have ends : (step.attempt : Effect W ε' (Except ε α)) w =
      (step w).map fun ending => (ending.1.attempt, ending.2) := by
    rcases ran : step w with _ | ⟨⟨_⟩ | ⟨_⟩ | ⟨_⟩, _⟩ <;> simp only [attempt, ran] <;> rfl
  rw [ends, Option.map_eq_some_iff]
  constructor
  · rintro ⟨⟨answered, _⟩, ran, ⟨⟩⟩
    exact ⟨answered, ran, rfl⟩
  · rintro ⟨answered, ran, rfl⟩
    exact ⟨(answered, after), ran, rfl⟩

/-- What follows an attempt is kept from being done only by unwinding. -/
theorem attempt_andThen_cases {step : Effect W ε α} {next : Except ε α → Effect W ε' β}
    {reply : Reply ε' β} (ran : step.attempt.andThen next w = some (reply, after)) :
    (∃ answer middle, (step.attempt : Effect W ε' _) w = some (.ok answer, middle) ∧
      next answer middle = some (reply, after)) ∨
    ∃ text, (step.attempt : Effect W ε' _) w = some (.panic text, after) ∧ reply = .panic text := by
  rcases andThen_cases ran with going | ⟨_, failed, _⟩ | unwound
  · exact .inl going
  · obtain ⟨answered, _, same⟩ := attempt_eq_some.mp failed
    cases answered <;> cases same
  · exact .inr unwound

end Endings

end Effect

end Wiring
