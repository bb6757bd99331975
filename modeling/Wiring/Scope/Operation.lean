import Wiring.Scope.Depth

/-! # Operations on a scope

A client reads slots, calls factories and injectors, closes the scope, and gives up its reference
to it. Every operation runs to its end, at a level above the potential of the world. A scope that
nobody refers to after an operation is closed as a part of it, and what comes of that closing is
not reported.

A run is a sequence of operations; each is answered, also when an earlier one has failed.
-/

namespace Wiring

inductive Operation (V : Type) where
  /-- Reads a slot; this fails when the scope is gone. -/
  | read (slot : String)
  | callFactory (slot : FactorySlot) (given : List (Instance V))
  | callInjector (slot : InjectorSlot) (given : List (Instance V))
  | close
  /-- Gives up the client's reference. -/
  | release
deriving DecidableEq

/-- How an operation ends. -/
inductive Answer (V : Type) where
  | shared (value : Instance V)
  /-- A method was called that returns nothing. -/
  | nothing
  /-- Closing or giving up has succeeded. -/
  | done
  | failed (error : RuntimeError)
  | unclosed (error : CloseError)
  | panicked (text : String)
deriving DecidableEq

/-- The answer that a reply amounts to. -/
def Reply.answer {V ε α : Type} (value : α → Answer V) (error : ε → Answer V) :
    Reply ε α → Answer V
  | .ok result => value result
  | .error failure => error failure
  | .panic text => .panicked text

/-- What a call that may return nothing is answered. -/
def Answer.ofOption {V : Type} : Option (Instance V) → Answer V
  | some value => .shared value
  | none => .nothing

/-- The answer of an operation after which the scope was closed so. -/
def Answer.settled {V : Type} (answer : Answer V) : Reply CloseError Unit → Answer V
  | .panic text =>
    match answer with
    | .panicked first => .panicked first
    | _ => .panicked text
  | _ => answer

/-- A closing that unwinds is the only one that changes an answer. -/
theorem Answer.settled_cases {V : Type} (answer : Answer V) (closing : Reply CloseError Unit) :
    answer.settled closing = answer ∨
      ∃ text, closing = .panic text ∧ answer.settled closing = .panicked text := by
  cases closing with
  | ok result => exact .inl rfl
  | error failure => exact .inl rfl
  | panic text =>
    cases answer with
    | panicked first => exact .inl rfl
    | _ => exact .inr ⟨text, rfl, rfl⟩

namespace Scope

variable {σ V ε α : Type}

/-- Runs a step at the lowest level that is sure to have an answer. -/
def runAbove (scope : Scope σ V) (step : Handler σ V → ScopeStep σ V ε α)
    (answers : ∀ {bound : Nat} {handler : Handler σ V}, scope.Answering bound handler →
      (step handler).Answers scope.potential bound)
    (w : World σ V) : Reply ε α × World σ V :=
  (step (scope.handler (scope.potential w + 1)) w).get <| by
    obtain ⟨reply, after, ran, _⟩ := answers (answers_handler scope _) w (Nat.lt_succ_self _)
    simp [ran]

/-- Performs an operation, but leaves the scope alive in any case. -/
def perform (scope : Scope σ V) (operation : Operation V) (w : World σ V) :
    Answer V × World σ V :=
  match operation with
  | .read slot =>
    (scope.runAbove (·.readAlive slot) (fun answering => answers_readAlive answering slot) w).map
      (·.answer .shared .failed) id
  | .callFactory slot given =>
    (scope.runAbove (scope.callFactory · slot given)
      (fun answering => answers_callFactory answering slot given) w).map
      (·.answer .shared .failed) id
  | .callInjector slot given =>
    (scope.runAbove (scope.callInjector · slot given)
      (fun answering => answers_callInjector answering slot given) w).map
      (·.answer .ofOption .failed) id
  | .close =>
    (scope.runAbove (·.close) (·.close) w).map (·.answer (fun _ => .done) .unclosed) id
  | .release => (.done, { w with held := false })

/-- Closes a scope that nobody refers to any more. Handles to it are of no use from then on, also
while it is being closed. -/
def settle (scope : Scope σ V) (w : World σ V) : Reply CloseError Unit × World σ V :=
  if w.held || !w.alive then (.ok (), w)
  else scope.runAbove (·.close) (·.close) { w with alive := false }

/-- Performs an operation to its end. -/
def operate (scope : Scope σ V) (operation : Operation V) (w : World σ V) :
    Answer V × World σ V :=
  let (answer, middle) := scope.perform operation w
  let (closing, after) := scope.settle middle
  (answer.settled closing, after)

def run (scope : Scope σ V) : List (Operation V) → World σ V → List (Answer V) × World σ V
  | [], w => ([], w)
  | operation :: rest, w =>
    let (answer, after) := scope.operate operation w
    let (answers, last) := run scope rest after
    (answer :: answers, last)

end Scope

end Wiring
