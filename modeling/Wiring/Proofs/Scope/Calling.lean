import Wiring.Proofs.Compilation.Matching
import Wiring.Proofs.Scope.Footprint
import Wiring.Proofs.Scope.Grounding
import Wiring.Proofs.Scope.Shutting

/-! # Calls of factories and injectors

A call is checked, reads what it needs from the scope, and then runs one recipe on it. Factories and
injectors differ in what is called and in that a method has a receiver, which is read first.

What has been read for a call is there from then on: whoever reads it later gets the same instance,
so all calls of a slot have the same in common.

Main statements: `Scope.call_cases` and `Scope.lends_of_resolve`.
-/

namespace Wiring

variable {σ τ V α : Type}

/-- A slot that is called. -/
inductive CallSlot where
  | factory (slot : FactorySlot)
  | injector (slot : InjectorSlot)
deriving DecidableEq

namespace CallSlot

def slot : CallSlot → Slot
  | factory slot => .factory slot
  | injector slot => .injector slot

def identifier (called : CallSlot) : String := called.slot.identifier

def parameters : CallSlot → List String
  | factory slot => slot.parameters
  | injector slot => slot.parameters

def arguments : CallSlot → List Argument
  | factory slot => slot.arguments
  | injector slot => slot.arguments

def callable : CallSlot → Callable
  | factory slot => .constructor slot.product
  | injector slot => .method slot.receiverType slot.targetMethod

/-- What a method is called on; a constructor is not called on anything. -/
def Receiver (V : Type) : CallSlot → Type
  | factory _ => Unit
  | injector _ => Instance V

/-- The client calls the slot. -/
def call (given : List (Instance V)) : CallSlot → Operation V
  | factory slot => .callFactory slot given
  | injector slot => .callInjector slot given

end CallSlot

namespace Scope

section Rules

variable (scope : Scope σ V) (handler : Handler σ V)

/-- Reads what a method is called on. -/
def receive : (called : CallSlot) → ScopeStep σ V RuntimeError (called.Receiver V)
  | .factory _ => .ok ()
  | .injector slot => handler.read slot.receiver

/-- Reads all that a call needs: the receiver, then the arguments from left to right. -/
def resolve (called : CallSlot) (given : List (Instance V)) :
    ScopeStep σ V RuntimeError (called.Receiver V × List (Arg V)) :=
  (receive handler called).andThen fun receiver =>
    (arguments handler called.identifier given called.arguments).andThen fun values =>
      .ok (receiver, values)

/-- Runs the recipe of a call once. Nothing comes back only from a method without a result. -/
def invoke : (called : CallSlot) → called.Receiver V → List (Arg V) →
    ScopeStep σ V RuntimeError (Option (Instance V))
  | .factory slot, _, values =>
    (Effect.ofExcept (scope.recipes.findConstructor slot.product)).andThen fun recipe =>
      (scope.runRecipe handler slot.identifier (recipe ⟨slot.identifier, values⟩)).andThen fun made =>
        made.instance.andThen fun value => .ok (some value)
  | .injector slot, receiver, values =>
    (Effect.ofExcept (scope.recipes.findMethod slot.receiverType slot.targetMethod)).andThen fun recipe =>
      (scope.runRecipe handler slot.identifier (recipe receiver ⟨slot.identifier, values⟩)).andThen fun
        | some made => made.instance.andThen fun value => .ok (some value)
        | none => if slot.returnsUnit then .ok none else .error (.nullValue slot.identifier)

/-- A call: the checks, the reads, the recipe. -/
def call (called : CallSlot) (given : List (Instance V)) :
    ScopeStep σ V RuntimeError (Option (Instance V)) :=
  (checkArity called.identifier called.parameters.length given.length).andThen fun _ =>
    (checkAlive called.identifier).andThen fun _ =>
      (checkOpen called.identifier).andThen fun _ =>
        (resolve handler called given).andThen fun found => scope.invoke handler called found.1 found.2

/-- The call is made with as many instances as there are parameters, the scope is open, and all that the
call needs can be read. -/
structure Accepts (handler : Handler σ V) (called : CallSlot) (given : List (Instance V)) (w : World σ V)
    (receiver : called.Receiver V) (values : List (Arg V)) (middle : World σ V) : Prop where
  arity : called.parameters.length = given.length
  alive : w.alive = true
  opened : w.teardown.closed = false
  resolved : resolve handler called given w = some (.ok (receiver, values), middle)

end Rules

variable {scope : Scope σ V} {handler : Handler σ V} {called : CallSlot} {given : List (Instance V)}
  {w after : World σ V}

/-- A call resolves its receiver first, and then its arguments in order. -/
theorem resolve_andThen (next : called.Receiver V × List (Arg V) → ScopeStep σ V RuntimeError α) :
    (resolve handler called given).andThen next =
      (receive handler called).andThen fun receiver =>
        (arguments handler called.identifier given called.arguments).andThen fun values =>
          next (receiver, values) := by
  simp only [resolve, Effect.andThen_assoc, Effect.ok_andThen]

private theorem call_factory (slot : FactorySlot) : scope.call handler (.factory slot) given =
    (scope.callFactory handler slot given).andThen fun value => .ok (some value) := by
  simp only [call, resolve_andThen, receive, invoke, callFactory, Effect.andThen_assoc]
  rfl

private theorem call_injector (slot : InjectorSlot) :
    scope.call handler (.injector slot) given = scope.callInjector handler slot given := by
  rw [call, resolve_andThen]
  rfl

/-- The client's operation is the call. -/
theorem performWith_call : scope.performWith handler (called.call given) w =
    (scope.call handler called given w).map (.map (·.answer .ofOption .failed) id) := by
  cases called with
  | factory slot =>
    rw [call_factory]
    simp only [CallSlot.call, performWith, Effect.andThen]
    cases scope.callFactory handler slot given w with
    | none => rfl
    | some found =>
      obtain ⟨reply, last⟩ := found
      cases reply <;> rfl
  | injector slot =>
    rw [call_injector]
    rfl

/-- Once the checks have passed, what is left of a call are its reads and its recipe. -/
theorem call_of_open (arity : called.parameters.length = given.length) (alive : w.alive = true)
    (opened : w.teardown.closed = false) : scope.call handler called given w =
      ((resolve handler called given).andThen fun found => scope.invoke handler called found.1 found.2) w := by
  simp [call, Effect.andThen, checkArity, arity, Effect.ok, checkAlive, alive, checkOpen,
    Teardown.checkOpen, opened, Effect.ofExcept]

/-- A call that does not pass the checks fails, and nothing else happens. -/
theorem call_of_not_open (stopped : ¬ (called.parameters.length = given.length ∧ w.alive = true ∧
    w.teardown.closed = false)) : ∃ failure, scope.call handler called given w = some (.error failure, w) := by
  by_cases arity : called.parameters.length = given.length
  · refine ⟨.scopeClosed called.identifier, ?_⟩
    cases alive : w.alive with
    | false => simp [call, Effect.andThen, checkArity, arity, Effect.ok, checkAlive, alive, Effect.error]
    | true =>
      have closed : w.teardown.closed = true := by simpa [arity, alive] using stopped
      simp [call, Effect.andThen, checkArity, arity, Effect.ok, checkAlive, alive, checkOpen_of_closed closed]
  · refine ⟨.arityMismatch called.identifier called.parameters.length given.length, ?_⟩
    simp [call, Effect.andThen, checkArity, arity, Effect.error]

/-- A call that is accepted is an invocation with what has been resolved. -/
theorem Accepts.call_eq {receiver : called.Receiver V} {values : List (Arg V)} {middle : World σ V}
    (accepts : Accepts handler called given w receiver values middle) :
    scope.call handler called given w = scope.invoke handler called receiver values middle := by
  rw [call_of_open accepts.arity accepts.alive accepts.opened, Effect.andThen, accepts.resolved]

/-- Operations are performed by a handler without levels. -/
theorem performWith_unbounded (operation : Operation V) (w : World σ V) :
    scope.performWith scope.unbounded operation w = some (scope.perform operation w) :=
  simulates_performWith scope.mirrors_self (refines_unbounded scope (scope.potential w + 1)).simulates operation
    (performWith_handler operation (Nat.lt_succ_self _))

/-- An operation that is a call does what its recipe does on what the call has read. -/
theorem Accepts.perform_eq {receiver : called.Receiver V} {values : List (Arg V)} {middle : World σ V}
    (accepts : Accepts scope.unbounded called given w receiver values middle) :
    ∃ reply after, scope.invoke scope.unbounded called receiver values middle = some (reply, after) ∧
      scope.perform (called.call given) w = (reply.answer .ofOption .failed, after) := by
  have performed : scope.performWith scope.unbounded (called.call given) w =
      some (scope.perform (called.call given) w) := performWith_unbounded _ w
  rw [performWith_call, accepts.call_eq] at performed
  obtain ⟨⟨reply, after⟩, ran, same⟩ := Option.map_eq_some_iff.mp performed
  exact ⟨reply, after, ran, same.symm⟩

/-- A call that is accepted runs its recipe on what it has read; any other one comes no further than to
its reads. -/
theorem call_cases {reply : Reply RuntimeError (Option (Instance V))}
    (ran : scope.call handler called given w = some (reply, after)) :
    (∃ receiver values middle, Accepts handler called given w receiver values middle ∧
      scope.invoke handler called receiver values middle = some (reply, after)) ∨
    ((∀ receiver values middle, ¬ Accepts handler called given w receiver values middle) ∧
      (after = w ∨ ∃ refused, resolve handler called given w = some (refused, after))) := by
  by_cases guarded : called.parameters.length = given.length ∧ w.alive = true ∧ w.teardown.closed = false
  · obtain ⟨arity, alive, opened⟩ := guarded
    rw [call_of_open arity alive opened] at ran
    rcases Effect.andThen_cases ran with ⟨⟨receiver, values⟩, middle, resolved, invoked⟩ |
      ⟨_, failed, _⟩ | ⟨_, unwound, _⟩
    · exact .inl ⟨receiver, values, middle, ⟨arity, alive, opened, resolved⟩, invoked⟩
    · refine .inr ⟨fun _ _ _ accepts => ?_, .inr ⟨_, failed⟩⟩
      cases accepts.resolved.symm.trans failed
    · refine .inr ⟨fun _ _ _ accepts => ?_, .inr ⟨_, unwound⟩⟩
      cases accepts.resolved.symm.trans unwound
  · refine .inr ⟨fun _ _ _ accepts => guarded ⟨accepts.arity, accepts.alive, accepts.opened⟩, .inl ?_⟩
    obtain ⟨failure, stopped⟩ := call_of_not_open guarded
    cases stopped.symm.trans ran
    rfl

/-- Resolving a call does no more than reading. -/
theorem resolve_within {rel : World σ V → World σ V → Prop} (refl : ∀ w, rel w w)
    (trans : ∀ {w middle after}, rel w middle → rel middle after → rel w after)
    (reads : ∀ identifier, (handler.read identifier).Within rel) (called : CallSlot)
    (given : List (Instance V)) : (resolve handler called given).Within rel := by
  have receives : (receive handler called).Within rel := by
    cases called with
    | factory slot => exact .ok refl ()
    | injector slot => exact reads slot.receiver
  exact .andThen id trans receives fun _ =>
    .andThen id trans (arguments_within refl trans reads _ _ _) fun _ => .ok refl _

/-- Resolving a call has an answer as reads have. -/
theorem answers_resolve {bound : Nat} (answering : scope.Answering bound handler) (called : CallSlot)
    (given : List (Instance V)) : (resolve handler called given).Answers scope.potential bound := by
  have receives : (receive handler called).Answers scope.potential bound := by
    cases called with
    | factory slot => exact .ok ()
    | injector slot => exact answering.read slot.receiver
  exact .andThen receives fun _ => .andThen (answers_arguments answering _ _ _) fun _ => .ok _

/-- Resolving a call is simulated as reads are. -/
theorem simulates_resolve {view : σ → τ} {second : Handler τ V} (simulates : handler.Simulates view second)
    (called : CallSlot) (given : List (Instance V)) :
    (resolve handler called given).Simulates (World.map view) (resolve second called given) := by
  have receives : (receive handler called).Simulates (World.map view) (receive second called) := by
    cases called with
    | factory slot => exact .ok ()
    | injector slot => exact simulates.read slot.receiver
  exact .andThen receives fun _ => .andThen (simulates_arguments simulates _ _ _) fun _ => .ok _

section Giving

/-! ## What is there -/

/-- Reading the identifier ends at this instance, which is there already. -/
def Gives (scope : Scope σ V) (w : World σ V) (identifier : String) (value : Instance V) : Prop :=
  scope.served? (scope.target identifier) = some (.ready value) ∨
    ∃ slot, scope.served? (scope.target identifier) = some (.cached slot) ∧
      w.cells slot.identifier = .cached value

variable {identifier : String} {value other : Instance V}

private theorem Gives.unique (gives : scope.Gives w identifier value)
    (also : scope.Gives w identifier other) :
    value = other := by
  rcases gives with served | ⟨slot, served, cell⟩ <;> rcases also with served' | ⟨slot', served', cell'⟩
  · simpa using served.symm.trans served'
  · cases served.symm.trans served'
  · cases served.symm.trans served'
  · obtain rfl : slot = slot' := by simpa using served.symm.trans served'
    simpa using cell.symm.trans cell'

/-- What is there stays there. -/
theorem Gives.mono (gives : scope.Gives w identifier value) (grounds : Grounds scope w after) :
    scope.Gives after identifier value := by
  refine gives.imp_right fun ⟨slot, served, cell⟩ => ⟨slot, served, ?_⟩
  have filled : (w.cells slot.identifier).isEmpty = false := by rw [cell]; rfl
  exact (grounds.cells slot.identifier filled).trans cell

/-- A read that succeeds leaves its instance behind. -/
theorem gives_of_read (ran : scope.read handler identifier w = some (.ok value, after)) :
    scope.Gives after identifier value := by
  cases served : scope.served? (scope.target identifier) with
  | none =>
    simp only [read, served] at ran
    cases ran
  | some found =>
    cases found with
    | ready shared =>
      simp only [read, served] at ran
      cases ran
      exact .inl served
    | aliased target =>
      simp only [read, served] at ran
      cases ran
    | cached slot =>
      simp only [read, served] at ran
      refine .inr ⟨slot, served, ?_⟩
      rcases access_cases ran with ⟨answer, answered, same, rfl⟩ | ⟨_, middle, _, rfl⟩
      · cases answer with
        | ok shared =>
          cases same
          cases cell : after.cells slot.identifier <;> simp_all [Cell.answer?]
        | error failure => cases same
      · simp [Cell.settled]

theorem Gives.read (gives : scope.Gives w identifier value) :
    scope.read handler identifier w = some (.ok value, w) := by
  rcases gives with served | ⟨slot, served, cell⟩
  · simp only [Scope.read, served]
    rfl
  · simp only [Scope.read, served, access, cell, Cell.answer?]
    rfl

/-- The client gets what is there, and nothing changes. -/
theorem Gives.get (gives : scope.Gives w identifier value) (alive : w.alive = true) :
    scope.perform (.read identifier) w = (.shared value, w) := by
  have performed := performWith_handler (.read identifier) (Nat.lt_succ_self (scope.potential w))
  have read : (scope.handler (scope.potential w + 1)).read identifier w = some (.ok value, w) := gives.read
  simp only [performWith, Handler.readAlive, alive, ↓reduceIte, read] at performed
  exact (Option.some.inj performed).symm

/-- What is there stays there, and reads succeed with what is there from then on. -/
structure Giving (scope : Scope σ V) (handler : Handler σ V) : Prop where
  reads identifier : (handler.read identifier).Within (Grounds scope)
  closes : handler.close.Within (Grounds scope)
  gives : ∀ {identifier w value after},
    handler.read identifier w = some (.ok value, after) → scope.Gives after identifier value

theorem giving_unbounded (scope : Scope σ V) : scope.Giving scope.unbounded where
  reads identifier w := (grounding_handler scope (scope.potential w + 1)).reads identifier w
  closes w := (grounding_handler scope (scope.potential w + 1)).closes w
  gives ran := by
    rw [unbounded_read] at ran
    exact gives_of_read ran

/-- The value stands for the argument: what the scope gives for a slot, a handle to that very slot for a
handle, and for a position the instance that the caller passes there. -/
inductive Lends (scope : Scope σ V) (w : World σ V) (given : List (Instance V)) :
    Argument → Arg V → Prop
  | slot {identifier : String} {value : Instance V} :
      scope.Gives w identifier value → Lends scope w given (.slot identifier) (.shared value)
  | lazy {identifier : String} : Lends scope w given (.lazy identifier) (.lazy identifier)
  | curried {index : UInt64} {value : Instance V} : given[index.toNat]? = some value →
      Lends scope w given (.curried index) (.shared value)

theorem Lends.mono {argument : Argument} {value : Arg V} (grounds : Grounds scope w after)
    (lends : scope.Lends w given argument value) : scope.Lends after given argument value := by
  cases lends with
  | slot gives => exact .slot (gives.mono grounds)
  | lazy => exact .lazy
  | curried passed => exact .curried passed

variable (giving : scope.Giving handler)

include giving

private theorem lends_of_arguments {slot : String} {sources : List Argument} {values : List (Arg V)}
    (ran : arguments handler slot given sources w = some (.ok values, after)) :
    List.Forall₂ (scope.Lends after given) sources values := by
  have grounds := cellwise_grounds scope
  refine Scope.forall₂_of_arguments grounds.refl grounds.trans giving.reads
    (fun w => scope.Lends w given) .mono (fun first => ?_) ran
  rcases argument_eq_ok first with ⟨_, _, rfl, rfl, read⟩ | ⟨_, rfl, rfl⟩ | ⟨_, _, rfl, rfl, passed⟩
  · exact .slot (giving.gives read)
  · exact .lazy
  · exact .curried passed

end Giving

section Lending

/-! ## What calls have in common -/

/-- The receiver of a method is what the scope gives for its slot. -/
def LendsReceiver (scope : Scope σ V) (w : World σ V) : (called : CallSlot) → called.Receiver V → Prop
  | .factory _, _ => True
  | .injector slot, receiver => scope.Gives w slot.receiver receiver

/-- All that a call has is there, but for what its caller gives. -/
structure LendsAll (scope : Scope σ V) (w : World σ V) (called : CallSlot) (given : List (Instance V))
    (receiver : called.Receiver V) (values : List (Arg V)) : Prop where
  receiver : scope.LendsReceiver w called receiver
  values : List.Forall₂ (scope.Lends w given) called.arguments values

/-- What is there for a call is still there later. -/
theorem LendsAll.mono {receiver : called.Receiver V} {values : List (Arg V)} (grounds : Grounds scope w after)
    (lends : scope.LendsAll w called given receiver values) :
    scope.LendsAll after called given receiver values where
  receiver := by
    cases called with
    | factory slot => trivial
    | injector slot => exact Gives.mono lends.receiver grounds
  values := lends.values.imp fun _ _ => .mono grounds

/-- All that a call has resolved is there afterwards. -/
theorem lends_of_resolve (giving : scope.Giving handler) {receiver : called.Receiver V}
    {values : List (Arg V)} (ran : resolve handler called given w = some (.ok (receiver, values), after)) :
    scope.LendsAll after called given receiver values := by
  have grounds := cellwise_grounds scope
  obtain ⟨found, middle, received, ran⟩ := Effect.andThen_eq_ok ran
  obtain ⟨others, last, read, ended⟩ := Effect.andThen_eq_ok ran
  cases ended
  refine ⟨?_, lends_of_arguments giving read⟩
  have kept := arguments_within grounds.refl grounds.trans giving.reads _ _ _ _ _ _ read
  cases called with
  | factory slot => trivial
  | injector slot => exact (giving.gives received).mono kept

/-- Whatever the recipe does, what is there stays there. -/
theorem grounds_invoke (giving : scope.Giving handler) (receiver : called.Receiver V)
    (values : List (Arg V)) :
    (scope.invoke handler called receiver values).Within (Grounds scope) := by
  have grounds := cellwise_grounds scope
  have handles := fun slot => grounds.readAlive (giving.reads slot)
  cases called with
  | factory slot =>
    exact grounds.constructed handles giving.closes fun made =>
      grounds.andThen (grounds.made made) fun value => .ok grounds.refl _
  | injector slot =>
    refine grounds.called handles giving.closes fun made => ?_
    cases made with
    | some made => exact grounds.andThen (grounds.made made) fun value => .ok grounds.refl _
    | none =>
      dsimp only
      split
      · exact .ok grounds.refl none
      · exact .error grounds.refl _

/-- Two calls differ in what their callers give, and in nothing else. -/
theorem LendsAll.common {given' : List (Instance V)} {receiver receiver' : called.Receiver V}
    {values values' : List (Arg V)} (lends : scope.LendsAll w called given receiver values)
    (also : scope.LendsAll w called given' receiver' values') :
    receiver = receiver' ∧ ∀ (position : Nat) (argument : Argument),
      called.arguments[position]? = some argument → argument.index? = none →
        values[position]? = values'[position]? := by
  refine ⟨?_, fun position argument planned held => ?_⟩
  · cases called with
    | factory slot => rfl
    | injector slot => exact Gives.unique lends.receiver also.receiver
  · obtain ⟨value, here, lent⟩ := exists_getElem?_of_forall₂ lends.values planned
    obtain ⟨value', there, lent'⟩ := exists_getElem?_of_forall₂ also.values planned
    rw [here, there]
    cases lent with
    | slot gives =>
      cases lent' with
      | slot gives' => rw [gives.unique gives']
    | lazy =>
      cases lent'
      rfl
    | curried _ => cases held

end Lending

end Scope

section Invocations

/-! ## The calls of a run -/

/-- What is handed over in a call that is accepted. -/
structure Invocation (V : Type) (called : CallSlot) where
  given : List (Instance V)
  receiver : called.Receiver V
  values : List (Arg V)

/-- The slot that the operation calls, and the instances that it is called with. -/
def Operation.call? : Operation V → Option (CallSlot × List (Instance V))
  | callFactory slot given => some (.factory slot, given)
  | callInjector slot given => some (.injector slot, given)
  | read _ => none
  | close => none
  | release => none

/-- An operation is a call of a slot if it calls this slot. -/
theorem Operation.call?_eq_some_iff {operation : Operation V} {called : CallSlot}
    {given : List (Instance V)} : operation.call? = some (called, given) ↔ operation = called.call given := by
  cases operation <;> cases called <;> simp [call?, CallSlot.call]

namespace Scope

variable {scope : Scope σ V} {called : CallSlot} {w : World σ V} {operation : Operation V}

/-- What is handed over by the operation if it calls the slot and is accepted. -/
def invocation? (scope : Scope σ V) (called : CallSlot) (operation : Operation V) (w : World σ V) :
    Option (Invocation V called) :=
  match operation.call? with
  | some (other, given) =>
    if other = called ∧ called.parameters.length = given.length ∧ w.alive = true ∧
        w.teardown.closed = false then
      match resolve scope.unbounded called given w with
      | some (.ok (receiver, values), _) => some ⟨given, receiver, values⟩
      | _ => none
    else none
  | none => none

/-- What is handed over in a run by the calls of the slot that are accepted. -/
def invocations (scope : Scope σ V) (called : CallSlot) :
    List (Operation V) → World σ V → List (Invocation V called)
  | [], _ => []
  | operation :: rest, w =>
    (scope.invocation? called operation w).toList ++
      scope.invocations called rest (scope.operate operation w).2

/-- A call invokes a recipe if it is accepted, and with what has been resolved. -/
theorem invocation?_eq_some_iff {invocation : Invocation V called} :
    scope.invocation? called operation w = some invocation ↔
      operation = called.call invocation.given ∧ ∃ middle,
        Accepts scope.unbounded called invocation.given w invocation.receiver invocation.values middle := by
  constructor
  · intro invoked
    unfold invocation? at invoked
    split at invoked
    next other given found =>
      split at invoked
      next guarded =>
        obtain ⟨rfl, arity, alive, opened⟩ := guarded
        split at invoked
        next receiver values middle resolved =>
          cases invoked
          exact ⟨Operation.call?_eq_some_iff.mp found, middle, arity, alive, opened, resolved⟩
        next => cases invoked
      next => cases invoked
    next => cases invoked
  · rintro ⟨rfl, middle, accepts⟩
    have found := Operation.call?_eq_some_iff.mpr (rfl : called.call invocation.given = _)
    simp [invocation?, found, accepts.arity, accepts.alive, accepts.opened, accepts.resolved]

/-- What has been handed over is there at the end of the run, but for what callers have given. -/
theorem lends_of_mem_invocations {operations : List (Operation V)} {invocation : Invocation V called}
    (member : invocation ∈ scope.invocations called operations w) :
    scope.LendsAll (scope.run operations w).2 called invocation.given invocation.receiver
      invocation.values := by
  induction operations generalizing w with
  | nil => cases member
  | cons operation rest ih =>
    rcases List.mem_append.mp member with first | later
    · obtain ⟨rfl, middle, accepts⟩ := invocation?_eq_some_iff.mp (Option.mem_toList.mp first)
      obtain ⟨reply, after, invoked, performed⟩ := accepts.perform_eq
      have giving := scope.giving_unbounded
      have lends := lends_of_resolve giving accepts.resolved
      have settles : Grounds scope after (scope.operate (called.call invocation.given) w).2 := by
        rw [operate, performed]
        exact .same (scope.cells_settle after)
      have ends := grounds_run scope rest (scope.operate (called.call invocation.given) w).2
      exact ((lends.mono (grounds_invoke giving _ _ _ _ _ invoked)).mono settles).mono ends
    · exact ih later

/-- All calls of a run that are accepted have the same in common. -/
theorem invocations_common {operations : List (Operation V)} {first second : Invocation V called}
    (here : first ∈ scope.invocations called operations w)
    (there : second ∈ scope.invocations called operations w) :
    first.receiver = second.receiver ∧ ∀ (position : Nat) (argument : Argument),
      called.arguments[position]? = some argument → argument.index? = none →
        first.values[position]? = second.values[position]? :=
  (lends_of_mem_invocations here).common (lends_of_mem_invocations there)

end Scope

end Invocations

end Wiring
