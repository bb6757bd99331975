import Wiring.Proofs.Scope.Handover
import Wiring.Proofs.Scope.Level
import Wiring.Proofs.Scope.Table

/-! # Conduct

A conduct bounds what the programs of a host do and what comes up while they run: the slots they
have handles to, the arguments that recipes are handed, whether recipes read or close the scope, and
the failures, values and host states to be met. If the programs keep to it when they are answered
within it, then every step of a scope has an answer within it, whatever the order of steps.

The scope raises few failures on its own. Whether a slot can meet itself while it is created
depends on who reads: along eager reads it cannot, since the plan has no cycles; a recipe that
reads through a handle can, and so can a closer that a recipe starts.
-/

namespace Wiring

variable {σ V ε ε' α β : Type}

/-- The slots that there are handles to, the values and host states that hold no other handles, and
the arguments that recipes are handed. -/
structure Handling (σ V : Type) where
  known : String → Prop
  value : V → Prop
  state : σ → Prop
  hands : Handover V

/-- Bounds on what programs do and on what comes up. -/
structure Conduct (σ V : Type) extends Handling σ V where
  /-- Recipes read slots while they run. -/
  recipesRead : Prop
  /-- Recipes close the scope while they run. -/
  recipesClose : Prop
  /-- Closers read slots. -/
  closersRead : Prop
  fails : RuntimeError → Prop

/-- What is known of a reply. -/
def Reply.Meets (good : α → Prop) (bad : ε → Prop) : Reply ε α → Prop
  | ok result => good result
  | error failure => bad failure
  | panic _ => True

/-- What is known of an answer that programs get. -/
def Answered (good : α → Prop) (bad : ε → Prop) : Except ε α → Prop
  | .ok result => good result
  | .error failure => bad failure

/-- From a state of the invariant the step has an answer, which is as wanted, and it keeps the
invariant. -/
def Effect.Meets {W : Type} (invariant : W → Prop) (good : α → Prop) (bad : ε → Prop)
    (step : Effect W ε α) : Prop :=
  ∀ w, invariant w → ∃ reply after, step w = some (reply, after) ∧ invariant after ∧
    reply.Meets good bad

namespace Effect.Meets

variable {W : Type} {invariant : W → Prop} {good : α → Prop} {bad : ε → Prop}

theorem ok {result : α} (wanted : good result) :
    Meets invariant good bad (Effect.ok result : Effect W ε α) :=
  fun w holds => ⟨_, w, rfl, holds, wanted⟩

theorem error {failure : ε} (wanted : bad failure) :
    Meets invariant good bad (Effect.error failure : Effect W ε α) :=
  fun w holds => ⟨_, w, rfl, holds, wanted⟩

theorem panic (text : String) : Meets invariant good bad (Effect.panic text : Effect W ε α) :=
  fun w holds => ⟨_, w, rfl, holds, trivial⟩

theorem get : Meets invariant invariant bad (Effect.get : Effect W ε W) :=
  fun w holds => ⟨_, w, rfl, holds, holds⟩

theorem modify {change : W → W} (keeps : ∀ w, invariant w → invariant (change w)) :
    Meets invariant (fun _ => True) bad (Effect.modify change : Effect W ε Unit) :=
  fun w holds => ⟨_, change w, rfl, keeps w holds, trivial⟩

theorem ofExcept {result : Except ε α} (wanted : Answered good bad result) :
    Meets invariant good bad (Effect.ofExcept result : Effect W ε α) := by
  cases result with
  | ok result => exact ok wanted
  | error failure => exact error wanted

/-- A sequence is as wanted if the rest is from every good result of its start. -/
theorem andThen {first : Effect W ε α} {next : α → Effect W ε β} {good' : β → Prop}
    (start : Meets invariant good bad first)
    (rest : ∀ result, good result → Meets invariant good' bad (next result)) :
    Meets invariant good' bad (first.andThen next) := by
  intro w holds
  obtain ⟨reply, middle, ran, kept, wanted⟩ := start w holds
  cases reply with
  | ok result =>
    obtain ⟨reply, after, ended, kept, wanted⟩ := rest result wanted middle kept
    exact ⟨reply, after, by simp [Effect.andThen, ran, ended], kept, wanted⟩
  | error failure => exact ⟨.error failure, middle, by simp [Effect.andThen, ran], kept, wanted⟩
  | panic text => exact ⟨.panic text, middle, by simp [Effect.andThen, ran], kept, trivial⟩

/-- Failures that are changed are as wanted if the changed ones are. -/
theorem mapError {step : Effect W ε α} {change : ε → ε'} {bad' : ε' → Prop}
    (meets : Meets invariant good bad step) (changed : ∀ failure, bad failure → bad' (change failure)) :
    Meets invariant good bad' (step.mapError change) := by
  intro w holds
  obtain ⟨reply, after, ran, kept, wanted⟩ := meets w holds
  refine ⟨_, after, Effect.mapError_eq_some.mpr ⟨reply, ran, rfl⟩, kept, ?_⟩
  cases reply with
  | ok result => exact wanted
  | error failure => exact changed failure wanted
  | panic text => trivial

/-- Answering a step with its outcome is never a failure. -/
theorem attempt {step : Effect W ε α} {bad' : ε' → Prop} (meets : Meets invariant good bad step) :
    Meets invariant (Answered good bad) bad' (step.attempt : Effect W ε' (Except ε α)) := by
  intro w holds
  obtain ⟨reply, after, ran, kept, wanted⟩ := meets w holds
  refine ⟨_, after, Effect.attempt_eq_some.mpr ⟨reply, ran, rfl⟩, kept, ?_⟩
  cases reply with
  | ok result => exact wanted
  | error failure => exact wanted
  | panic text => trivial

theorem ite {step other : Effect W ε α} {test : W → Bool} (yes : Meets invariant good bad step)
    (no : Meets invariant good bad other) :
    Meets invariant good bad (fun w => if test w then step w else other w) := by
  intro w holds
  cases tested : test w with
  | true => simpa only [tested, ↓reduceIte] using yes w holds
  | false => simpa only [tested, Bool.false_eq_true, ↓reduceIte] using no w holds

/-- Closing collects failures of the closers alone. -/
theorem closeAll {ρ : Type} {close : ρ → Effect W ε (Except Fault Unit)} {fault : Fault → Prop} :
    (owned : List (String × ρ)) →
    (∀ entry ∈ owned, Meets invariant (Answered (fun _ => True) fault) bad (close entry.2)) →
    Meets invariant (fun failures => ∀ failure ∈ failures, fault failure.fault) bad
      (Teardown.closeAll close owned)
  | [], _ => ok (List.forall_mem_nil _)
  | (_, resource) :: rest, each => by
    refine andThen (each _ List.mem_cons_self) fun outcome wanted => ?_
    refine andThen (closeAll rest fun entry later => each entry (List.mem_cons_of_mem _ later))
      fun failures others => ?_
    cases outcome with
    | ok _ => exact ok others
    | error failure => exact ok (List.forall_mem_cons.mpr ⟨wanted, others⟩)

end Effect.Meets

section Fits

/-! ## What keeps to a conduct -/

variable (conduct : Conduct σ V)

def Instance.Fits (shared : Instance V) : Prop :=
  ∀ value, shared.content = .host value → conduct.value value

def Arg.Fits : Arg V → Prop
  | shared value => value.Fits conduct
  | lazy identifier => conduct.known identifier

def Arguments.Fits (arguments : Arguments V) : Prop := ∀ arg ∈ arguments.values, arg.Fits conduct

def Made.Fits : Made V → Prop
  | existing shared => shared.Fits conduct
  | fresh value => conduct.value value

def Fault.Fits : Fault → Prop
  | foreign _ => True
  | runtime error => conduct.fails error

def CloseError.Fits (error : CloseError) : Prop := ∀ failure ∈ error.failures, failure.fault.Fits conduct

/-- The program keeps to the conduct as long as what it is answered does. -/
def Program.Fits (reads closes : Prop) (result : α → Prop) : Program σ V α → Prop
  | finish value => result value
  | fail fault => fault.Fits conduct
  | panic _ => True
  | read slot next => reads ∧ conduct.known slot ∧
      ∀ answer, Answered (Instance.Fits conduct) conduct.fails answer →
        (next answer).Fits reads closes result
  | close next => closes ∧
      ∀ answer, Answered (fun _ => True) (CloseError.Fits conduct) answer →
        (next answer).Fits reads closes result
  | release next => next.Fits reads closes result
  | inspect next => ∀ view, (next view).Fits reads closes result
  | update change next => ∀ before, conduct.state before →
      conduct.state (change before) ∧ (next before).Fits reads closes result

/-- Recipes keep to the conduct on what they are handed, and closers and supplied values do. -/
structure Scope.Behaves (scope : Scope σ V) : Prop where
  constructors : ∀ type recipe, scope.recipes.findConstructor type = .ok recipe →
    ∀ arguments, conduct.hands (.constructor type) arguments → arguments.Fits conduct →
      (recipe arguments).Fits conduct conduct.recipesRead conduct.recipesClose (Made.Fits conduct)
  methods : ∀ type name recipe, scope.recipes.findMethod type name = .ok recipe →
    ∀ receiver arguments, conduct.hands (.method type name) arguments → receiver.Fits conduct →
      arguments.Fits conduct →
      (recipe receiver arguments).Fits conduct conduct.recipesRead conduct.recipesClose
        (fun made => ∀ product ∈ made, product.Fits conduct)
  closers : ∀ value, conduct.value value → ∀ closer, scope.host.closer value = some closer →
    closer.Fits conduct conduct.closersRead True (fun _ => True)
  supplied : ∀ entry ∈ scope.values.entries, conduct.value entry.2

/-- The failures that no plan excludes may come up, also that of a slot which meets itself where
recipes have slots read while they run. -/
structure Conduct.Admits : Prop where
  closed : ∀ slot, conduct.fails (.scopeClosed slot)
  created : ∀ slot source, conduct.fails (.creationFailed slot source)
  panicked : ∀ slot, conduct.fails (.creationPanicked slot)
  null : ∀ slot, conduct.fails (.nullValue slot)
  closer : ∀ slot, conduct.fails (.missingCloser slot)
  circular : conduct.recipesRead ∨ conduct.recipesClose ∧ conduct.closersRead →
    ∀ slot, conduct.fails (.circularDependency slot)

/-- The argument refers to a known slot, or to a position that a caller with this many arguments
fills. -/
def Argument.Fits (callers : Nat) : Argument → Prop
  | slot identifier => conduct.known identifier
  | lazy identifier => conduct.known identifier
  | curried index => index.toNat < callers ∨
      ∀ slot count, conduct.fails (missingArgument slot index count)

variable (scope : Scope σ V)

/-- There is a recipe to call. -/
def Callable.Fits (callable : Callable) : Prop :=
  ∀ error, scope.recipes.require callable = .error error → conduct.fails error

/-- The slot hands recipes nothing else. -/
def Slot.Hands (slot : Slot) : Prop :=
  ∀ callable sources given arguments, slot.Calls callable sources given arguments →
    conduct.hands callable arguments

structure CachedSlot.Fits (slot : CachedSlot) : Prop where
  hands : (Slot.cached slot).Hands conduct
  arguments : ∀ argument ∈ slot.arguments, argument.Fits conduct 0
  holder : ∀ holder type method, slot.recipe = .provider holder type method → conduct.known holder
  recipe : slot.recipe.callable.Fits conduct scope

structure FactorySlot.Fits (slot : FactorySlot) : Prop where
  hands : (Slot.factory slot).Hands conduct
  arguments : ∀ argument ∈ slot.arguments, argument.Fits conduct slot.parameters.length
  recipe : (Callable.constructor slot.product).Fits conduct scope

structure InjectorSlot.Fits (slot : InjectorSlot) : Prop where
  hands : (Slot.injector slot).Hands conduct
  receiver : conduct.known slot.receiver
  arguments : ∀ argument ∈ slot.arguments, argument.Fits conduct slot.parameters.length
  recipe : (Callable.method slot.receiverType slot.targetMethod).Fits conduct scope

/-- The plan has no cycles, known slots are served, and so is what cached slots refer to. -/
structure Scope.Fits : Prop where
  supplied : scope.Supplied
  acyclic : scope.plan.Acyclic
  served : ∀ identifier, conduct.known identifier →
    scope.served? (scope.target identifier) = none →
      conduct.fails (.unknownSlot (scope.target identifier))
  cached : ∀ slot ∈ scope.plan.cached, slot.Fits conduct scope

/-- What is going on: the cells that are being created, whether closing has begun, and how many
more creations and closings can nest. -/
structure Marks where
  creating : String → Prop
  closed : Bool
  limit : Nat

/-- What the world holds keeps to the conduct, and the marks are right. Where recipes close the
scope, they may do so at any time. -/
structure World.Fits (marks : Marks) (w : World σ V) : Prop where
  cached : ∀ slot value, w.cells slot = .cached value → value.Fits conduct
  failed : ∀ slot error, w.cells slot = .failed error → conduct.fails error
  owned : ∀ entry ∈ w.teardown.owned, entry.2.Fits conduct
  state : conduct.state w.host
  creating : ∀ slot, w.cells slot = .creating ↔ marks.creating slot
  closed : conduct.recipesClose ∨ w.teardown.closed = marks.closed
  limit : scope.potential w ≤ marks.limit

end Fits

end Wiring
