import Wiring.Scope.State

/-! # Reading slots and closing

The two requests that can nest, reading a slot and closing the scope, are answered by a handler.
Each rule below is written over the handler that answers requests one level further in, and the
handler of a level is put together from the rules over the level below. At level zero there is no
answer; how many levels are enough is the subject of `Wiring.Scope.Depth`.

A slot that is created once checks that the scope is open, reads its arguments from left to right,
then the holder of a provider, and only then runs its recipe. The first failure is that of the
slot. An instance that the scope has to close is registered before the slot is settled.
-/

namespace Wiring

abbrev ScopeStep (σ V ε α : Type) := Effect (World σ V) ε α

/-- Answers to the requests that can nest. -/
structure Handler (σ V : Type) where
  read : String → ScopeStep σ V RuntimeError (Instance V)
  close : ScopeStep σ V CloseError Unit

variable {σ V ε α : Type}

/-- Reads a slot through a handle, which fails when the scope is gone. -/
def Handler.readAlive (handler : Handler σ V) (slot : String) :
    ScopeStep σ V RuntimeError (Instance V) := fun w =>
  if w.alive then handler.read slot w else Effect.error (.scopeClosed slot) w

/-- Runs a program over a scope. -/
def Program.exec (scope : Scope σ V) (handler : Handler σ V) :
    Program σ V α → ScopeStep σ V Fault α
  | finish result => .ok result
  | fail fault => .error fault
  | panic text => .panic text
  | read slot next => (handler.readAlive slot).attempt.andThen fun answer =>
      (next answer).exec scope handler
  | close next => handler.close.attempt.andThen fun answer => (next answer).exec scope handler
  | release next => (Effect.modify fun w => { w with held := false }).andThen fun _ =>
      next.exec scope handler
  | inspect next => Effect.get.andThen fun w => (next (scope.view w)).exec scope handler
  | update change next => Effect.get.andThen fun w =>
      (Effect.modify fun w => { w with host := change w.host }).andThen fun _ =>
        (next w.host).exec scope handler

def checkOpen (slot : String) : ScopeStep σ V RuntimeError Unit := fun w =>
  Effect.ofExcept (w.teardown.checkOpen slot) w

def checkAlive (slot : String) : ScopeStep σ V RuntimeError Unit := fun w =>
  if w.alive then Effect.ok () w else Effect.error (.scopeClosed slot) w

/-- Fails when a call has another number of arguments than the interface. -/
def checkArity (slot : String) (expected actual : Nat) : ScopeStep σ V RuntimeError Unit :=
  if expected = actual then .ok () else .error (.arityMismatch slot expected actual)

/-- The instance that a recipe hands back; a new value gets the next identity. -/
def Made.instance : Made V → ScopeStep σ V ε (Instance V)
  | existing shared => .ok shared
  | fresh value => fun w => some ((w.share value).map .ok id)

namespace Scope

section Rules

variable (scope : Scope σ V) (handler : Handler σ V)

/-- Reads one argument for `slot`; `curried` are the arguments of the caller. -/
def argument (slot : String) (curried : List (Instance V)) :
    Argument → ScopeStep σ V RuntimeError (Arg V)
  | .slot identifier => (handler.read identifier).andThen fun value => .ok (.shared value)
  | .lazy identifier => .ok (.lazy identifier)
  | .curried index =>
    match curried[index.toNat]? with
    | some value => .ok (.shared value)
    | none => .error (missingArgument slot index curried.length)

def arguments (slot : String) (curried : List (Instance V)) :
    List Argument → ScopeStep σ V RuntimeError (List (Arg V))
  | [] => .ok []
  | argument :: rest =>
    (Scope.argument handler slot curried argument).andThen fun value =>
      (arguments slot curried rest).andThen fun values => .ok (value :: values)

/-- Runs a recipe for `slot`; a fault becomes the failure of the slot. -/
def runRecipe (slot : String) (recipe : Program σ V α) : ScopeStep σ V RuntimeError α :=
  (recipe.exec scope handler).mapError (·.atSlot slot)

/-- Closes an instance; one that owns nothing needs no closing. -/
def closeInstance (value : Instance V) : ScopeStep σ V ε (Except Fault Unit) :=
  match scope.host.closerOf value.content with
  | some closer => (closer.exec scope handler).attempt
  | none => .ok (.ok ())

/-- Takes ownership of an instance. After closing has begun it is closed at once instead, whatever
comes of that, and the slot fails. -/
def register (slot : String) (value : Instance V) : ScopeStep σ V RuntimeError Unit := fun w =>
  if w.teardown.closed then
    ((scope.closeInstance handler value).andThen fun _ => Effect.error (.scopeClosed slot)) w
  else
    Effect.modify (fun w => { w with teardown := w.teardown.take slot value }) w

/-- Takes ownership of an instance that must be closeable. -/
def own (slot : String) (value : Instance V) : ScopeStep σ V RuntimeError Unit :=
  if (scope.host.closerOf value.content).isSome then scope.register handler slot value
  else .error (.missingCloser slot)

/-- Runs the recipe of a cached slot on its arguments. -/
def produce (slot : CachedSlot) (values : List (Arg V)) :
    ScopeStep σ V RuntimeError (Instance V) :=
  match slot.recipe with
  | .constructor type =>
    (Effect.ofExcept (scope.recipes.findConstructor type)).andThen fun recipe =>
      (scope.runRecipe handler slot.identifier (recipe ⟨slot.identifier, values⟩)).andThen
        Made.instance
  | .provider holder holderType method =>
    (handler.read holder).andThen fun receiver =>
      (Effect.ofExcept (scope.recipes.findMethod holderType method)).andThen fun recipe =>
        (scope.runRecipe handler slot.identifier
          (recipe receiver ⟨slot.identifier, values⟩)).andThen fun
            | some made => made.instance
            | none => .error (.nullValue slot.identifier)

/-- Creates the instance of a cached slot. -/
def create (slot : CachedSlot) : ScopeStep σ V RuntimeError (Instance V) :=
  (checkOpen slot.identifier).andThen fun _ =>
    (arguments handler slot.identifier [] slot.arguments).andThen fun values =>
      (scope.produce handler slot values).andThen fun value =>
        if slot.closeOnTeardown then
          (scope.own handler slot.identifier value).andThen fun _ => .ok value
        else .ok value

/-- Reads a cached slot. An access that finds the cell empty marks it, creates the instance and
settles the cell with what came of it. -/
def access (slot : CachedSlot) : ScopeStep σ V RuntimeError (Instance V) := fun w =>
  match (w.cells slot.identifier).answer? slot.identifier with
  | some answer => Effect.ofExcept answer w
  | none =>
    match scope.create handler slot (w.setCell slot.identifier .creating) with
    | none => none
    | some (reply, after) =>
      some (reply, after.setCell slot.identifier (.settled slot.identifier reply))

/-- Reads the slot at the end of the aliases from an identifier. -/
def read (identifier : String) : ScopeStep σ V RuntimeError (Instance V) :=
  match scope.served? (scope.target identifier) with
  | some (.ready value) => .ok value
  | some (.cached slot) => scope.access handler slot
  | some (.aliased _) | none => .error (.unknownSlot (scope.target identifier))

/-- Closes everything that is owned, unless closing has begun. -/
def close : ScopeStep σ V CloseError Unit := fun w =>
  if w.teardown.closed then Effect.ok () w
  else
    Effect.andThen (Teardown.closeAll (scope.closeInstance handler) w.teardown.owned)
      (fun failures => Effect.ofExcept (CloseError.ofFailures failures))
      { w with teardown := .begun }

/-- Builds a product of a factory slot from the caller's arguments. -/
def callFactory (slot : FactorySlot) (given : List (Instance V)) :
    ScopeStep σ V RuntimeError (Instance V) :=
  (checkArity slot.identifier slot.parameters.length given.length).andThen fun _ =>
    (checkAlive slot.identifier).andThen fun _ =>
      (checkOpen slot.identifier).andThen fun _ =>
        (arguments handler slot.identifier given slot.arguments).andThen fun values =>
          (Effect.ofExcept (scope.recipes.findConstructor slot.product)).andThen fun recipe =>
            (scope.runRecipe handler slot.identifier (recipe ⟨slot.identifier, values⟩)).andThen
              Made.instance

/-- Calls the target method of an injector slot. Nothing comes back only from a method without a
result. -/
def callInjector (slot : InjectorSlot) (given : List (Instance V)) :
    ScopeStep σ V RuntimeError (Option (Instance V)) :=
  (checkArity slot.identifier slot.parameters.length given.length).andThen fun _ =>
    (checkAlive slot.identifier).andThen fun _ =>
      (checkOpen slot.identifier).andThen fun _ =>
        (handler.read slot.receiver).andThen fun receiver =>
          (arguments handler slot.identifier given slot.arguments).andThen fun values =>
            (Effect.ofExcept
              (scope.recipes.findMethod slot.receiverType slot.targetMethod)).andThen fun recipe =>
              (scope.runRecipe handler slot.identifier
                (recipe receiver ⟨slot.identifier, values⟩)).andThen fun
                  | some made => made.instance.andThen fun value => .ok (some value)
                  | none =>
                    if slot.returnsUnit then .ok none
                    else .error (.nullValue slot.identifier)

end Rules

/-- Answers requests that nest at most this deeply. -/
def handler (scope : Scope σ V) : Nat → Handler σ V
  | 0 => ⟨fun _ => .starved, .starved⟩
  | level + 1 => ⟨scope.read (scope.handler level), scope.close (scope.handler level)⟩

end Scope

end Wiring
