import Wiring.Script.Routine
import Wiring.Scope.Operation

/-! # Clients

A client opens a scope over scripted recipes and then makes requests one after another. It keeps
deferred handles, factories and injectors under names of its own; those can be used after the
client has given up the scope itself, which other requests cannot. After each request it is told
what was answered, what was logged, and how the scope stands as long as the client holds it.
-/

namespace Wiring.Script

/-- An argument of a call: a new value, or what a slot holds. -/
inductive Given where
  | value (payload : Payload)
  | slot (identifier : String)
deriving DecidableEq

inductive Request where
  | get (slot : String)
  /-- Reads a slot that has to hold an instance of a kind. -/
  | resolve (slot : String) (kind : Kind)
  | describe (slot : String)
  /-- Whether two slots hold the same instance. -/
  | same (slot other : String)
  | state (slot : String)
  /-- Keeps a deferred handle. -/
  | lazy (slot name : String)
  | handle (name : String)
  | handleAs (name : String) (kind : Kind)
  /-- Keeps a factory. -/
  | factory (slot name : String)
  /-- Keeps an injector. -/
  | injector (slot name : String)
  | callFactory (name : String) (given : List Given)
  | callFactoryAs (name : String) (kind : Kind) (given : List Given)
  | callInjector (name : String) (given : List Given)
  /-- As many reads of a slot as there are threads. -/
  | race (slot : String) (threads : Nat)
  | close
  | release
  | name
  | text
  /-- A request that nobody knows. -/
  | unknown (word : String)

/-- Whether the client must hold the scope. What was kept under a name can be used without it, and
a request that nobody knows needs nothing. -/
def Request.needsScope : Request → Bool
  | handle _ | handleAs .. | callFactory .. | callFactoryAs .. | callInjector .. => false
  | unknown _ => false
  | _ => true

inductive Result where
  | answer (answer : Answer Payload)
  | described (type : String) (closeable : Bool) (text : String)
  | same (holds : Bool)
  | state (state : Option CellState)
  /-- A handle to a slot was kept. -/
  | kept (slot : String)
  /-- A factory or an injector was kept; its parameters and its text. -/
  | callable (parameters : List String) (text : String)
  /-- The answers of a race, one for each thread. -/
  | race (answers : List (Answer Payload))
  | released
  | text (value : String)
  /-- The client has given up the scope. -/
  | scopeless
  /-- An argument needs the scope, which the client has given up. -/
  | unread (fault : Fault)
  /-- Nothing was kept under the name. -/
  | neverKept (thing : String)
  | unknown (word : String)

/-- An open scope and what its client keeps. -/
structure Client where
  scope : Scope HostState Payload
  world : World HostState Payload
  factories : List (String × FactorySlot) := []
  injectors : List (String × InjectorSlot) := []

/-- What a client is told after a request. -/
structure Outcome where
  result : Result
  events : List Event
  /-- Resources that wait for the closing, and whether it has begun, if the client holds the
  scope. -/
  standing : Option (Nat × Bool)

namespace Client

variable (names : Kind → String)

def opening (scope : Scope HostState Payload) : Except RuntimeError Client := do
  let world ← scope.opened {}
  return { scope, world }

def operate (client : Client) (operation : Operation Payload) : Answer Payload × Client :=
  let (answer, world) := client.scope.operate operation client.world
  (answer, { client with world })

/-- Performs an operation, but keeps the scope alive. -/
def perform (client : Client) (operation : Operation Payload) : Answer Payload × Client :=
  let (answer, world) := client.scope.perform operation client.world
  (answer, { client with world })

/-- Closes the scope if nobody refers to it any more. -/
def settle (client : Client) : Reply CloseError Unit × Client :=
  let (closing, world) := client.scope.settle client.world
  (closing, { client with world })

/-- An answer as one of a kind. -/
def narrowed (slot : String) (kind : Kind) : Answer Payload → Answer Payload
  | .shared value =>
    match ofKind names slot kind value with
    | .ok value => .shared value
    | .error error => .failed error
  | other => other

/-- The arguments of a call from left to right, up to the first that cannot be read. -/
def gather (client : Client) : List Given → Except Result (List Shared) × Client
  | [] => (.ok [], client)
  | .value payload :: rest =>
    let (value, world) := client.world.share payload
    let (values, client) := gather { client with world } rest
    ((value :: ·) <$> values, client)
  | .slot identifier :: rest =>
    if client.world.held then
      match client.operate (.read identifier) with
      | (.shared value, client) =>
        let (values, client) := gather client rest
        ((value :: ·) <$> values, client)
      | (other, client) => (.error (.answer other), client)
    else (.error (.unread (.foreign "no scope")), client)

/-- Calls with the arguments, if they can be read. -/
def call (client : Client) (given : List Given) (operation : List Shared → Operation Payload)
    (conclude : Answer Payload → Answer Payload) : Result × Client :=
  match client.gather given with
  | (.ok values, client) =>
    let (answer, client) := client.operate (operation values)
    (.answer (conclude answer), client)
  | (.error result, client) => (result, client)

/-- Reads a slot and goes on with the instance. -/
def readAnd (client : Client) (slot : String) (next : Shared → Result) : Result × Client :=
  match client.operate (.read slot) with
  | (.shared value, client) => (next value, client)
  | (other, client) => (.answer other, client)

/-- Ends a request: the scope is closed if nobody refers to it any more, and a closer that unwinds
takes the result away. -/
def conclude (client : Client) (result : Result) : Result × Client :=
  match client.settle with
  | (.panic text, client) => (.answer (.panicked text), client)
  | (_, client) => (result, client)

/-- Reads two slots, and compares what they hold. The first failure is answered, but only a panic
keeps the second slot from being read. -/
def compare (client : Client) (slot other : String) : Result × Client :=
  match client.perform (.read slot) with
  | (.panicked text, client) => (.answer (.panicked text), client.settle.2)
  | (first, client) =>
    match first, client.perform (.read other) with
    | .shared value, (.shared value', client) =>
      client.conclude (.same (value.identity = value'.identity))
    | _, (.panicked text, client) => (.answer (.panicked text), client.settle.2)
    | .shared _, (second, client) => client.conclude (.answer second)
    | first, (_, client) => client.conclude (.answer first)

/-- Reads a slot as often as there are threads. -/
def raceFor (client : Client) (slot : String) : Nat → List (Answer Payload) × Client
  | 0 => ([], client)
  | threads + 1 =>
    let (answer, client) := client.perform (.read slot)
    let (answers, client) := raceFor client slot threads
    (answer :: answers, client)

/-- Reads a slot in several threads. -/
def race (client : Client) (slot : String) (threads : Nat) : Result × Client :=
  let (answers, client) := client.raceFor slot threads
  client.conclude (.race answers)

def release (client : Client) : Result × Client :=
  match client.operate .release with
  | (.panicked text, client) => (.answer (.panicked text), client)
  | (_, client) => (.released, client)

/-- Reads the slot behind a kept handle. -/
def follow (client : Client) (name : String)
    (conclude : String → Answer Payload → Answer Payload) : Result × Client :=
  match client.world.host.handles.lookup name with
  | some slot => (client.operate (.read slot)).map (.answer ∘ conclude slot) id
  | none => (.neverKept "handle", client)

/-- Calls a kept factory. -/
def make (client : Client) (name : String) (given : List Given)
    (conclude : String → Answer Payload → Answer Payload) : Result × Client :=
  match client.factories.lookup name with
  | some slot => client.call given (.callFactory slot) (conclude slot.identifier)
  | none => (.neverKept "factory", client)

/-- Keeps a deferred handle to a slot. -/
def keepHandle (client : Client) (slot name : String) : Result × Client :=
  if client.scope.has slot then
    let host := client.world.host
    let host := { host with handles := (name, slot) :: host.handles }
    (.kept slot, { client with world := { client.world with host } })
  else (.answer (.failed (.unknownSlot slot)), client)

/-- Keeps what a slot holds if it is a factory. -/
def keepFactory (client : Client) (slot name : String) : Result × Client :=
  match client.operate (.read slot) with
  | (.shared ⟨_, .factory plan⟩, client) =>
    (.callable plan.parameters plan.text,
      { client with factories := (name, plan) :: client.factories })
  | (other, client) => (.answer (narrowed names slot .factory other), client)

/-- Keeps what a slot holds if it is an injector. -/
def keepInjector (client : Client) (slot name : String) : Result × Client :=
  match client.operate (.read slot) with
  | (.shared ⟨_, .injector plan⟩, client) =>
    (.callable plan.parameters plan.text,
      { client with injectors := (name, plan) :: client.injectors })
  | (other, client) => (.answer (narrowed names slot .injector other), client)

def serve (client : Client) : Request → Result × Client
  | .get slot => (client.operate (.read slot)).map .answer id
  | .resolve slot kind =>
    (client.operate (.read slot)).map (.answer ∘ narrowed names slot kind) id
  | .describe slot => client.readAnd slot fun value =>
    .described (nameOf names value.content)
      (client.scope.host.closerOf value.content).isSome (value.text client.scope.host)
  | .same slot other => client.compare slot other
  | .state slot => (.state (client.scope.state? client.world slot), client)
  | .lazy slot name => client.keepHandle slot name
  | .handle name => client.follow name fun _ => id
  | .handleAs name kind => client.follow name fun slot => narrowed names slot kind
  | .factory slot name => client.keepFactory names slot name
  | .injector slot name => client.keepInjector names slot name
  | .callFactory name given => client.make name given fun _ => id
  | .callFactoryAs name kind given =>
    client.make name given fun slot => narrowed names slot kind
  | .callInjector name given =>
    match client.injectors.lookup name with
    | some slot => client.call given (.callInjector slot) id
    | none => (.neverKept "injector", client)
  | .race slot threads => client.race slot threads
  | .close => (client.operate .close).map .answer id
  | .release => client.release
  | .name => (.text client.scope.plan.qualifiedName, client)
  | .text => (.text (client.scope.text client.world), client)
  | .unknown word => (.unknown word, client)

/-- Takes out what has been logged. -/
def drained (client : Client) : List Event × Client :=
  let host := client.world.host
  (host.events, { client with world := { client.world with host := { host with events := [] } } })

/-- What the client sees of the scope while it holds it. -/
def standing (client : Client) : Option (Nat × Bool) :=
  let w := client.world
  if w.held then some (w.teardown.owned.length, w.teardown.closed) else none

def respond (client : Client) (request : Request) : Outcome × Client :=
  let (result, client) :=
    if request.needsScope && !client.world.held then (.scopeless, client)
    else client.serve names request
  let (events, client) := client.drained
  ({ result, events, standing := client.standing }, client)

/-- Answers requests in order; in the end the client gives up the scope, which may be logged
too. -/
def respondAll (client : Client) : List Request → List Outcome × List Event
  | [] => ([], (client.operate .release).2.drained.1)
  | request :: rest =>
    let (outcome, client) := client.respond names request
    let (outcomes, events) := respondAll client rest
    (outcome :: outcomes, events)

end Client

end Wiring.Script
