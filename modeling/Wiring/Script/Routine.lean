import Wiring.Scope.Opening
import Wiring.Script.Value

/-! # Recipes as data

A scripted recipe logs that it runs, performs its actions up to the first that fails, and then
hands back a product. New objects and resources are numbered in the order in which they are made,
over all recipes. A closer performs actions too, but has no arguments and no receiver.

Scripts refer to the scope only through the client's reference: once that is given up, actions
that need the scope fail.
-/

namespace Wiring.Script

abbrev HostProgram := Program HostState Payload

/-- What is at hand when actions are performed. -/
structure Context where
  arguments : Option (Arguments Payload) := none
  receiver : Option Shared := none

namespace Context

/-- The arguments, for an action that needs them. -/
def given (context : Context) : Except Fault (Arguments Payload) :=
  match context.arguments with
  | some arguments => .ok arguments
  | none => .error (.foreign "no arguments")

/-- Short texts of all arguments. -/
def parts (context : Context) : List String :=
  match context.arguments with
  | some arguments => arguments.values.map shortArg
  | none => []

end Context

/-- A failure of the scope as a fault. -/
def asFault {α : Type} : Except RuntimeError α → Except Fault α
  | .ok value => .ok value
  | .error error => .error (.runtime error)

/-- An instance as one of a kind; `names` gives the type names and `slot` the place. -/
def ofKind (names : Kind → String) (slot : String) (kind : Kind) (value : Shared) :
    Except RuntimeError Shared :=
  if kindOf value.content = kind then .ok value
  else .error (.typeMismatch slot (names kind) (names (kindOf value.content)))

def logged (event : Event) : HostProgram Unit :=
  .modify fun host => { host with events := host.events ++ [event] }

def nextName (label : String) : HostProgram String :=
  .update (fun host => { host with made := host.made + 1 }) fun before =>
    .finish (label ++ "#" ++ toString (before.made + 1))

section Actions

variable (names : Kind → String)

def nameOf (content : Content Payload) : String := names (kindOf content)

/-- Performs a deed with the scope, unless the client's reference has been given up. -/
def withScope {α : Type} (deed : ScopeView → HostProgram (Except Fault α)) :
    HostProgram (Except Fault α) :=
  .inspect fun view => if view.held then deed view else .finish (.error (.foreign "no scope"))

/-- Slot of the deferred argument at a position. -/
def Context.handle (context : Context) (index : UInt64) : Except Fault String := do
  let arguments ← context.given
  asFault (arguments.handle (nameOf names) index)

/-- Performs a deed; what it reports, or its failure, is left to the caller. -/
def Deed.perform (context : Context) : Deed → HostProgram (Except Fault (Option Report))
  | countArguments => .finish do
    let arguments ← context.given
    return some (.arguments arguments.slot arguments.values.length)
  | argument index => .finish do
    let arguments ← context.given
    return some (.shared (← asFault (arguments.shared index)))
  | argumentAs index kind => .finish do
    let arguments ← context.given
    let value ← asFault (arguments.shared index)
    return some (.shared (← asFault (ofKind names arguments.slot kind value)))
  | handle index => .finish do
    return some (.handle (← context.handle names index))
  | force index =>
    match context.handle names index with
    | .ok slot => .read slot fun answer => .finish ((some ∘ .shared) <$> asFault answer)
    | .error fault => .finish (.error fault)
  | keep index name =>
    match context.handle names index with
    | .ok slot =>
      .update (fun host => { host with handles := (name, slot) :: host.handles }) fun _ =>
        .finish (.ok none)
    | .error fault => .finish (.error fault)
  | receiver => .finish (.ok (context.receiver.map .shared))
  | read slot => withScope fun _ =>
    .read slot fun answer => .finish ((some ∘ .shared) <$> asFault answer)
  | state slot => withScope fun view => .finish (.ok (some (.state (view.state slot))))
  | owned => withScope fun view => .finish (.ok (some (.owned view.owned)))
  | close => withScope fun _ => .close fun
    | .ok () => .finish (.ok (some .closed))
    | .error error => .finish (.ok (some (.unclosed error)))
  | release => .release (.finish (.ok (some .released)))
  | fail text => .finish (.error (.foreign text))
  | panic text => .panic text
  | raise error => .finish (.error (.runtime error))
  | pause => .finish (.ok none)

def Action.perform (context : Context) (action : Action) : HostProgram Unit := do
  match ← action.deed.perform names context with
  | .ok (some report) => logged (.reported report)
  | .ok none => .finish ()
  | .error fault =>
    if action.tolerant then logged (.reported (.fault fault)) else .fail fault

/-- Performs actions in order, up to the first that fails. -/
def performAll (context : Context) : List Action → HostProgram Unit
  | [] => .finish ()
  | action :: rest => do
    action.perform names context
    performAll context rest

def Closing.closer (closing : Closing) (id : String) : HostProgram Unit := do
  logged (.closing id)
  performAll names {} closing.actions
  match closing.failure with
  | some text => .fail (.foreign text)
  | none => .finish ()

/-- A scripted host with these type names. -/
def host : Host HostState Payload where
  typeName value := names value.kind
  factoryName := names .factory
  injectorName := names .injector
  closer
    | .resource id _ closing => some (closing.closer names id)
    | _ => none

inductive Product where
  /-- A new object, made from all arguments. -/
  | object
  /-- A new resource, made from all arguments. -/
  | resource (closing : Closing)
  | value (payload : Payload)
  /-- The very instance that was given as an argument. -/
  | argument (index : UInt64)
  /-- The instance behind a deferred argument. -/
  | force (index : UInt64)
  | receiver
  | nothing
deriving DecidableEq

/-- Ends with what is known already. -/
def settled {α : Type} : Except Fault α → HostProgram α
  | .ok value => .finish value
  | .error fault => .fail fault

/-- Makes a product; `label` begins the names of new objects. -/
def Product.make (label : String) (context : Context) :
    Product → HostProgram (Option (Made Payload))
  | object => do
    let id ← nextName label
    return some (.fresh (.object id context.parts))
  | resource closing => do
    let id ← nextName label
    return some (.fresh (.resource id context.parts closing))
  | value payload => .finish (some (.fresh payload))
  | argument index => do
    let arguments ← settled context.given
    return some (.existing (← settled (asFault (arguments.shared index))))
  | force index => do
    let slot ← settled (context.handle names index)
    return some (.existing (← .get slot))
  | receiver => .finish (context.receiver.map .existing)
  | nothing => .finish none

end Actions

/-- What a recipe does: actions, then a product. -/
structure Routine where
  actions : List Action := []
  product : Product := .object
deriving DecidableEq

/-- A routine for the constructor of a type, or for a method of it. -/
structure Registration where
  type : String
  method : Option String := none
  routine : Routine := {}
deriving DecidableEq

/-- The routine for what a cached slot calls: it makes a resource where one has to be closed. -/
def defaultCached (slot : CachedSlot) : Registration :=
  let routine : Routine := if slot.closeOnTeardown then { product := .resource {} } else {}
  match slot.recipe with
  | .constructor type => { type := type.name, routine }
  | .provider _ holderType method => { type := holderType.name, method := some method, routine }

/-- The routine for what a factory calls. -/
def defaultFactory (slot : FactorySlot) : Registration := { type := slot.product.name }

/-- The routine for what an injector calls; it hands back nothing if nothing is expected. -/
def defaultInjector (slot : InjectorSlot) : Registration where
  type := slot.receiverType.name
  method := some slot.targetMethod
  routine := if slot.returnsUnit then { product := .nothing } else {}

/-- Routines for everything that a plan calls; later ones replace earlier ones. -/
def defaults (plan : Plan) : List Registration :=
  plan.injectors.map defaultInjector ++ plan.factories.map defaultFactory
    ++ plan.cached.map defaultCached

section Tables

variable (names : Kind → String)

/-- The constructor that a routine amounts to; it has to hand back something. -/
def Routine.constructor (type : String) (routine : Routine) :
    ConstructorRecipe HostState Payload := fun arguments => do
  let context : Context := { arguments := some arguments }
  logged (.constructing type)
  performAll names context routine.actions
  match ← routine.product.make names type context with
  | some made => return made
  | none => .fail (.foreign "no product")

def Routine.method (type method : String) (routine : Routine) :
    MethodRecipe HostState Payload := fun receiver arguments => do
  let context : Context := { arguments := some arguments, receiver := some receiver }
  logged (.calling type method (short receiver.content))
  performAll names context routine.actions
  routine.product.make names (type ++ "." ++ method) context

/-- Adds a registration to a table. -/
def register (table : RecipeTable HostState Payload) (registration : Registration) :
    RecipeTable HostState Payload :=
  let type := registration.type
  match registration.method with
  | none => table.withConstructor type (registration.routine.constructor names type)
  | some method =>
    table.withMethod type method (registration.routine.method names type method)

/-- The table of a list of registrations; later ones replace earlier ones. -/
def table (registrations : List Registration) : RecipeTable HostState Payload :=
  registrations.foldl (register names) {}

end Tables

/-- Objects for the values of a plan that are not among the given ones. -/
def standIns (plan : Plan) (given : List (String × Payload)) : List (String × Payload) :=
  (plan.required.filter fun identifier => (given.lookup identifier).isNone).map fun identifier =>
    (identifier, .object ("$" ++ identifier) [])

end Wiring.Script
