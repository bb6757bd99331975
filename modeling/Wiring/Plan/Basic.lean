import Wiring.Key

/-! # Plans

A plan lists every slot of a scope: values supplied from outside, aliases, slots created once and
kept, factories and injectors, in that order. Slots refer to each other by identifier. Nothing in
the data excludes a reference to no slot or an identifier used twice, since a plan may also be
written by hand; a compiled plan has neither.
-/

namespace Wiring

/-- Where a value slot comes from. -/
inductive ValueOrigin where
  | declared
  /-- Needed by some binding and bound by none. -/
  | implicit
deriving DecidableEq, Repr

/-- A value supplied when the scope is opened. -/
structure ValueSlot where
  identifier : String
  declared : String
  descriptor : String
  origin : ValueOrigin
deriving DecidableEq, Repr

structure AliasSlot where
  identifier : String
  declared : String
  descriptor : String
  target : String
deriving DecidableEq, Repr

inductive Recipe where
  | constructor (type : TypeExpr)
  /-- A method called on the instance in the slot `holder`. -/
  | provider (holder : String) (holderType : TypeExpr) (method : String)
deriving DecidableEq

inductive Argument where
  /-- The instance in a slot. -/
  | slot (identifier : String)
  /-- A deferred handle to a slot. -/
  | lazy (identifier : String)
  /-- What the caller passes at this position. -/
  | curried (index : UInt64)
deriving DecidableEq, Repr

/-- The slot that the argument reads, now or later. -/
def Argument.slot? : Argument → Option String
  | slot identifier => some identifier
  | lazy identifier => some identifier
  | curried _ => none

/-- The slot that has to be read before the recipe can be called. -/
def Argument.eagerSlot? : Argument → Option String
  | slot identifier => some identifier
  | lazy _ => none
  | curried _ => none

/-- A slot whose value is created on first access and kept. -/
structure CachedSlot where
  /-- Position among the cached slots of a compilation. -/
  ordinal : UInt64
  identifier : String
  declared : String
  descriptor : String
  recipe : Recipe
  arguments : List Argument
  /-- The created instance owns a resource that the scope closes. -/
  closeOnTeardown : Bool
deriving DecidableEq

/-- A factory that builds a product from the caller's arguments and the scope. -/
structure FactorySlot where
  identifier : String
  declared : String
  descriptor : String
  /-- The interface method that is implemented. -/
  method : String
  /-- Descriptors of the interface parameters. -/
  parameters : List String
  product : TypeExpr
  /-- Arguments of the product's constructor. -/
  arguments : List Argument
deriving DecidableEq

/-- A forwarder to a method of an instance in the scope. -/
structure InjectorSlot where
  identifier : String
  interface : TypeExpr
  method : String
  parameters : List String
  /-- Identifier of the slot that holds the receiver. -/
  receiver : String
  receiverType : TypeExpr
  targetMethod : String
  arguments : List Argument
  /-- The target method returns nothing. -/
  returnsUnit : Bool
deriving DecidableEq

/-- The text that names a method of a type. -/
def methodText (type : TypeExpr) (method : String) : String := type.simpleName ++ "#" ++ method

inductive Slot where
  | value (slot : ValueSlot)
  | aliased (slot : AliasSlot)
  | cached (slot : CachedSlot)
  | factory (slot : FactorySlot)
  | injector (slot : InjectorSlot)
deriving DecidableEq

namespace Slot

def identifier : Slot → String
  | value slot => slot.identifier
  | aliased slot => slot.identifier
  | cached slot => slot.identifier
  | factory slot => slot.identifier
  | injector slot => slot.identifier

/-- The text by which diagnostics name the slot. -/
def describe : Slot → String
  | value slot => slot.descriptor
  | aliased slot => slot.descriptor
  | cached slot => slot.descriptor
  | factory slot => slot.descriptor
  | injector slot => methodText slot.receiverType slot.targetMethod

def kind : Slot → BindingKind
  | value _ => .value
  | aliased _ => .aliased
  | cached slot =>
    match slot.recipe with
    | .constructor _ => .constructor
    | .provider .. => .provider
  | factory _ => .factory
  | injector _ => .injector

/-- The slots that have to exist before this one can be read. What a factory or an injector
reads, it reads when called, so it has none. -/
def eagerDependencies : Slot → List String
  | value _ => []
  | aliased slot => [slot.target]
  | cached slot =>
    let holder := match slot.recipe with
      | .constructor _ => []
      | .provider holder _ _ => [holder]
    holder ++ slot.arguments.filterMap Argument.eagerSlot?
  | factory _ => []
  | injector _ => []

end Slot

/-- The slots of one scope. -/
structure Plan where
  package : String
  scopeName : String
  /-- Declared values, then implicit ones. -/
  values : List ValueSlot
  aliases : List AliasSlot
  cached : List CachedSlot
  factories : List FactorySlot
  injectors : List InjectorSlot
deriving DecidableEq

namespace Plan

/-- Every slot: values, aliases, cached slots, factories, injectors. -/
def slots (plan : Plan) : List Slot :=
  plan.values.map .value ++ plan.aliases.map .aliased ++ plan.cached.map .cached
    ++ plan.factories.map .factory ++ plan.injectors.map .injector

def identifiers (plan : Plan) : List String := plan.slots.map (·.identifier)

/-- The first slot that carries the identifier. -/
def slot? (plan : Plan) (identifier : String) : Option Slot :=
  plan.slots.find? (·.identifier = identifier)

/-- The last slot that carries the identifier, which shadows any earlier one. -/
def lastSlot? (plan : Plan) (identifier : String) : Option Slot :=
  plan.slots.reverse.find? (·.identifier = identifier)

def qualifiedName (plan : Plan) : String :=
  if plan.package.isEmpty then plan.scopeName else plan.package ++ "." ++ plan.scopeName

/-- Looks for two slots with one identifier; `earlier` lists the slots passed, the nearest
first. -/
def firstCollision (earlier : List Slot) : List Slot → Option (Slot × Slot)
  | [] => none
  | slot :: rest =>
    match earlier.find? (·.identifier = slot.identifier) with
    | some first => some (first, slot)
    | none => firstCollision (slot :: earlier) rest

/-- Refuses a plan in which two slots share an identifier. -/
def checkIdentifiers (plan : Plan) : Except CompileError Unit :=
  match firstCollision [] plan.slots with
  | some (first, second) =>
    .error (.duplicateIdentifier second.identifier first.describe second.describe)
  | none => .ok ()

end Plan

end Wiring
