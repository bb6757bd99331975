import Wiring.Compilation.Currying
import Wiring.Declaration.Basic

/-! # Bookkeeping of a compilation

A session knows which keys are satisfied and which are needed, by descriptor, and holds the slots
planned so far. Building the key of a parameter registers it as needed; a key that asks for a
factory and is not satisfied joins the queue of factories to generate.
-/

namespace Wiring

/-- What a compilation has found so far. -/
structure Session where
  /-- Satisfied keys in order. -/
  satisfied : List (DirectKey × BindingKind) := []
  /-- Needed keys in order of discovery, each with the first binding that needs it. -/
  required : List (DirectKey × String) := []
  /-- Factory interfaces still to implement, the next one first. -/
  pending : List QualifiedType := []
  values : List ValueSlot := []
  aliases : List AliasSlot := []
  cached : List CachedSlot := []
  factories : List FactorySlot := []
  injectors : List InjectorSlot := []

namespace Session

def bound (session : Session) : List String := session.satisfied.map (·.1.descriptor)

def needed (session : Session) : List String := session.required.map (·.1.descriptor)

def isSatisfied (session : Session) (key : DirectKey) : Bool :=
  session.bound.contains key.descriptor

/-- How the key was satisfied first. -/
def kind? (session : Session) (key : DirectKey) : Option BindingKind :=
  (session.satisfied.find? (·.1.sameAs key)).map (·.2)

/-- Satisfies a key, which must not be satisfied yet. -/
def satisfy (session : Session) (key : DirectKey) (kind : BindingKind) :
    Except CompileError Session :=
  match session.kind? key with
  | some first => .error (.duplicateBinding key.descriptor first kind)
  | none => .ok { session with satisfied := session.satisfied ++ [(key, kind)] }

/-- Notes that `requirer` needs the key; the first one that does is remembered. -/
def note (session : Session) (requirer : String) (key : DirectKey) : Session :=
  if session.needed.contains key.descriptor then session
  else { session with required := session.required ++ [(key, requirer)] }

/-- Queues the factory that the key asks for, unless the key is satisfied. -/
def enqueue (session : Session) (key : Key) : Session :=
  if key.isAutoFactory && !session.isSatisfied key.base then
    { session with pending := session.pending ++ [key.base.qualified] }
  else session

/-- Notes that `requirer` needs the key, and queues a factory that is asked for. -/
def register (session : Session) (requirer : String) (key : Key) : Session :=
  (session.note requirer key.base).enqueue key

/-- Notes that `requirer` needs each of the keys. -/
def registerAll (session : Session) (requirer : String) (keys : List Key) : Session :=
  keys.foldl (·.register requirer) session

/-- Reads every parameter from the scope. -/
def readAll (session : Session) (requirer : String) (params : List QualifiedType) :
    Except CompileError (List Argument × Session) := do
  let keys ← Key.ofParameters params
  return (keys.map Key.argument, session.registerAll requirer keys)

/-- Passes the parameters of an interface method on to a target and reads the rest from the
scope. -/
def curryAll (session : Session) (interface : TypeExpr) (method : Method)
    (params : List QualifiedType) (target : String) :
    Except CompileError (List Argument × Session) := do
  let offered ← Key.ofParameters method.params
  let wanted ← Key.ofParameters params
  let (sources, left) := curry offered.zipIdx wanted
  match left with
  | [] =>
    return (sources.map Source.argument,
      session.registerAll target (sources.filterMap Source.key?))
  | (key, _) :: _ =>
    throw (.unmatchedParameter interface.simpleName method.name key.descriptor target)

/-- Needs an instance of a type, which must not be a deferred handle. -/
def require (session : Session) (requirer : String) (type : QualifiedType) :
    Except CompileError (DirectKey × Session) := do
  let key ← Key.ofType type
  let direct ← key.toDirect
  return (direct, session.register requirer key)

/-- Plans a slot that is created once; its ordinal is its position. -/
def addCached (session : Session) (key : DirectKey) (recipe : Recipe)
    (arguments : List Argument) (closeOnTeardown : Bool) : Session :=
  { session with
    cached := session.cached ++
      [{ ordinal := .ofNat session.cached.length
         identifier := key.identifier
         declared := key.type.simpleName
         descriptor := key.descriptor
         recipe, arguments, closeOnTeardown }] }

def addValue (session : Session) (key : DirectKey) (origin : ValueOrigin) : Session :=
  { session with
    values := session.values ++
      [{ identifier := key.identifier
         declared := key.type.simpleName
         descriptor := key.descriptor
         origin }] }

end Session

end Wiring
