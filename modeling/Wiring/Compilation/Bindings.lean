import Wiring.Compilation.Session
import Wiring.Suggestion
import Wiring.Success

/-! # Resolving declared bindings

Each kind of declaration extends the session by its own rule. Constructor bindings and provided
methods satisfy a key and plan a slot that is created once; injectors and aliases plan a slot
without satisfying one here, since alias keys are satisfied before all else.
-/

namespace Wiring.Session

/-- A declared value satisfies its key. -/
def seedValue (session : Session) (type : QualifiedType) : Except CompileError Session := do
  let key ← DirectKey.ofType type
  let session ← session.satisfy key .value
  return session.addValue key .declared

/-- The dependency of an alias is satisfied. -/
def seedAlias (session : Session) (declared : Alias) : Except CompileError Session :=
  session.satisfy declared.dependency .aliased

def bindConstructor (catalog : Catalog) (session : Session) (type : TypeExpr) :
    Except CompileError Session := do
  let info ← catalog.require type.name
  let constructor ← info.selectConstructor
  let key ← DirectKey.ofType (.plain type)
  let session ← session.satisfy key .constructor
  let (arguments, session) ← session.readAll key.descriptor constructor.params
  return session.addCached key (.constructor type) arguments (catalog.isCloseable type)

/-- Binds what one method of a holder provides. -/
def bindProvided (catalog : Catalog) (holderType : TypeExpr) (holder : DirectKey)
    (session : Session) (method : Method) : Except CompileError Session := do
  if !method.provides then return session
  if !method.isPublic then throw (.providerNotPublic holderType.simpleName method.name)
  match method.returns with
  | none => throw (.providerWithoutProduct holderType.simpleName method.name)
  | some product =>
    let key ← DirectKey.ofType ⟨product, method.qualifiers⟩
    let session ← session.satisfy key .provider
    let (arguments, session) ← session.readAll key.descriptor method.params
    return session.addCached key (.provider holder.identifier holderType method.name) arguments
      (catalog.isCloseable product)

def bindProvider (catalog : Catalog) (session : Session) (holderType : TypeExpr) :
    Except CompileError Session := do
  let (holder, session) ←
    session.require ("providers of " ++ holderType.simpleName) (.plain holderType)
  let info ← catalog.require holderType.name
  info.sortedMethods.foldlM (bindProvided catalog holderType holder) session

/-- The interface of the injector for a method, if it gets one. -/
def injectorInterface? (method : Method) : Option TypeExpr :=
  match method.injectedAs with
  | some interface => some interface
  | none =>
    if method.injected then some (.returner (method.returns.getD .unit)) else none

/-- Plans the injector for one method of a receiver. -/
def bindInjector (catalog : Catalog) (receiverType : TypeExpr) (receiver : DirectKey)
    (session : Session) (method : Method) : Except CompileError Session := do
  match injectorInterface? method with
  | none => return session
  | some interface =>
    let implemented ← catalog.singleMethod interface
    let (arguments, session) ← session.curryAll interface implemented method.params
      (methodText receiverType method.name)
    return { session with
      injectors := session.injectors ++
        [{ identifier := receiverType.name ++ "_" ++ method.name
           interface
           method := implemented.name
           parameters := implemented.parameters
           receiver := receiver.identifier
           receiverType
           targetMethod := method.name
           arguments
           returnsUnit := method.returns.isNone }] }

def bindInjectors (catalog : Catalog) (session : Session) (receiverType : QualifiedType) :
    Except CompileError Session := do
  let (receiver, session) ←
    session.require ("injectors of " ++ receiverType.descriptor) receiverType
  let info ← catalog.require receiverType.type.name
  info.sortedMethods.foldlM (bindInjector catalog receiverType.type receiver) session

/-- Plans the slot of an alias; its target is needed. The key of the target is read off its type
again, so a target that asks for a factory joins the queue. -/
def addAlias (session : Session) (declared : Alias) : Except CompileError Session := do
  let target ← Key.ofType declared.satisfiedBy.qualified
  let session := session.register declared.dependency.descriptor target
  return { session with
    aliases := session.aliases ++
      [{ identifier := declared.dependency.identifier
         declared := declared.dependency.type.simpleName
         descriptor := declared.dependency.descriptor
         target := declared.satisfiedBy.identifier }] }

/-- Implements a factory interface, unless its key is satisfied. -/
def bindFactory (catalog : Catalog) (session : Session) (interface : QualifiedType) :
    Except CompileError Session := do
  let key ← DirectKey.ofType interface
  if session.isSatisfied key then return session
  let session ← session.satisfy key .factory
  let method ← catalog.singleMethod interface.type
  match method.returns with
  | none => throw (.factoryWithoutProduct interface.type.simpleName method.name)
  | some product =>
    let info ← catalog.require product.name
    let constructor ← info.selectConstructor
    let (arguments, session) ← session.curryAll interface.type method constructor.params
      (product.simpleName ++ " constructor")
    return { session with
      factories := session.factories ++
        [{ identifier := key.identifier
           declared := key.type.simpleName
           descriptor := key.descriptor
           method := method.name
           parameters := method.parameters
           product, arguments }] }

/-- How many suggestions accompany a key that is not bound. -/
def suggestionLimit : Nat := 3

/-- A needed key that nothing satisfies becomes one more value to supply, or an error when values
have to be declared. -/
def addImplicit (explicitValues : Bool) (session : Session) (needed : DirectKey × String) :
    Except CompileError Session :=
  let (key, requirer) := needed
  if session.isSatisfied key then .ok session
  else if explicitValues then
    .error (.notRegistered key.descriptor (some requirer)
      (Suggestion.similar key.descriptor session.bound suggestionLimit))
  else .ok (session.addValue key .implicit)

end Wiring.Session
