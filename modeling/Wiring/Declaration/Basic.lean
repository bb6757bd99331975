import Wiring.Catalog.Ancestry

/-! # Declarations

Bindings of one scope are declared step by step, in any order, and nothing is resolved until the
scope is compiled. Only aliases are checked at once: the satisfier must be assignable to what it
stands in for, and a key has at most one satisfier. Repeating an alias changes nothing.
-/

namespace Wiring

/-- Requests for `dependency` read the slot of `satisfiedBy`. -/
structure Alias where
  dependency : DirectKey
  satisfiedBy : DirectKey
deriving DecidableEq

/-- Everything declared so far; each list is in order of declaration. -/
structure Declarations where
  /-- Supplied when the scope is opened. -/
  values : List QualifiedType := []
  /-- Built lazily by the selected constructor. -/
  constructors : List TypeExpr := []
  aliases : List Alias := []
  /-- Types whose providing methods are bound. -/
  providers : List TypeExpr := []
  /-- Factory interfaces to implement. -/
  factories : List QualifiedType := []
  /-- Receivers whose marked methods get injectors. -/
  injected : List QualifiedType := []
deriving DecidableEq

/-- The declarations of one scope over a catalog. -/
structure Builder where
  catalog : Catalog
  package : String
  scopeName : String
  /-- A needed key without a binding is an error, not one more value to supply. -/
  explicitValues : Bool := false
  declarations : Declarations := {}

/-- What stands in for the dependency of an alias. -/
inductive Satisfier where
  /-- A key that is bound elsewhere. -/
  | bound (type : QualifiedType)
  /-- A value, which is declared along with the alias. -/
  | value (type : QualifiedType)
  /-- A constructed type, which is declared along with the alias. -/
  | constructed (type : TypeExpr)
deriving DecidableEq

inductive Step where
  | value (type : QualifiedType)
  | values (types : List QualifiedType)
  | constructor (type : TypeExpr)
  | constructors (types : List TypeExpr)
  | satisfy (dependency : QualifiedType) (satisfier : Satisfier)
  | provider (holder : TypeExpr)
  | providers (holders : List TypeExpr)
  | factory (interface : QualifiedType)
  | injectMethods (receiver : QualifiedType)
  | constructorAndInjectMethods (type : TypeExpr)
  | explicitValues (required : Bool)
  /-- A reusable group of steps. -/
  | install (steps : List Step)

namespace Builder

def create (catalog : Catalog) (package scopeName : String) : Builder :=
  { catalog, package, scopeName }

/-- Changes the declarations and nothing else. -/
def declare (builder : Builder) (change : Declarations → Declarations) : Builder :=
  { builder with declarations := change builder.declarations }

def value (builder : Builder) (type : QualifiedType) : Builder :=
  builder.declare fun d => { d with values := d.values ++ [type] }

def constructor (builder : Builder) (type : TypeExpr) : Builder :=
  builder.declare fun d => { d with constructors := d.constructors ++ [type] }

def provider (builder : Builder) (holder : TypeExpr) : Builder :=
  builder.declare fun d => { d with providers := d.providers ++ [holder] }

def factory (builder : Builder) (interface : QualifiedType) : Builder :=
  builder.declare fun d => { d with factories := d.factories ++ [interface] }

def injectMethods (builder : Builder) (receiver : QualifiedType) : Builder :=
  builder.declare fun d => { d with injected := d.injected ++ [receiver] }

def findAlias? (builder : Builder) (dependency : DirectKey) : Option Alias :=
  builder.declarations.aliases.find? (·.dependency.sameAs dependency)

/-- Declares an alias unless it is refused or already there. -/
def declareAlias (builder : Builder) (dependency satisfiedBy : QualifiedType) :
    Except CompileError Builder := do
  let dependencyKey ← DirectKey.ofType dependency
  let satisfierKey ← DirectKey.ofType satisfiedBy
  if !builder.catalog.isAssignable dependency.type satisfiedBy.type then
    throw (.unassignableAlias dependencyKey.descriptor satisfierKey.descriptor)
  match builder.findAlias? dependencyKey with
  | some existing =>
    if existing.satisfiedBy.sameAs satisfierKey then return builder
    throw (.conflictingAlias dependencyKey.descriptor existing.satisfiedBy.descriptor
      satisfierKey.descriptor)
  | none =>
    return builder.declare fun d =>
      { d with aliases := d.aliases ++ [⟨dependencyKey, satisfierKey⟩] }

/-- Declares an alias and whatever its satisfier brings with it. -/
def satisfy (builder : Builder) (dependency : QualifiedType) :
    Satisfier → Except CompileError Builder
  | .bound type => builder.declareAlias dependency type
  | .value type => (·.value type) <$> builder.declareAlias dependency type
  | .constructed type => (·.constructor type) <$> builder.declareAlias dependency (.plain type)

mutual
def apply (builder : Builder) : Step → Except CompileError Builder
  | .value type => .ok (builder.value type)
  | .values types => .ok (types.foldl value builder)
  | .constructor type => .ok (builder.constructor type)
  | .constructors types => .ok (types.foldl constructor builder)
  | .satisfy dependency satisfier => builder.satisfy dependency satisfier
  | .provider holder => .ok (builder.provider holder)
  | .providers holders => .ok (holders.foldl provider builder)
  | .factory interface => .ok (builder.factory interface)
  | .injectMethods receiver => .ok (builder.injectMethods receiver)
  | .constructorAndInjectMethods type =>
    .ok ((builder.constructor type).injectMethods (.plain type))
  | .explicitValues required => .ok { builder with explicitValues := required }
  | .install steps => applyAll builder steps

/-- Applies steps in order, up to the first that is refused. -/
def applyAll (builder : Builder) : List Step → Except CompileError Builder
  | [] => .ok builder
  | step :: rest =>
    match apply builder step with
    | .error error => .error error
    | .ok next => applyAll next rest
end

end Builder

end Wiring
