import Wiring.Key

/-! # What is known of a type

Constructors, methods, declared supertypes and whether instances own a resource. Two choices are
made here: which constructor builds an instance, and the order in which methods are considered.
-/

namespace Wiring

/-- A constructor; `marked` breaks ties between public ones. -/
structure Constructor where
  params : List QualifiedType := []
  isPublic : Bool := true
  marked : Bool := false
deriving DecidableEq

/-- A method and what it may be used for. -/
structure Method where
  name : String
  params : List QualifiedType := []
  /-- A method without a result returns nothing. -/
  returns : Option TypeExpr := none
  /-- Qualifiers of what the method provides. -/
  qualifiers : QualifierSet := .empty
  isPublic : Bool := true
  /-- The result is bound in a scope. -/
  provides : Bool := false
  /-- An injector with the built-in interface is generated. -/
  injected : Bool := false
  /-- An injector with this interface is generated. -/
  injectedAs : Option TypeExpr := none
deriving DecidableEq

namespace Method

def parameters (method : Method) : List String := method.params.map (·.descriptor)

/-- Methods are ordered by name, then by parameter descriptors. -/
def precedes (a b : Method) : Bool :=
  decide (a.name < b.name) ||
    (a.name = b.name && !b.parameters.lex a.parameters fun first second => decide (first < second))

end Method

/-- Everything known of one nominal type. -/
structure TypeInfo where
  name : String
  /-- Names of the direct supertypes. -/
  supertypes : List String := []
  /-- Instances own a resource that a scope has to close. -/
  closeable : Bool := false
  constructors : List Constructor := []
  methods : List Method := []
deriving DecidableEq

namespace TypeInfo

/-- The constructor that builds an instance: the only public one, or the only marked one among
several. -/
def selectConstructor (info : TypeInfo) : Except CompileError Constructor :=
  match info.constructors.filter (·.isPublic) with
  | [] => .error (.noPublicConstructor info.name)
  | [only] => .ok only
  | several =>
    match several.filter (·.marked) with
    | [] => .error (.ambiguousConstructor info.name)
    | [chosen] => .ok chosen
    | _ => .error (.multipleMarkedConstructors info.name)

/-- Methods in order of signature; methods with one signature keep their order. -/
def sortedMethods (info : TypeInfo) : List Method := info.methods.mergeSort Method.precedes

end TypeInfo

end Wiring
