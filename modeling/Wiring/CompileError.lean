import Wiring.Binding
import Wiring.Text.Quoted

/-! # Why a configuration is refused

Each cause has a constructor of its own, which holds the names its message mentions. Compilation
reports the first cause it meets and never guesses past one.
-/

namespace Wiring

/-- A chain of slots, each of which reads the next. -/
def renderChain (slots : List String) : String := " → ".intercalate slots

/-- A cause for refusing declarations. Keys appear by their descriptors. -/
inductive CompileError where
  /-- A needed key has no binding and values must be declared. -/
  | notRegistered (requested : String) (requiredBy : Option String) (suggestions : List String)
  /-- Eager reads form a cycle; the chain ends at the slot it starts from. -/
  | circularDependency (chain : List String)
  /-- Two bindings satisfy one key. -/
  | duplicateBinding (key : String) (first second : BindingKind)
  /-- The satisfier of an alias is not a subtype of what it stands in for. -/
  | unassignableAlias (dependency satisfiedBy : String)
  /-- A key already has a different satisfier. -/
  | conflictingAlias (dependency existing requested : String)
  /-- A factory or injector interface does not declare exactly one method. -/
  | notSingleMethod (interface : String) (count : Nat)
  /-- Several public constructors, none of them marked. -/
  | ambiguousConstructor (type : String)
  /-- Several public constructors are marked. -/
  | multipleMarkedConstructors (type : String)
  | noPublicConstructor (type : String)
  /-- A deferred handle carries the factory qualifier. -/
  | lazyFactory (descriptor : String)
  /-- A deferred handle to a deferred handle. -/
  | nestedLazy (descriptor : String)
  /-- A deferred handle without exactly one argument. -/
  | malformedLazy (descriptor : String)
  /-- A deferred handle where an instance is needed. -/
  | lazyNotPermitted (descriptor : String)
  /-- A payload with a character outside its alphabet. -/
  | invalidPayload (tag payload : String)
  /-- The catalog does not know a type. -/
  | missingMetadata (type : String)
  | providerNotPublic (holder method : String)
  | providerWithoutProduct (holder method : String)
  | factoryWithoutProduct (interface method : String)
  /-- An interface parameter that no target parameter takes. -/
  | unmatchedParameter (interface method parameter target : String)
  /-- Two slots derive one identifier. -/
  | duplicateIdentifier (identifier first second : String)
deriving DecidableEq, Repr

/-- The lines that offer similar names, or nothing when there are none. -/
def suggestionLines (suggestions : List String) : String :=
  if suggestions.isEmpty then ""
  else "\n  Did you mean one of:" ++ String.join (suggestions.map ("\n    - " ++ ·))

namespace CompileError

/-- The word by which the cause is known to programs. -/
def kind : CompileError → String
  | notRegistered .. => "NotRegistered"
  | circularDependency .. => "CircularDependency"
  | duplicateBinding .. => "DuplicateBinding"
  | unassignableAlias .. => "UnassignableAlias"
  | conflictingAlias .. => "ConflictingAlias"
  | notSingleMethod .. => "NotSingleMethodInterface"
  | ambiguousConstructor .. => "AmbiguousConstructor"
  | multipleMarkedConstructors .. => "MultipleInjectConstructors"
  | noPublicConstructor .. => "NoPublicConstructor"
  | lazyFactory .. => "LazyFactory"
  | nestedLazy .. => "NestedLazy"
  | malformedLazy .. => "MalformedLazy"
  | lazyNotPermitted .. => "LazyNotPermitted"
  | invalidPayload .. => "InvalidQualifierPayload"
  | missingMetadata .. => "MissingMetadata"
  | providerNotPublic .. => "ProviderMethodNotPublic"
  | providerWithoutProduct .. => "ProviderWithoutProduct"
  | factoryWithoutProduct .. => "FactoryWithoutProduct"
  | unmatchedParameter .. => "UnmatchedFactoryParameter"
  | duplicateIdentifier .. => "DuplicateIdentifier"

def message : CompileError → String
  | notRegistered requested requiredBy suggestions =>
    "Dependency not bound: " ++ requested
      ++ (match requiredBy with
          | some parent => "\n  Required by: " ++ parent
          | none => "")
      ++ suggestionLines suggestions
      ++ "\n  Hint: Declare it with .instance(..) or disable require_explicit_values"
  | circularDependency chain =>
    "Circular dependency detected:\n  " ++ renderChain chain
      ++ "\n  Hint: Depend on Lazy<T> for one edge of the cycle, or restructure your bindings"
  | duplicateBinding key first second =>
    "Dependency bound twice: " ++ key ++ " (as " ++ first.label ++ " and as " ++ second.label ++ ")"
      ++ "\n  Hint: Keep one binding, or use qualifiers to tell the two apart"
  | unassignableAlias dependency satisfiedBy =>
    dependency ++ " is not assignable from " ++ satisfiedBy
  | conflictingAlias dependency existing requested =>
    "Conflicting satisfiers for " ++ dependency ++ ": already satisfied by " ++ existing
      ++ ", cannot also use " ++ requested
  | notSingleMethod interface count =>
    interface ++ " must declare exactly one method, found " ++ toString count
  | ambiguousConstructor type =>
    "Ambiguous constructor selection for " ++ type
      ++ ", mark one with inject or declare only one public constructor"
  | multipleMarkedConstructors type =>
    "Cannot have more than one inject constructor for " ++ type
  | noPublicConstructor type => type ++ " has no public constructor"
  | lazyFactory descriptor => "Lazy types are not factories: " ++ descriptor
  | nestedLazy descriptor => "Nested lazy types are not supported: " ++ descriptor
  | malformedLazy descriptor => "Lazy must have exactly one type argument: " ++ descriptor
  | lazyNotPermitted descriptor =>
    "Type " ++ descriptor ++ " resulted in a lazy key where only a direct key is permitted"
  | invalidPayload tag payload =>
    "Invalid named qualifier payload " ++ Text.quoted payload ++ " for @" ++ tag
      ++ ": only [a-zA-Z0-9-] is allowed"
  | missingMetadata type => "No metadata for type " ++ type
  | providerNotPublic holder method =>
    "Provider method " ++ holder ++ "::" ++ method ++ " must be public"
  | providerWithoutProduct holder method =>
    "Provider method " ++ holder ++ "::" ++ method ++ " does not return a value"
  | factoryWithoutProduct interface method =>
    "Factory method " ++ interface ++ "::" ++ method ++ " does not return a value"
  | unmatchedParameter interface method parameter target =>
    "Parameter " ++ parameter ++ " of " ++ interface ++ "::" ++ method
      ++ " does not match any parameter of " ++ target
  | duplicateIdentifier identifier first second =>
    "Slot identifier " ++ identifier ++ " is derived by both " ++ first ++ " and " ++ second

end CompileError

end Wiring
