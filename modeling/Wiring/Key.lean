import Wiring.Qualifier
import Wiring.TypeExpr

/-! # Keys

A key says what a dependency asks for: an instance of a type under some qualifiers, a deferred
handle to such an instance, or a generated factory. Keys are equal when their descriptors are.
The slot that answers a key is named by its identifier; a deferred handle shares the slot of the
instance it defers.
-/

namespace Wiring

/-- An occurrence of a type with its qualifiers. -/
structure QualifiedType where
  type : TypeExpr
  qualifiers : QualifierSet := .empty
deriving DecidableEq

namespace QualifiedType

def plain (type : TypeExpr) : QualifiedType := ⟨type, .empty⟩

/-- Qualifier declarations and the simple name, or the simple name alone. -/
def descriptor (qualified : QualifiedType) : String :=
  if qualified.qualifiers.isEmpty then qualified.type.simpleName
  else qualified.qualifiers.text ++ " " ++ qualified.type.simpleName

/-- Occurrences are compared by type and by qualifier identifiers. -/
def sameAs (a b : QualifiedType) : Bool :=
  a.type = b.type && a.qualifiers.sameAs b.qualifiers

end QualifiedType

/-- A request for an instance, so never for a deferred handle. -/
structure DirectKey where
  qualified : QualifiedType
  notLazy : qualified.type.isLazy = false
deriving DecidableEq

namespace DirectKey

def type (key : DirectKey) : TypeExpr := key.qualified.type

def qualifiers (key : DirectKey) : QualifierSet := key.qualified.qualifiers

/-- The text that decides equality and order of keys. -/
def descriptor (key : DirectKey) : String := key.qualified.descriptor

/-- Name of the slot: all type names run together, with a small initial, then the qualifier
identifiers, each behind `_0`. -/
def identifier (key : DirectKey) : String :=
  Identifier.lowerFirst (String.join key.type.allNames)
    ++ String.join (key.qualifiers.identifiers.map ("_0" ++ ·))

/-- Keys are compared by descriptor. -/
def sameAs (a b : DirectKey) : Bool := a.descriptor = b.descriptor

end DirectKey

/-- What a dependency asks for. -/
inductive Key where
  /-- An instance. -/
  | direct (key : DirectKey)
  /-- A deferred handle to the instance of the wrapped key. -/
  | lazy (key : DirectKey)
  /-- A generated factory. -/
  | autoFactory (key : DirectKey)
deriving DecidableEq

/-- The descriptor of a deferred handle to what `inner` describes. -/
def lazyDescriptor (inner : String) : String := TypeExpr.lazyName ++ "<" ++ inner ++ ">"

namespace Key

/-- The key that a qualified type asks for. A deferred handle is unwrapped once; it cannot ask
for a factory, cannot be nested, and needs exactly one argument. -/
def ofType (qualified : QualifiedType) : Except CompileError Key :=
  if isLazy : qualified.type.isLazy = true then
    if qualified.qualifiers.isAutoFactory then .error (.lazyFactory qualified.descriptor)
    else match qualified.type.args with
      | [inner] =>
        if innerLazy : inner.isLazy = true then .error (.nestedLazy qualified.descriptor)
        else .ok (.lazy ⟨⟨inner, qualified.qualifiers⟩, Bool.eq_false_iff.mpr innerLazy⟩)
      | _ => .error (.malformedLazy qualified.descriptor)
  else
    let key : DirectKey := ⟨qualified, Bool.eq_false_iff.mpr isLazy⟩
    .ok (if qualified.qualifiers.isAutoFactory then .autoFactory key else .direct key)

def base : Key → DirectKey
  | direct key => key
  | lazy key => key
  | autoFactory key => key

/-- The text that decides equality and order of keys. -/
def descriptor : Key → String
  | direct key => key.descriptor
  | lazy key => lazyDescriptor key.descriptor
  | autoFactory key => key.descriptor

/-- Name of the slot that answers the request. -/
def identifier (key : Key) : String := key.base.identifier

def isLazy : Key → Bool
  | lazy _ => true
  | _ => false

def isAutoFactory : Key → Bool
  | autoFactory _ => true
  | _ => false

/-- The request for an instance, where a deferred handle will not do. -/
def toDirect : Key → Except CompileError DirectKey
  | direct key => .ok key
  | autoFactory key => .ok key
  | lazy key => .error (.lazyNotPermitted (lazyDescriptor key.descriptor))

/-- Keys are compared by descriptor. -/
def sameAs (a b : Key) : Bool := a.descriptor = b.descriptor

end Key

/-- The key of a type that must not be a deferred handle. -/
def DirectKey.ofType (qualified : QualifiedType) : Except CompileError DirectKey :=
  Key.ofType qualified >>= Key.toDirect

end Wiring
