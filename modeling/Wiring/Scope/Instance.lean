import Wiring.Plan.Basic
import Wiring.RuntimeError

/-! # Instances and arguments

What a slot holds is shared, not copied: an instance has an identity, and two reads give the same
instance when the identities agree. An identity says where an instance came from, so those of
different origin never agree. The content is a value of the host or, for factory and injector
slots, the slot itself. Recipes get their arguments by position, each an instance or a deferred
handle to a slot.
-/

namespace Wiring

/-- What tells instances apart. -/
inductive Identity where
  /-- The instance of the value supplied for an identifier. -/
  | supplied (identifier : String)
  /-- The instances made one after another. -/
  | made (serial : Nat)
  /-- The one instance of a factory or injector slot. -/
  | slot (identifier : String)
deriving DecidableEq, Repr

inductive Content (V : Type) where
  | host (value : V)
  | factory (slot : FactorySlot)
  | injector (slot : InjectorSlot)
deriving DecidableEq

structure Instance (V : Type) where
  identity : Identity
  content : Content V
deriving DecidableEq

inductive Made (V : Type) where
  /-- An instance that it was given. -/
  | existing (shared : Instance V)
  /-- A new instance with this value. -/
  | fresh (value : V)
deriving DecidableEq

/-- One argument of a recipe. -/
inductive Arg (V : Type) where
  | shared (value : Instance V)
  /-- A deferred handle to a slot. -/
  | lazy (identifier : String)
deriving DecidableEq

structure Arguments (V : Type) where
  /-- The slot that they were read for. -/
  slot : String
  values : List (Arg V)
deriving DecidableEq

/-- A position past the given arguments: one more than the index would be needed, counted in 64
bits. -/
def missingArgument (slot : String) (index : UInt64) (count : Nat) : RuntimeError :=
  .arityMismatch slot (index + 1).toNat count

namespace Arguments

variable {V : Type}

def arg (arguments : Arguments V) (index : UInt64) : Except RuntimeError (Arg V) :=
  match arguments.values[index.toNat]? with
  | some arg => .ok arg
  | none => .error (missingArgument arguments.slot index arguments.values.length)

/-- The instance at a position. -/
def shared (arguments : Arguments V) (index : UInt64) : Except RuntimeError (Instance V) := do
  match ← arguments.arg index with
  | .shared value => return value
  | .lazy _ => throw (.typeMismatch arguments.slot "instance" "lazy handle")

/-- The slot behind the deferred handle at a position; `typeName` names what is there instead. -/
def handle (arguments : Arguments V) (typeName : Content V → String) (index : UInt64) :
    Except RuntimeError String := do
  match ← arguments.arg index with
  | .lazy identifier => return identifier
  | .shared value =>
    throw (.typeMismatch arguments.slot "lazy handle" (typeName value.content))

end Arguments

end Wiring
