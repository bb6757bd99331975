import Wiring.RuntimeError
import Wiring.Text.Layout

/-! # Teardown

A scope takes ownership of resources as they are created and closes each of them once, in the
order in which they were taken, going on past failures. Closing begins once; from then on nothing
is taken any more, and a resource that arrives late is closed at once by whoever brings it.

The rules hold for any kind of resource and for any effect that closing one may have.
-/

namespace Wiring

/-- A resource that failed to close. -/
structure CloseFailure where
  slot : String
  fault : Fault
deriving DecidableEq, Repr

/-- Every failure of one closing, in order. -/
structure CloseError where
  failures : List CloseFailure
deriving DecidableEq, Repr

namespace CloseError

def slots (error : CloseError) : List String := error.failures.map (·.slot)

def message (error : CloseError) : String :=
  "Failed to close " ++ toString error.failures.length ++ " resource(s):"
    ++ String.join (error.failures.map fun failure =>
        "\n  - " ++ failure.slot ++ ": " ++ failure.fault.message)

/-- A closing without failures succeeds. -/
def ofFailures : List CloseFailure → Except CloseError Unit
  | [] => .ok ()
  | failures => .error ⟨failures⟩

end CloseError

/-- Whether closing has begun, and the resources that wait for it. -/
structure Teardown (ρ : Type) where
  closed : Bool := false
  /-- Owned resources with their slots, the first one taken first. -/
  owned : List (String × ρ) := []

namespace Teardown

variable {ρ : Type}

def checkOpen (teardown : Teardown ρ) (slot : String) : Except RuntimeError Unit :=
  if teardown.closed then .error (.scopeClosed slot) else .ok ()

/-- Takes ownership of a resource. -/
def take (teardown : Teardown ρ) (slot : String) (resource : ρ) : Teardown ρ :=
  { teardown with owned := teardown.owned ++ [(slot, resource)] }

/-- Nothing is owned once closing has begun. -/
def begun : Teardown ρ := { closed := true, owned := [] }

def text (owner : String) (teardown : Teardown ρ) : String :=
  Text.record "ScopeCore"
    [("name", Text.quoted owner),
     ("closed", Text.flag teardown.closed),
     ("owned", toString teardown.owned.length)]

/-- Closes resources in order and collects the failures. -/
def closeAll {m : Type → Type} [Monad m] (close : ρ → m (Except Fault Unit)) :
    List (String × ρ) → m (List CloseFailure)
  | [] => pure []
  | (slot, resource) :: rest => do
    let outcome ← close resource
    let failures ← closeAll close rest
    match outcome with
    | .ok () => pure failures
    | .error fault => pure (⟨slot, fault⟩ :: failures)

end Teardown

end Wiring
