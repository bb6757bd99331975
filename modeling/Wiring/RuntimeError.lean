import Wiring.CompileError

/-! # Failures of a running scope

A failure is local to the slot that it names. What a recipe or a closer raises is a fault: either
a failure of the scope, which passes through every slot on its way unchanged, or an error of its
own, which is wrapped once, at the slot whose recipe raised it.
-/

namespace Wiring

/-- Why a slot could not be read. -/
inductive RuntimeError where
  /-- The slot is being created by an enclosing access. -/
  | circularDependency (slot : String)
  /-- The recipe raised an error of its own. -/
  | creationFailed (slot source : String)
  | creationPanicked (slot : String)
  /-- Nothing is created once closing has begun. -/
  | scopeClosed (slot : String)
  /-- The recipe produced nothing. -/
  | nullValue (slot : String)
  | missingValue (identifier descriptor : String) (suggestions : List String)
  | unknownValue (identifier : String)
  | missingRecipe (recipe : String)
  | unknownSlot (slot : String)
  /-- The slot holds a value of another type. -/
  | typeMismatch (slot expected actual : String)
  | arityMismatch (slot : String) (expected actual : Nat)
  /-- The plan failed validation when the scope was opened. -/
  | invalidPlan (scope reason : String)
  /-- The scope must close the instance but cannot. -/
  | missingCloser (slot : String)
deriving DecidableEq, Repr

namespace RuntimeError

/-- The word by which the failure is known to programs. -/
def kind : RuntimeError → String
  | circularDependency .. => "CircularDependency"
  | creationFailed .. => "CreationFailed"
  | creationPanicked .. => "CreationPanicked"
  | scopeClosed .. => "ScopeClosed"
  | nullValue .. => "NullValue"
  | missingValue .. => "MissingValue"
  | unknownValue .. => "UnknownValue"
  | missingRecipe .. => "MissingRecipe"
  | unknownSlot .. => "UnknownSlot"
  | typeMismatch .. => "TypeMismatch"
  | arityMismatch .. => "ArityMismatch"
  | invalidPlan .. => "InvalidPlan"
  | missingCloser .. => "MissingCloser"

def message : RuntimeError → String
  | circularDependency slot => "Circular dependency or failed initialization for " ++ slot
  | creationFailed slot source => "Failed to create " ++ slot ++ ": " ++ source
  | creationPanicked slot => "Recipe for " ++ slot ++ " panicked"
  | scopeClosed slot => "Scope is closed, cannot create " ++ slot
  | nullValue slot => "Recipe for " ++ slot ++ " returned no value"
  | missingValue identifier descriptor suggestions =>
    "Missing scope value: " ++ identifier ++ " (" ++ descriptor ++ ")"
      ++ suggestionLines suggestions
      ++ "\n  Hint: Supply it with ValueBindings::value(..) or ValueBindings::bind(..)"
  | unknownValue identifier =>
    "Value " ++ identifier ++ " is not a construction parameter of this scope"
  | missingRecipe recipe => "No recipe registered for " ++ recipe
  | unknownSlot slot => "No slot named " ++ slot
  | typeMismatch slot expected actual =>
    "Slot " ++ slot ++ " holds " ++ actual ++ ", not " ++ expected
  | arityMismatch slot expected actual =>
    slot ++ " expects " ++ toString expected ++ " argument(s), got " ++ toString actual
  | invalidPlan scope reason => "Invalid plan for " ++ scope ++ ": " ++ reason
  | missingCloser slot =>
    "Slot " ++ slot ++ " must be closed on teardown but its instance has no closer"

/-- Whether the failure is that of a slot read during its own creation. -/
def isCircular : RuntimeError → Bool
  | circularDependency _ => true
  | _ => false

/-- The error that a recipe raised, where there is one behind the failure. -/
def source? : RuntimeError → Option String
  | creationFailed _ source => some source
  | _ => none

end RuntimeError

/-- What a recipe or a closer raises. -/
inductive Fault where
  /-- An error of its own, known by its text. -/
  | foreign (text : String)
  /-- A failure of the scope. -/
  | runtime (error : RuntimeError)
deriving DecidableEq, Repr

namespace Fault

def message : Fault → String
  | foreign text => text
  | runtime error => error.message

/-- The failure of the slot whose recipe raised the fault. -/
def atSlot (slot : String) : Fault → RuntimeError
  | foreign text => .creationFailed slot text
  | runtime error => error

end Fault

end Wiring
