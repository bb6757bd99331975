import Wiring.Plan.Cycle
import Wiring.Scope.State
import Wiring.Suggestion

/-! # Opening a scope

A plan need not come from a compilation, and values and callables come from the host, so all three
are checked against each other before anything can be read: no cycle of eager reads, a value for
every value slot, no value without a slot, a recipe for every callable that the plan names. The
first problem in this order is reported. Nothing is created yet.
-/

namespace Wiring

/-- What a plan expects a recipe for. -/
inductive Callable where
  | constructor (type : TypeExpr)
  | method (type : TypeExpr) (name : String)
deriving DecidableEq

def Recipe.callable : Recipe → Callable
  | constructor type => .constructor type
  | provider _ holderType method => .method holderType method

namespace Plan

/-- Identifiers of the values that a scope is opened with. -/
def required (plan : Plan) : List String := plan.values.map (·.identifier)

/-- What the cached slots, the factories and the injectors call, in this order. -/
def callables (plan : Plan) : List Callable :=
  plan.cached.map (·.recipe.callable)
    ++ plan.factories.map (fun slot => .constructor slot.product)
    ++ plan.injectors.map (fun slot => .method slot.receiverType slot.targetMethod)

end Plan

/-- Refuses a callable without a recipe. -/
def RecipeTable.require {σ V : Type} (table : RecipeTable σ V) :
    Callable → Except RuntimeError Unit
  | .constructor type => (fun _ => ()) <$> table.findConstructor type
  | .method type name => (fun _ => ()) <$> table.findMethod type name

namespace Scope

variable {σ V : Type}

/-- The first value slot that no value is supplied for. -/
def unsupplied? (scope : Scope σ V) : Option ValueSlot :=
  scope.plan.values.find? (·.identifier ∉ scope.values.identifiers)

/-- The least identifier of a supplied value that has no slot. -/
def surplus? (scope : Scope σ V) : Option String :=
  scope.values.identifiers.find? (· ∉ scope.plan.required)

/-- How many close identifiers are suggested for a value that is missing. -/
def suggestionLimit : Nat := 3

/-- Refuses a plan with a cycle of eager reads. -/
def checkPlan (scope : Scope σ V) : Except RuntimeError Unit :=
  match scope.plan.checkCycles with
  | .ok () => .ok ()
  | .error cause => .error (.invalidPlan scope.plan.qualifiedName cause.message)

/-- Refuses values that do not match the value slots. -/
def checkValues (scope : Scope σ V) : Except RuntimeError Unit :=
  match scope.unsupplied? with
  | some slot =>
    .error (.missingValue slot.identifier slot.descriptor
      (Suggestion.similar slot.identifier scope.values.identifiers suggestionLimit))
  | none =>
    match scope.surplus? with
    | some identifier => .error (.unknownValue identifier)
    | none => .ok ()

def checkRecipes (scope : Scope σ V) : Except RuntimeError Unit :=
  scope.plan.callables.forM scope.recipes.require

/-- Refuses parts that do not fit together. -/
def check (scope : Scope σ V) : Except RuntimeError Unit := do
  scope.checkPlan
  scope.checkValues
  scope.checkRecipes

/-- The world of a scope in which nothing has happened, with a host state. -/
def start (host : σ) : World σ V where
  cells _ := .empty
  host := host

/-- Opens a scope with a host state, once its parts are known to fit together. -/
def opened (scope : Scope σ V) (host : σ) : Except RuntimeError (World σ V) := do
  scope.check
  return start host

end Scope

end Wiring
