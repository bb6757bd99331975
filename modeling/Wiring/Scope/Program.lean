import Wiring.Cell.Basic
import Wiring.Scope.Instance
import Wiring.Teardown

/-! # Programs over a scope

A recipe is a program: it may read slots through handles, close the scope, give up the client's
reference to it, look at it, and change a state of the host's own, before it ends with a result, a
fault or a panic. Closing a resource is a program too. Programs are finite trees that branch on
what they are answered.
-/

namespace Wiring

/-- What a program sees of a scope. -/
structure ScopeView where
  /-- The client still holds the scope. -/
  held : Bool
  closed : Bool
  /-- Resources that wait for the closing. -/
  owned : Nat
  /-- Stages of cached slots; other slots have none. -/
  state : String → Option CellState

/-- A program with host state `σ` and host values `V`. -/
inductive Program (σ V α : Type) where
  | finish (result : α)
  | fail (fault : Fault)
  | panic (text : String)
  /-- Reads a slot through a handle. A panic is not answered. -/
  | read (slot : String) (next : Except RuntimeError (Instance V) → Program σ V α)
  /-- Closes the scope. -/
  | close (next : Except CloseError Unit → Program σ V α)
  /-- Gives up the client's reference. -/
  | release (next : Program σ V α)
  | inspect (next : ScopeView → Program σ V α)
  /-- Changes the host's state; the program goes on with what it was before. -/
  | update (change : σ → σ) (next : σ → Program σ V α)

namespace Program

variable {σ V α β : Type}

/-- Goes on with the result of a program. -/
def andThen (first : Program σ V α) (next : α → Program σ V β) : Program σ V β :=
  match first with
  | finish result => next result
  | fail fault => fail fault
  | panic text => panic text
  | read slot rest => read slot fun answer => (rest answer).andThen next
  | close rest => close fun answer => (rest answer).andThen next
  | release rest => release (rest.andThen next)
  | inspect rest => inspect fun view => (rest view).andThen next
  | update change rest => update change fun before => (rest before).andThen next

instance : Monad (Program σ V) where
  pure := finish
  bind := andThen

/-- Ends as a computation without effects does. -/
def ofExcept : Except RuntimeError α → Program σ V α
  | .ok result => finish result
  | .error error => fail (.runtime error)

/-- Reads a slot and fails as the read does. -/
def get (slot : String) : Program σ V (Instance V) := read slot ofExcept

def view : Program σ V ScopeView := inspect finish

def modify (change : σ → σ) : Program σ V Unit := update change fun _ => finish ()

end Program

/-- How the values of a host look to a scope. -/
structure Host (σ V : Type) where
  typeName : V → String
  /-- Type names of factory and injector instances. -/
  factoryName : String
  injectorName : String
  /-- How a value is closed, if it owns a resource. -/
  closer : V → Option (Program σ V Unit)

namespace Host

variable {σ V : Type}

def nameOf (host : Host σ V) : Content V → String
  | .host value => host.typeName value
  | .factory _ => host.factoryName
  | .injector _ => host.injectorName

/-- How a content is closed; factories and injectors own nothing. -/
def closerOf (host : Host σ V) : Content V → Option (Program σ V Unit)
  | .host value => host.closer value
  | .factory _ => none
  | .injector _ => none

end Host

abbrev ConstructorRecipe (σ V : Type) := Arguments V → Program σ V (Made V)

/-- Calls a method on a receiver; a method may return nothing. -/
abbrev MethodRecipe (σ V : Type) := Instance V → Arguments V → Program σ V (Option (Made V))

/-- Callables by type name and, for methods, method name. -/
structure RecipeTable (σ V : Type) where
  constructors : List (String × ConstructorRecipe σ V) := []
  methods : List ((String × String) × MethodRecipe σ V) := []

namespace RecipeTable

variable {σ V : Type}

/-- Adds a constructor in place of an earlier one for the type name. -/
def withConstructor (table : RecipeTable σ V) (type : String) (recipe : ConstructorRecipe σ V) :
    RecipeTable σ V :=
  { table with
    constructors := (type, recipe) :: table.constructors.filter (·.1 ≠ type) }

/-- Adds a method in place of an earlier one of this name for the type name. -/
def withMethod (table : RecipeTable σ V) (type method : String) (recipe : MethodRecipe σ V) :
    RecipeTable σ V :=
  { table with
    methods := ((type, method), recipe) :: table.methods.filter (·.1 ≠ (type, method)) }

/-- The constructor of a type; it is found by the outermost name alone. -/
def findConstructor (table : RecipeTable σ V) (type : TypeExpr) :
    Except RuntimeError (ConstructorRecipe σ V) :=
  match table.constructors.lookup type.name with
  | some recipe => .ok recipe
  | none => .error (.missingRecipe type.simpleName)

/-- A method of a type; it is found by the outermost name and the method. -/
def findMethod (table : RecipeTable σ V) (type : TypeExpr) (method : String) :
    Except RuntimeError (MethodRecipe σ V) :=
  match table.methods.lookup (type.name, method) with
  | some recipe => .ok recipe
  | none => .error (.missingRecipe (methodText type method))

end RecipeTable

end Wiring
