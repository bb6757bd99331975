import Wiring.Ordered
import Wiring.Reply
import Wiring.Scope.Program

/-! # A running scope

What a scope is made of does not change while it runs: its plan, the supplied values, the
callables and the host. What changes is a world: the cells behind the cached slots, the resources
that wait for the closing, the references that keep the scope alive, and the host's own state.
-/

namespace Wiring

/-- Values supplied for the value slots of a plan, in strict order of identifier. -/
structure Values (V : Type) where
  entries : List (String × V)
  ordered : OrderedBy Prod.fst entries

namespace Values

variable {V : Type}

def empty : Values V := ⟨[], .nil⟩

/-- Supplies a value, in place of an earlier one for the same identifier. -/
def bind (values : Values V) (identifier : String) (value : V) : Values V where
  entries := place Prod.fst true (identifier, value) values.entries
  ordered := values.ordered.place

/-- The instance of the value for an identifier. -/
def find? (values : Values V) (identifier : String) : Option (Instance V) :=
  (values.entries.lookup identifier).map fun value => ⟨.supplied identifier, .host value⟩

def identifiers (values : Values V) : List String := values.entries.map (·.1)

def ofList (entries : List (String × V)) : Values V :=
  entries.foldl (fun values (identifier, value) => values.bind identifier value) empty

end Values

/-- The parts of a scope that stay as they are. -/
structure Scope (σ V : Type) where
  plan : Plan
  values : Values V
  recipes : RecipeTable σ V
  host : Host σ V

/-- The parts that change. -/
structure World (σ V : Type) where
  /-- The cell behind each cached slot. -/
  cells : String → Cell (Instance V)
  teardown : Teardown (Instance V) := {}
  /-- The client holds a reference. -/
  held : Bool := true
  /-- The scope exists; handles to a scope that does not are of no use. -/
  alive : Bool := true
  /-- Instances made so far. -/
  serial : Nat := 0
  host : σ

namespace World

variable {σ V : Type}

def setCell (w : World σ V) (slot : String) (content : Cell (Instance V)) : World σ V :=
  { w with cells := fun other => if other = slot then content else w.cells other }

/-- Gives a new value the next identity. -/
def share (w : World σ V) (value : V) : Instance V × World σ V :=
  (⟨.made w.serial, .host value⟩, { w with serial := w.serial + 1 })

end World

/-- What a scope serves under an identifier. -/
inductive Served (V : Type) where
  /-- An instance that is there from the start. -/
  | ready (value : Instance V)
  /-- Reads go on at another identifier. -/
  | aliased (target : String)
  | cached (slot : CachedSlot)
deriving DecidableEq

namespace Scope

variable {σ V : Type}

/-- The entries of a scope in the order in which they are put in; a value slot has one if its value
is supplied. -/
def entries (scope : Scope σ V) : List (String × Served V) :=
  (scope.plan.values.filterMap fun slot =>
      (scope.values.find? slot.identifier).map fun value => (slot.identifier, .ready value))
    ++ scope.plan.aliases.map (fun slot => (slot.identifier, .aliased slot.target))
    ++ scope.plan.cached.map (fun slot => (slot.identifier, .cached slot))
    ++ scope.plan.factories.map (fun slot =>
        (slot.identifier, .ready ⟨.slot slot.identifier, .factory slot⟩))
    ++ scope.plan.injectors.map (fun slot =>
        (slot.identifier, .ready ⟨.slot slot.identifier, .injector slot⟩))

/-- What is served under an identifier; a later entry takes the place of an earlier one. -/
def served? (scope : Scope σ V) (identifier : String) : Option (Served V) :=
  scope.entries.reverse.lookup identifier

/-- Follows aliases from an identifier, for at most the given number of steps. -/
def follow (scope : Scope σ V) : Nat → String → String
  | 0, identifier => identifier
  | steps + 1, identifier =>
    match scope.served? identifier with
    | some (.aliased target) => scope.follow steps target
    | _ => identifier

/-- The identifier that a chain of aliases ends at. Without cycles no chain is longer than the
list of aliases. -/
def target (scope : Scope σ V) (identifier : String) : String :=
  scope.follow scope.plan.aliases.length identifier

/-- Stage of a cached slot. -/
def state? (scope : Scope σ V) (w : World σ V) (identifier : String) : Option CellState :=
  match scope.served? identifier with
  | some (.cached slot) => some (w.cells slot.identifier).state
  | _ => none

def view (scope : Scope σ V) (w : World σ V) : ScopeView where
  held := w.held
  closed := w.teardown.closed
  owned := w.teardown.owned.length
  state := scope.state? w

def has (scope : Scope σ V) (identifier : String) : Bool := (scope.served? identifier).isSome

def size (scope : Scope σ V) : Nat := (scope.entries.map (·.1)).eraseDups.length

/-- Slots that are still empty, and one more while closing has not begun: how deeply the steps of
a scope can nest from here. -/
def potential (scope : Scope σ V) (w : World σ V) : Nat :=
  scope.plan.cached.countP (fun slot => (w.cells slot.identifier).isEmpty)
    + if w.teardown.closed then 0 else 1

end Scope

end Wiring
