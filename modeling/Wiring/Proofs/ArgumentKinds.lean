import Wiring.Proofs.Compilation.Fitting
import Wiring.Proofs.CompiledScope
import Wiring.Proofs.Scope.Handing

/-! # Arguments by kind

A compilation decides from the parameters of a callable which arguments are read from the scope, and
whether as instances or as handles; a scope makes the values of a call from these decisions. Together,
whatever is read from the scope is handed over as the kind of its parameter says. What a factory or an
injector passes on is the instance that its caller gave, since callers give instances, also where the
parameter is a deferred handle.

Main statement: `Builder.calls_of_compile`.
-/

namespace Wiring

variable {σ V : Type}

namespace Arguments

variable {arguments : Arguments V} {index : UInt64}

theorem shared_of_getElem? {value : Instance V}
    (found : arguments.values[index.toNat]? = some (.shared value)) :
    arguments.shared index = .ok value := by
  rw [shared, arg, found]
  rfl

private theorem handle_of_getElem? {identifier : String} (typeName : Content V → String)
    (found : arguments.values[index.toNat]? = some (.lazy identifier)) :
    arguments.handle typeName index = .ok identifier := by
  rw [handle, arg, found]
  rfl

/-- The argument at the position can be read as the kind of its parameter says if it is read from the
scope, and as the instance that the caller has given for the key of the parameter if it is passed on. -/
def Suits (arguments : Arguments V) (offered : List QualifiedType) (given : List (Instance V))
    (index : UInt64) (param : QualifiedType) : Argument → Prop
  | .slot _ => param.type.isLazy = false ∧ ∃ value, arguments.shared index = .ok value
  | .lazy identifier =>
    param.type.isLazy = true ∧ ∀ typeName, arguments.handle typeName index = .ok identifier
  | .curried position => (Argument.curried position).Matches offered param ∧
    ∃ value, given[position.toNat]? = some value ∧ arguments.shared index = .ok value

/-- The arguments of a call suit the parameters of what is called, one for each. -/
structure SuitAll (arguments : Arguments V) (offered : List QualifiedType) (given : List (Instance V))
    (sources : List Argument) (params : List QualifiedType) : Prop where
  planned : sources.length = params.length
  handed : arguments.values.length = params.length
  suit : ∀ (index : UInt64) (param : QualifiedType), params[index.toNat]? = some param →
    ∃ source, sources[index.toNat]? = some source ∧ arguments.Suits offered given index param source

/-- Arguments that match the parameters suit them when they are handed over. -/
theorem suitAll_of_handing {given : List (Instance V)} {sources : List Argument}
    {offered params : List QualifiedType} (matching : Matching offered params sources)
    (handing : Handing given sources arguments.values) :
    arguments.SuitAll offered given sources params := by
  refine ⟨matching.length_eq.symm, (matching.length_eq.trans handing.length_eq).symm, ?_⟩
  intro index param declared
  obtain ⟨source, planned, suited⟩ := exists_getElem?_of_forall₂ matching declared
  obtain ⟨value, handed, stands⟩ := exists_getElem?_of_forall₂ handing planned
  refine ⟨source, planned, ?_⟩
  cases stands with
  | slot => exact ⟨suited, _, shared_of_getElem? handed⟩
  | lazy => exact ⟨suited, fun typeName => handle_of_getElem? typeName handed⟩
  | curried passed => exact ⟨suited, _, passed, shared_of_getElem? handed⟩

end Arguments

/-- The arguments with which a slot that fits its parameters calls something suit these. -/
theorem Slot.Calls.suitAll {slot : Slot} {catalog : Catalog} {known : Key → Prop} {callable : Callable}
    {sources : List Argument} {given : List (Instance V)} {arguments : Arguments V}
    (calls : slot.Calls callable sources given arguments) (fits : slot.Fits catalog known) :
    ∃ params offered, slot.Takes catalog params ∧ slot.Receives catalog offered ∧
      arguments.SuitAll offered given sources params := by
  cases calls with
  | cached handing =>
    obtain ⟨params, offered, takes, receives, matching⟩ := fits
    exact ⟨params, offered, takes, receives, Arguments.suitAll_of_handing matching handing⟩
  | factory _ handing =>
    obtain ⟨params, offered, takes, receives, _, currying⟩ := fits
    exact ⟨params, offered, takes, receives, Arguments.suitAll_of_handing currying.matching handing⟩
  | injector _ handing =>
    obtain ⟨params, offered, takes, receives, _, currying⟩ := fits
    exact ⟨params, offered, takes, receives, Arguments.suitAll_of_handing currying.matching handing⟩

/-- A scope of a compiled plan makes no other calls than those that its slots make, so recipes matter only
on their arguments; and these suit the parameters of what is called and of what the caller gives. -/
theorem Builder.calls_of_compile {builder : Builder} {scope : Scope σ V}
    (compiled : builder.compile = .ok scope.plan) :
    (∀ table, scope.recipes.AgreesOn scope.plan table → ∀ operations : List (Operation V),
      (∀ operation ∈ operations, operation.Offered scope) → ∀ w,
        (scope.withRecipes table).run operations w = scope.run operations w) ∧
    ∀ slot ∈ scope.plan.slots, ∀ (callable : Callable) (sources : List Argument)
      (given : List (Instance V)) (arguments : Arguments V),
      slot.Calls callable sources given arguments →
        ∃ params offered, slot.Takes builder.catalog params ∧ slot.Receives builder.catalog offered ∧
          arguments.SuitAll offered given sources params :=
  ⟨fun _ agrees _ offered w => Scope.run_withRecipes agrees offered w,
    fun slot member _ _ _ _ calls => calls.suitAll (fits_of_compile compiled slot member)⟩

theorem Builder.calls_garage : ∃ plan engine, garage.compile = .ok plan ∧
    ∃ slot ∈ plan.slots, ∃ arguments : Arguments String,
      slot.Calls (.constructor (.named "Car")) [.curried 0, .lazy "radio"] [engine] arguments ∧
      ∃ params offered, slot.Takes garage.catalog params ∧ slot.Receives garage.catalog offered ∧
        arguments.SuitAll offered [engine] [.curried 0, .lazy "radio"] params := by
  have compiled : ∃ plan slot, garage.compile = .ok plan ∧ plan.factories = [slot] ∧
      slot.product = .named "Car" ∧ slot.parameters.length = 1 ∧
      slot.arguments = [.curried 0, .lazy "radio"] := ⟨_, _, by cbv, rfl, rfl, rfl, rfl⟩
  obtain ⟨plan, slot, compiled, factories, product, parameters, sources⟩ := compiled
  let engine : Instance String := ⟨.supplied "engine", .host "engine"⟩
  have handing : Handing [engine] slot.arguments [.shared engine, .lazy "radio"] := by
    rw [sources]
    exact .cons (.curried rfl) (.cons .lazy .nil)
  have count : [engine].length = slot.parameters.length := parameters.symm
  have calls := Slot.Calls.factory count handing
  rw [product, sources] at calls
  have member : slot ∈ plan.factories := factories ▸ List.mem_singleton_self slot
  have declared : garage.compile = .ok (Scope.city plan).plan := compiled
  exact ⟨plan, engine, compiled, _, Plan.mem_slots_of_factory member, _, calls,
    (calls_of_compile declared).2 _ (Plan.mem_slots_of_factory member) _ _ _ _ calls⟩

/-- A store that makes lamps for a clock which a caller gives, while lamps want a handle to a clock. -/
def Builder.store : Builder where
  catalog := ⟨[
    { name := "Lamp", constructors := [{ params := [.plain (.lazy (.named "Clock"))] }] },
    { name := "Lamps"
      methods := [
        { name := "make", params := [.plain (.lazy (.named "Clock"))]
          returns := some (.named "Lamp") }] }], by decide⟩
  package := "demo"
  scopeName := "Store"
  declarations := { values := [.plain (.named "Clock")], factories := [.plain (.named "Lamps")] }

def FactorySlot.lamps : FactorySlot where
  identifier := "lamps"
  declared := "Lamps"
  descriptor := "Lamps"
  method := "make"
  parameters := ["Lazy<Clock>"]
  product := .named "Lamp"
  arguments := [.curried 0]

/-- The store with a recipe that reads its only argument as a handle. -/
def Scope.store : Scope Unit String where
  plan := {
    package := "demo"
    scopeName := "Store"
    values := [⟨"clock", "Clock", "Clock", .declared⟩]
    aliases := []
    cached := []
    factories := [.lamps]
    injectors := [] }
  values := .ofList [("clock", "Clock")]
  recipes := {
    constructors := [
      ("Lamp", fun arguments =>
        (Program.ofExcept (arguments.handle (fun _ => "Clock") 0)).andThen fun _ =>
          .finish (.fresh "Lamp"))] }
  host := {
    typeName := id
    factoryName := "Factory"
    injectorName := "Injector"
    closer := fun _ => none }

/-- The instance of the caller is passed on where the parameter is a handle, so that a recipe which reads
it as a handle fails. -/
theorem Builder.calls_store : store.compile = .ok Scope.store.plan ∧
    (Slot.factory .lamps) ∈ Scope.store.plan.slots ∧
    (Slot.factory .lamps).Takes store.catalog [.plain (.lazy (.named "Clock"))] ∧
    (∀ (callable : Callable) (sources : List Argument) (given : List (Instance String))
      (arguments : Arguments String), (Slot.factory .lamps).Calls callable sources given arguments →
        ∃ value, arguments.shared 0 = .ok value) ∧
    Scope.store.check = .ok () ∧
    (Scope.store.run [.callFactory .lamps [⟨.supplied "clock", .host "Clock"⟩]] (Scope.start ())).1 =
      [.failed (.typeMismatch "lamps" "lazy handle" "Clock")] := by
  refine ⟨by cbv, by decide, ⟨_, _, rfl, by cbv, rfl⟩, ?_, Scope.check_of_checkCycles (by cbv), by rfl⟩
  intro callable sources given arguments calls
  cases calls with
  | factory _ handing =>
    obtain ⟨_, _, ⟨_⟩, _, rfl⟩ := List.forall₂_cons_left_iff.mp handing
    exact ⟨_, Arguments.shared_of_getElem? rfl⟩

end Wiring
