import Wiring.Proofs.Compilation.Resolution
import Wiring.Proofs.Scope.EagerReads

/-! # Scopes of compiled plans

A plan that was compiled leaves nothing to chance: every reference names a slot of the plan, what a
caller passes stays within the parameters, identifiers differ, and eager reads have no cycle. A
scope with a recipe for every callable of such a plan and with a value for every value slot opens,
and whatever is asked of it, the failures that come up are few: those that programs raise, those of
recipes that fail, panic, return nothing or return what cannot be closed, and those after the
closing. A slot meets itself only where slots are read while a recipe runs.

Main statement: `Builder.runs_of_compile`.
-/

namespace Wiring

variable {σ V : Type} {builder : Builder} {plan : Plan} {scope : Scope σ V} {conduct : Conduct σ V}
  {value : V → Prop} {state : σ → Prop}

/-- There is a recipe for every callable of the plan, and the values are those of its value
slots. -/
structure Scope.Equipped (scope : Scope σ V) : Prop where
  values : ∀ identifier, identifier ∈ scope.values.identifiers ↔ identifier ∈ scope.plan.required
  recipes : ∀ callable ∈ scope.plan.callables, scope.recipes.require callable = .ok ()

/-- There are handles to the slots of the plan, these values and host states hold no others, and recipes
are handed what the slots of the plan hand them. -/
def Plan.handling (plan : Plan) (value : V → Prop) (state : σ → Prop) : Handling σ V where
  known := (· ∈ plan.identifiers)
  value := value
  state := state
  hands := plan.Hands

/-- The client asks for what the plan has, and passes as many arguments as there are parameters. -/
def Operation.Asks (plan : Plan) (value : V → Prop) : Operation V → Prop
  | read slot => slot ∈ plan.identifiers
  | callFactory slot given => slot ∈ plan.factories ∧ slot.parameters.length = given.length ∧
      ∀ shared ∈ given, ∀ content, shared.content = .host content → value content
  | callInjector slot given => slot ∈ plan.injectors ∧ slot.parameters.length = given.length ∧
      ∀ shared ∈ given, ∀ content, shared.content = .host content → value content
  | close => True
  | release => True

section Plans

/-! ## References of a plan -/

/-- The identifier is that of a slot of the plan, whatever is asked for. -/
abbrev Plan.Names (plan : Plan) : Refers := fun _ identifier => identifier ∈ plan.identifiers

/-- What serves a reference is a slot of the plan. -/
theorem Plan.Serves.mem_identifiers {asked : QualifiedType} {identifier : String}
    (serves : plan.Serves asked identifier) : identifier ∈ plan.identifiers := by
  obtain ⟨slot, only, _⟩ := serves
  have member : slot ∈ plan.slots.filter (·.identifier = identifier) := only ▸ List.mem_cons_self
  obtain ⟨listed, same⟩ := List.mem_filter.mp member
  exact List.mem_map.mpr ⟨slot, listed, of_decide_eq_true same⟩

/-- All references of a compiled plan name slots of the plan. -/
theorem Builder.named_of_compile (plain : builder.Plain) (compiled : builder.compile = .ok plan) :
    plan.Wired builder plan.Names ∧ plan.checkCycles = .ok () := by
  obtain ⟨session, rfl, sound, covered, nodup, cycles⟩ := sound_of_compile plain compiled
  have wired := sound.wired.mono fun asked identifier asks =>
    (Session.serves_of_asks sound covered nodup asks builder.package builder.scopeName).mem_identifiers
  exact ⟨⟨wired.aliases, wired.cached, wired.factories, wired.injectors⟩, cycles⟩

variable (known : ∀ identifier, identifier ∈ plan.identifiers → conduct.known identifier)

include known

/-- An argument that meets a parameter of the plan fits any conduct which knows the slots of the plan.
-/
private theorem Argument.fits_of_meets {callers : Nat} {param : QualifiedType} {argument : Argument}
    (meets : argument.Meets plan.Names callers param) : argument.Fits conduct callers := by
  cases argument with
  | slot identifier => exact known identifier meets.2
  | lazy identifier =>
    obtain ⟨_, _, named⟩ := meets
    exact known identifier named
  | curried index => exact .inl meets

theorem Argument.fits_of_meeting {callers : Nat} {params : List QualifiedType} {arguments : List Argument}
    (meeting : Meeting plan.Names callers params arguments) :
    ∀ argument ∈ arguments, argument.Fits conduct callers := by
  induction meeting with
  | nil => exact List.forall_mem_nil _
  | cons meets _ ih => exact List.forall_mem_cons.mpr ⟨fits_of_meets known meets, ih⟩

end Plans

/-- A callable with a recipe has nothing to fail with. -/
theorem Callable.fits_of_require {callable : Callable} (found : scope.recipes.require callable = .ok ()) :
    callable.Fits conduct scope := by
  intro error missing
  rw [found] at missing
  cases missing

section Slots

/-! ## Slots of a scope -/

variable (wired : scope.plan.Wired builder scope.plan.Names) (equipped : scope.Equipped)
  (known : ∀ identifier, identifier ∈ scope.plan.identifiers → conduct.known identifier)
  (hands : ∀ callable arguments, scope.plan.Hands callable arguments → conduct.hands callable arguments)

include wired equipped known hands

/-- A cached slot of an equipped scope fits a conduct that knows the slots of the plan and what they
hand over. -/
private theorem CachedSlot.fits_of_wired {slot : CachedSlot} (member : slot ∈ scope.plan.cached) :
    slot.Fits conduct scope := by
  have recipe := equipped.recipes slot.recipe.callable (Plan.mem_callables_of_cached member)
  have handed : (Slot.cached slot).Hands conduct := fun callable sources given arguments calls =>
    hands callable arguments ⟨_, Plan.mem_slots_of_cached member, sources, given, calls⟩
  have references := wired.cached slot member
  unfold CachedSlot.Wired at references
  split at references
  next type same =>
    obtain ⟨_, _, _, _, _, _, meeting⟩ := references
    refine ⟨handed, Argument.fits_of_meeting known meeting, fun _ _ _ other => ?_,
      Callable.fits_of_require recipe⟩
    rw [same] at other
    cases other
  next holder type name same =>
    obtain ⟨_, named, _, _, _, _, _, _, _, _, _, meeting⟩ := references
    refine ⟨handed, Argument.fits_of_meeting known meeting, fun _ _ _ other => ?_,
      Callable.fits_of_require recipe⟩
    rw [same] at other
    cases other
    exact known holder named

/-- So does a factory, for callers that pass what it takes. -/
private theorem FactorySlot.fits_of_wired {slot : FactorySlot} (member : slot ∈ scope.plan.factories) :
    slot.Fits conduct scope := by
  have recipe := equipped.recipes (.constructor slot.product) (Plan.mem_callables_of_factory member)
  obtain ⟨_, _, _, _, _, _, _, _, _, _, _, meeting⟩ := wired.factories slot member
  exact ⟨fun callable sources given arguments calls =>
      hands callable arguments ⟨_, Plan.mem_slots_of_factory member, sources, given, calls⟩,
    Argument.fits_of_meeting known meeting, Callable.fits_of_require recipe⟩

/-- So does an injector. -/
private theorem InjectorSlot.fits_of_wired {slot : InjectorSlot} (member : slot ∈ scope.plan.injectors) :
    slot.Fits conduct scope := by
  have recipe := equipped.recipes (.method slot.receiverType slot.targetMethod)
    (Plan.mem_callables_of_injector member)
  obtain ⟨_, _, _, named, _, _, _, _, _, _, _, _, _, meeting⟩ := wired.injectors slot member
  exact ⟨fun callable sources given arguments calls =>
      hands callable arguments ⟨_, Plan.mem_slots_of_injector member, sources, given, calls⟩,
    known _ named, Argument.fits_of_meeting known meeting, Callable.fits_of_require recipe⟩

end Slots

namespace Scope

section Opening

/-! ## Opening -/

/-- An equipped scope has a value for every value slot. -/
private theorem supplied_of_equipped (equipped : scope.Equipped) : scope.Supplied := fun slot member =>
  supplied_of_mem_identifiers ((equipped.values _).mpr (List.mem_map.mpr ⟨slot, member, rfl⟩))

/-- An equipped scope passes its check if eager reads have no cycle. -/
private theorem check_of_equipped (equipped : scope.Equipped) (cycles : scope.plan.checkCycles = .ok ()) :
    scope.check = .ok () := by
  have unsupplied : scope.unsupplied? = none := by
    refine List.find?_eq_none.mpr fun slot member => ?_
    simpa using (equipped.values slot.identifier).mpr (List.mem_map.mpr ⟨slot, member, rfl⟩)
  have surplus : scope.surplus? = none := by
    refine List.find?_eq_none.mpr fun identifier member => ?_
    simpa using (equipped.values identifier).mp member
  have recipes : scope.checkRecipes = .ok () := forM_eq_ok.mpr equipped.recipes
  simp only [check_of_checkCycles cycles, checkValues, unsupplied, surplus, recipes]
  rfl

end Opening

/-- An identifier of the plan is served. -/
theorem served?_of_mem_identifiers (supplied : scope.Supplied) {identifier : String}
    (member : identifier ∈ scope.plan.identifiers) : scope.served? identifier ≠ none := by
  obtain ⟨slot, listed, same⟩ := List.mem_map.mp member
  have last : (scope.plan.lastSlot? identifier).isSome = true := by
    rw [Plan.lastSlot?, List.find?_isSome]
    exact ⟨slot, List.mem_reverse.mpr listed, by simpa using same⟩
  obtain ⟨slot, found⟩ := Option.isSome_iff_exists.mp last
  have listed : slot ∈ scope.plan.slots := List.mem_reverse.mp (List.mem_of_find?_eq_some found)
  rw [served?_eq_lastSlot? supplied, found, Option.bind_some]
  exact Option.isSome_iff_ne_none.mp (offer?_isSome supplied listed)

/-- Aliases lead from identifiers of the plan to identifiers of the plan. -/
theorem follow_mem_identifiers (wired : scope.plan.Wired builder scope.plan.Names) (steps : Nat)
    {identifier : String} (member : identifier ∈ scope.plan.identifiers) :
    scope.follow steps identifier ∈ scope.plan.identifiers := by
  induction steps generalizing identifier with
  | zero => exact member
  | succ steps ih =>
    rw [follow]
    split
    next target aliased =>
      obtain ⟨slot, listed, _, same⟩ := exists_alias_of_served? aliased
      obtain ⟨_, _, _, _, named⟩ := wired.aliases slot listed
      exact ih (same ▸ named)
    next => exact member

/-- An equipped scope fits such a conduct as a whole. -/
private theorem fits_of_wired (wired : scope.plan.Wired builder scope.plan.Names)
    (cycles : scope.plan.checkCycles = .ok ()) (equipped : scope.Equipped)
    (known : ∀ identifier, conduct.known identifier ↔ identifier ∈ scope.plan.identifiers)
    (hands : ∀ callable arguments, scope.plan.Hands callable arguments → conduct.hands callable arguments) :
    scope.Fits conduct where
  supplied := supplied_of_equipped equipped
  acyclic := Plan.acyclic_of_checkCycles cycles
  served identifier refers unserved := by
    have member := follow_mem_identifiers wired scope.plan.aliases.length ((known identifier).mp refers)
    exact (served?_of_mem_identifiers (supplied_of_equipped equipped) member unserved).elim
  cached _ member :=
    CachedSlot.fits_of_wired wired equipped (fun identifier => (known identifier).mpr) hands member

end Scope

/-- What asks for no more than the plan has fits it too. -/
private theorem Operation.fits_of_asks (wired : scope.plan.Wired builder scope.plan.Names)
    (equipped : scope.Equipped)
    (known : ∀ identifier, identifier ∈ scope.plan.identifiers → conduct.known identifier)
    (hands : ∀ callable arguments, scope.plan.Hands callable arguments → conduct.hands callable arguments)
    {operation : Operation V} (asks : operation.Asks scope.plan conduct.value) :
    operation.Fits conduct scope := by
  cases operation with
  | read slot => exact known slot asks
  | callFactory slot given =>
    obtain ⟨member, counted, fitting⟩ := asks
    exact ⟨FactorySlot.fits_of_wired wired equipped known hands member, fitting, .inl counted⟩
  | callInjector slot given =>
    obtain ⟨member, counted, fitting⟩ := asks
    exact ⟨InjectorSlot.fits_of_wired wired equipped known hands member, fitting, .inl counted⟩
  | close => trivial
  | release => trivial

/-- Runs keep to every conduct that holds the handles to be those to slots of the plan. -/
theorem Scope.run_fits_of_wired (wired : scope.plan.Wired builder scope.plan.Names)
    (cycles : scope.plan.checkCycles = .ok ()) (equipped : scope.Equipped)
    (handles : conduct.toHandling = scope.plan.handling value state) (admits : conduct.Admits)
    (behaves : scope.Behaves conduct) {host : σ} (starts : state host) {operations : List (Operation V)}
    (asks : ∀ operation ∈ operations, operation.Asks scope.plan value) :
    ∀ answer ∈ (scope.run operations (start host)).1, answer.Fits conduct := by
  have known (identifier : String) : conduct.known identifier ↔ identifier ∈ scope.plan.identifiers := by
    rw [handles]
    rfl
  have hands (callable : Callable) (arguments : Arguments V)
      (handed : scope.plan.Hands callable arguments) : conduct.hands callable arguments := by
    rw [handles]
    exact handed
  have held : conduct.value = value := by rw [handles]; rfl
  have starts : conduct.state host := by rw [handles]; exact starts
  subst held
  have fits := fits_of_wired wired cycles equipped known hands
  have fitting : ∀ operation ∈ operations, operation.Fits conduct scope := fun operation member =>
    Operation.fits_of_asks wired equipped (fun identifier => (known identifier).mpr) hands
      (asks operation member)
  exact (run_fits admits behaves fits fitting (steady_start starts)).1

/-- A scope of a compiled plan that is equipped opens. Whatever clients ask for that the plan has, a
failure that comes up is left by every plan, or a program raised it of its own accord, or a slot met
itself since slots are read while a recipe runs. Nor is a program answered anything else meanwhile:
programs that keep to a conduct when they are answered within it are answered within it. -/
theorem Builder.runs_of_compile (plain : builder.Plain) (compiled : builder.compile = .ok scope.plan)
    (equipped : scope.Equipped) : scope.check = .ok () ∧
    ∀ (value : V → Prop) (state : σ → Prop) (host : σ) (operations : List (Operation V)), state host →
      (∀ operation ∈ operations, operation.Asks scope.plan value) →
      (scope.Behaves (scope.plan.handling value state).lenient →
        ∀ answer ∈ (scope.run operations (Scope.start host)).1, ∀ error, answer.Reports error →
          error.Residual ∨ (¬ scope.Quiet scope.plan.Hands ∧ error.isCircular = true) ∨
            scope.Raises scope.plan.Hands error) ∧
      ∀ conduct : Conduct σ V, conduct.toHandling = scope.plan.handling value state → conduct.Admits →
        scope.Behaves conduct →
        ∀ answer ∈ (scope.run operations (Scope.start host)).1, answer.Fits conduct := by
  obtain ⟨wired, cycles⟩ := named_of_compile plain compiled
  refine ⟨Scope.check_of_equipped equipped cycles, fun value state host operations starts asks =>
    ⟨fun behaves answer member error reports => ?_, fun conduct handles admits behaves =>
      Scope.run_fits_of_wired wired cycles equipped handles admits behaves starts asks⟩⟩
  let left (error : RuntimeError) : Prop :=
    error.Residual ∨ (¬ scope.Quiet scope.plan.Hands ∧ error.isCircular = true)
  have admits : (scope.within (scope.plan.handling value state) left).Admits :=
    Scope.admits_within (fun _ => .inl) fun noisy _ => .inr ⟨noisy, rfl⟩
  have fits := Scope.run_fits_of_wired wired cycles equipped rfl admits (Scope.behaves_within behaves)
    starts asks answer member
  exact or_assoc.mp (Answer.fails_of_reports fits reports)

namespace Scope

/-- A garage with an engine. A car reads its engine and keeps the handle to its radio, and parking looks
at what is parked. -/
def city (plan : Plan) : Scope Unit String where
  plan := plan
  values := .ofList [("engine", "engine")]
  recipes := {
    constructors := [
      ("Car", fun arguments => do
        let _engine ← .ofExcept (arguments.shared 0)
        let radio ← .ofExcept (arguments.handle (fun _ => "instance") 1)
        return .fresh ("car with " ++ radio)),
      ("Garage", fun _ => return .fresh "garage")]
    methods := [
      (("Garage", "tune"), fun _ _ => return some (.fresh "radio")),
      (("Garage", "park"), fun _ arguments => do
        let _vehicle ← .ofExcept (arguments.shared 0)
        return none)] }
  host := {
    typeName := id
    factoryName := "Factory"
    injectorName := "Injector"
    closer := fun _ => none }

/-- The plan makes the calls of the garage, from these arguments. -/
abbrev CallsGarage (plan : Plan) : Prop :=
  plan.slots.filterMap Slot.call? = [
    (.constructor (.named "Car"), [.slot "engine", .lazy "radio"]),
    (.constructor (.named "Garage"), []),
    (.method (.named "Garage") "tune", []),
    (.constructor (.named "Car"), [.curried 0, .lazy "radio"]),
    (.method (.named "Garage") "park", [.slot "vehicle"])]

/-- Everything that the plan offers, with an engine for whoever has to pass one, and the closing. -/
def errands (plan : Plan) : List (Operation String) :=
  plan.identifiers.map .read
    ++ plan.factories.map (.callFactory · [⟨.supplied "v8", .host "v8"⟩])
    ++ plan.injectors.map (.callInjector · []) ++ [.close]

section City

variable {plan : Plan} (garage : CallsGarage plan) {arguments : Arguments String} {type : TypeExpr}

include garage

/-- Whoever makes a car hands over an engine and a handle. -/
theorem handed_car (car : type.name = "Car") (handed : plan.Hands (.constructor type) arguments) :
    ∃ engine radio, arguments.values = [.shared engine, .lazy radio] := by
  obtain ⟨sources, given, listed, handing⟩ := handed.exists_call
  have eager : sources = [.slot "engine", .lazy "radio"] ∨ sources = [.curried 0, .lazy "radio"] := by
    simp only [garage, List.mem_cons, List.not_mem_nil, Prod.mk.injEq, Callable.constructor.injEq,
      reduceCtorEq, false_and, or_false, false_or] at listed
    rcases listed with ⟨rfl, same⟩ | ⟨rfl, same⟩ | ⟨rfl, same⟩
    · exact .inl same
    · exact absurd car (by decide)
    · exact .inr same
  rcases eager with rfl | rfl
  all_goals
    obtain ⟨_, _, ⟨_⟩, rest, same⟩ := List.forall₂_cons_left_iff.mp handing
    obtain ⟨_, _, ⟨_⟩, ⟨_⟩, rfl⟩ := List.forall₂_cons_left_iff.mp rest
    exact ⟨_, _, same⟩

/-- Whoever parks hands over what is parked. -/
theorem handed_park (handed : plan.Hands (.method type "park") arguments) :
    ∃ vehicle, arguments.values = [.shared vehicle] := by
  obtain ⟨sources, given, listed, handing⟩ := handed.exists_call
  obtain rfl : sources = [.slot "vehicle"] := by
    simp only [garage, List.mem_cons, List.not_mem_nil, Prod.mk.injEq, Callable.method.injEq,
      reduceCtorEq, String.reduceEq, and_false, false_and, or_false, false_or] at listed
    exact listed.2
  obtain ⟨_, _, ⟨_⟩, ⟨_⟩, same⟩ := List.forall₂_cons_left_iff.mp handing
  exact ⟨_, same⟩

/-- Every constructor ends with a product on what it is handed. -/
theorem constructor_city {recipe : ConstructorRecipe Unit String}
    (found : (city plan).recipes.findConstructor type = .ok recipe)
    (handed : plan.Hands (.constructor type) arguments) :
    ∃ product, recipe arguments = .finish (.fresh product) := by
  rcases List.mem_pair.mp (RecipeTable.mem_of_findConstructor found) with entry | entry
  · obtain ⟨car, rfl⟩ := Prod.mk.inj entry
    obtain ⟨engine, radio, values⟩ := handed_car garage car handed
    obtain ⟨slot, _⟩ := arguments
    obtain rfl := values
    exact ⟨_, rfl⟩
  · obtain ⟨_, rfl⟩ := Prod.mk.inj entry
    exact ⟨_, rfl⟩

/-- Every method ends on what it is handed, with a product or with none. -/
theorem method_city {name : String} {recipe : MethodRecipe Unit String}
    (found : (city plan).recipes.findMethod type name = .ok recipe) (receiver : Instance String)
    (handed : plan.Hands (.method type name) arguments) :
    ∃ product : Option String, recipe receiver arguments = .finish (product.map .fresh) := by
  rcases List.mem_pair.mp (RecipeTable.mem_of_findMethod found) with entry | entry
  · obtain ⟨_, rfl⟩ := Prod.mk.inj entry
    exact ⟨some _, rfl⟩
  · obtain ⟨park, rfl⟩ := Prod.mk.inj entry
    obtain ⟨_, rfl⟩ := Prod.mk.inj park
    obtain ⟨vehicle, values⟩ := handed_park garage handed
    obtain ⟨slot, _⟩ := arguments
    obtain rfl := values
    exact ⟨none, rfl⟩

/-- Whatever holds of programs that just end holds of the recipes on what they are handed. -/
theorem allHanded_city {holds : ∀ {α : Type}, Program Unit String α → Prop}
    (finish : ∀ {α : Type} (result : α), holds (.finish result)) :
    (city plan).recipes.AllHanded plan.Hands holds := by
  refine ⟨fun type recipe found arguments handed => ?_,
    fun type name recipe found receiver arguments handed => ?_⟩
  · obtain ⟨product, ends⟩ := constructor_city garage found handed
    exact ends ▸ finish _
  · obtain ⟨product, ends⟩ := method_city garage found receiver handed
    exact ends ▸ finish _

private theorem quiet_city : (city plan).Quiet plan.Hands :=
  ⟨allHanded_city garage fun _ => trivial, .inr nofun⟩

private theorem not_raises_city (error : RuntimeError) : ¬ (city plan).Raises plan.Hands error :=
  not_raises (allHanded_city garage fun _ => id) nofun

private theorem behaves_city :
    (city plan).Behaves (plan.handling (fun _ => True) fun _ => True).lenient where
  constructors type recipe found arguments handed _ := by
    obtain ⟨product, ends⟩ := constructor_city garage found handed
    exact ends ▸ trivial
  methods type name recipe found receiver arguments handed _ _ := by
    obtain ⟨product, ends⟩ := method_city garage found receiver handed
    rw [ends]
    intro made member
    obtain ⟨value, _, rfl⟩ := Option.map_eq_some_iff.mp member
    trivial
  closers _ _ _ := nofun
  supplied _ _ := trivial

end City

end Scope

/-- In the garage, where recipes read what they are handed, a run over all that the plan offers reports no
more than what is left anyway. -/
theorem Builder.runs_garage : garage.Plain ∧ ∃ plan, garage.compile = .ok plan ∧
    (Scope.city plan).Equipped ∧ (Scope.city plan).check = .ok () ∧
    ∀ answer ∈ ((Scope.city plan).run (Scope.errands plan) (Scope.start ())).1,
      ∀ error, answer.Reports error → error.Residual := by
  have plain : garage.Plain := garage_plain
  have compiled : ∃ plan, garage.compile = .ok plan ∧ plan.required = ["engine"] ∧
      plan.callables = [.constructor (.named "Car"), .constructor (.named "Garage"),
        .method (.named "Garage") "tune", .constructor (.named "Car"), .method (.named "Garage") "park"] ∧
      Scope.CallsGarage plan ∧ (∀ slot ∈ plan.factories, slot.parameters.length = 1) ∧
      ∀ slot ∈ plan.injectors, slot.parameters.length = 0 :=
    ⟨_, by cbv, rfl, rfl, rfl, by decide, by decide⟩
  obtain ⟨plan, compiled, required, callables, calls, made, parked⟩ := compiled
  have equipped : (Scope.city plan).Equipped := by
    refine ⟨fun identifier => ?_, fun callable member => ?_⟩
    · change identifier ∈ ["engine"] ↔ identifier ∈ plan.required
      rw [required]
    · have listed : callable ∈ plan.callables := member
      simp only [callables, List.mem_cons, List.not_mem_nil, or_false] at listed
      rcases listed with rfl | rfl | rfl | rfl | rfl <;> rfl
  have asks (operation : Operation String) (member : operation ∈ Scope.errands plan) :
      operation.Asks plan fun _ => True := by
    simp only [Scope.errands, List.mem_append, List.mem_map, List.mem_singleton] at member
    rcases member with ((⟨identifier, listed, rfl⟩ | ⟨slot, listed, rfl⟩) | ⟨slot, listed, rfl⟩) | rfl
    · exact listed
    · exact ⟨listed, made slot listed, fun _ _ _ _ => trivial⟩
    · exact ⟨listed, parked slot listed, fun _ _ _ _ => trivial⟩
    · trivial
  have declared : garage.compile = .ok (Scope.city plan).plan := compiled
  obtain ⟨checked, runs⟩ := runs_of_compile plain declared equipped
  obtain ⟨reports, _⟩ := runs (fun _ => True) (fun _ => True) () _ trivial asks
  refine ⟨plain, plan, compiled, equipped, checked, fun answer member error reported => ?_⟩
  rcases reports (Scope.behaves_city calls) answer member error reported with residual | ⟨noisy, _⟩ | raised
  · exact residual
  · exact (noisy (Scope.quiet_city calls)).elim
  · exact (Scope.not_raises_city calls error raised).elim

def Builder.room : Builder where
  catalog := ⟨[
    { name := "Lamp", closeable := true, constructors := [{}] },
    { name := "Switch", constructors := [{}] }], by decide⟩
  package := "demo"
  scopeName := "Room"
  declarations := { constructors := [.named "Lamp", .named "Switch"] }

/-- In a room that is declared, too, a slot meets itself although no recipe reads the scope. -/
theorem Builder.circular_room : room.Plain ∧ room.compile = .ok (Scope.room Scope.shutting).plan ∧
    (Scope.room Scope.shutting).Equipped ∧ (Scope.room Scope.shutting).recipes.All Program.ReadFree ∧
    (∀ error, ¬ (Scope.room Scope.shutting).Raises .any error) ∧
    (∀ slot ∈ ["lamp", "switch"], slot ∈ (Scope.room Scope.shutting).plan.identifiers) ∧
    ((Scope.room Scope.shutting).run [.read "lamp", .read "switch"] (Scope.start ())).1 =
      [.shared ⟨.made 0, .host true⟩, .failed (.circularDependency "switch")] := by
  refine ⟨by decide +kernel, by cbv, ⟨fun identifier => Iff.rfl, fun callable member => ?_⟩,
    Scope.readFree_shutting, Scope.not_raises_shutting, fun slot => id, by rfl⟩
  rcases List.mem_pair.mp member with rfl | rfl <;> rfl

end Wiring
