import Wiring.Proofs.Scope.Table

/-! # Opening a scope

A scope opens if its parts fit together: no cycle of eager reads, values for just the value slots of the
plan, a recipe for every callable that the plan names. Otherwise the first thing that does not fit is
reported, in this order; among values and callables the first of the plan, among values that no slot
asks for the least. Of the recipes no more is looked at than under which names they are listed, and a
scope that has been opened has created nothing yet.

Main statement: `Scope.opened_iff_fitting`.
-/

namespace Wiring

section Least

/-! ## Searching in order -/

variable {items : List String} {wanted : String → Bool} {item : String}

/-- In a strictly ordered list the least of the wanted items is found first. -/
theorem find?_eq_some_iff_least (ordered : items.Pairwise (· < ·)) :
    items.find? wanted = some item ↔
      item ∈ items ∧ wanted item = true ∧ ∀ other ∈ items, wanted other = true → item ≤ other := by
  induction items with
  | nil => simp
  | cons head rest ih =>
    obtain ⟨below, ordered⟩ := List.pairwise_cons.mp ordered
    by_cases found : wanted head = true
    · rw [List.find?_cons_of_pos found, Option.some.injEq]
      constructor
      · rintro rfl
        refine ⟨List.mem_cons_self, found, List.forall_mem_cons.mpr ⟨fun _ => String.le_refl _, ?_⟩⟩
        exact fun other later _ => String.not_lt.mp fun less =>
          String.lt_irrefl _ (String.lt_trans less (below other later))
      · rintro ⟨member, _, least⟩
        rcases List.mem_cons.mp member with rfl | later
        · rfl
        · exact absurd (below item later) (String.not_lt.mpr (least head List.mem_cons_self found))
    · rw [List.find?_cons_of_neg found, ih ordered, List.mem_cons, List.forall_mem_cons]
      constructor
      · rintro ⟨later, has, least⟩
        exact ⟨.inr later, has, fun has => absurd has found, least⟩
      · rintro ⟨rfl | later, has, _, least⟩
        · exact absurd has found
        · exact ⟨later, has, least⟩

end Least

section Recipes

/-! ## Recipes by name -/

variable {σ V : Type} {table : RecipeTable σ V} {callable : Callable} {error : RuntimeError}

/-- The table lists the callable, by the outermost name of its type. -/
def RecipeTable.Lists (table : RecipeTable σ V) : Callable → Prop
  | .constructor type => type.name ∈ table.constructors.map (·.1)
  | .method type name => (type.name, name) ∈ table.methods.map (·.1)

/-- The text by which a missing recipe is reported. -/
def Callable.text : Callable → String
  | constructor type => type.simpleName
  | method type name => methodText type name

theorem lookup_eq_none_iff {κ ι : Type} [BEq κ] [LawfulBEq κ] {entries : List (κ × ι)} {key : κ} :
    entries.lookup key = none ↔ key ∉ entries.map (·.1) := by
  rw [List.lookup_eq_none_iff, List.mem_map, not_exists]
  simp only [bne_iff_ne, not_and]
  exact forall₂_congr fun entry _ => ne_comm

theorem RecipeTable.require_of_lists (listed : table.Lists callable) :
    table.require callable = .ok () := by
  cases callable with
  | constructor type =>
    cases found : table.constructors.lookup type.name with
    | none => exact absurd listed (lookup_eq_none_iff.mp found)
    | some recipe => simp only [require, findConstructor, found]; rfl
  | method type name =>
    cases found : table.methods.lookup (type.name, name) with
    | none => exact absurd listed (lookup_eq_none_iff.mp found)
    | some recipe => simp only [require, findMethod, found]; rfl

theorem RecipeTable.require_of_not_lists (unlisted : ¬ table.Lists callable) :
    table.require callable = .error (.missingRecipe callable.text) := by
  cases callable with
  | constructor type =>
    have none := lookup_eq_none_iff.mpr unlisted
    simp only [require, findConstructor, none]
    rfl
  | method type name =>
    have none := lookup_eq_none_iff.mpr unlisted
    simp only [require, findMethod, none]
    rfl

theorem RecipeTable.require_eq_ok : table.require callable = .ok () ↔ table.Lists callable := by
  refine ⟨fun required => ?_, require_of_lists⟩
  by_contra unlisted
  cases required.symm.trans (require_of_not_lists unlisted)

private theorem RecipeTable.require_eq_error : table.require callable = .error error ↔
    ¬ table.Lists callable ∧ error = .missingRecipe callable.text := by
  by_cases listed : table.Lists callable
  · simp [require_of_lists listed, listed]
  · simp [require_of_not_lists listed, listed, eq_comm]

end Recipes

namespace Scope

variable {σ V : Type} {scope other : Scope σ V} {host : σ} {world : World σ V} {error : RuntimeError}

/-- The parts of the scope fit together. -/
structure Fitting (scope : Scope σ V) : Prop where
  acyclic : scope.plan.Acyclic
  /-- Values are supplied for the value slots and for nothing else. -/
  supplied : ∀ identifier, identifier ∈ scope.values.identifiers ↔ identifier ∈ scope.plan.required
  listed : ∀ callable ∈ scope.plan.callables, scope.recipes.Lists callable

/-- What does not fit first, and the failure that reports it. -/
inductive Refuses (scope : Scope σ V) : RuntimeError → Prop
  /-- The search for cycles has met one. -/
  | cyclic (chain : List String)
      (met : scope.plan.checkCycles = .error (.circularDependency chain))
      (cycle : scope.plan.IsCycle chain) :
      Refuses scope (.invalidPlan scope.plan.qualifiedName (CompileError.circularDependency chain).message)
  /-- No value is supplied for a value slot, the first such slot of the plan. -/
  | unsupplied (acyclic : scope.plan.Acyclic) (before : List ValueSlot) (slot : ValueSlot)
      (after : List ValueSlot) (split : scope.plan.values = before ++ slot :: after)
      (supplied : ∀ earlier ∈ before, earlier.identifier ∈ scope.values.identifiers)
      (missing : slot.identifier ∉ scope.values.identifiers) :
      Refuses scope (.missingValue slot.identifier slot.descriptor
        (Suggestion.similar slot.identifier scope.values.identifiers suggestionLimit))
  /-- A value is supplied that no slot asks for, and its identifier is the least of these. -/
  | surplus (acyclic : scope.plan.Acyclic) (identifier : String)
      (supplied : ∀ needed ∈ scope.plan.required, needed ∈ scope.values.identifiers)
      (given : identifier ∈ scope.values.identifiers) (unknown : identifier ∉ scope.plan.required)
      (least : ∀ other ∈ scope.values.identifiers, other ∉ scope.plan.required → identifier ≤ other) :
      Refuses scope (.unknownValue identifier)
  /-- A callable has no recipe, the first such callable of the plan. -/
  | unlisted (acyclic : scope.plan.Acyclic)
      (supplied : ∀ identifier,
        identifier ∈ scope.values.identifiers ↔ identifier ∈ scope.plan.required)
      (before : List Callable) (callable : Callable) (after : List Callable)
      (split : scope.plan.callables = before ++ callable :: after)
      (listed : ∀ earlier ∈ before, scope.recipes.Lists earlier)
      (missing : ¬ scope.recipes.Lists callable) :
      Refuses scope (.missingRecipe callable.text)

section Checks

/-! ## What each check finds -/

theorem checkPlan_eq_ok : scope.checkPlan = .ok () ↔ scope.plan.Acyclic := by
  rw [checkPlan]
  cases checked : scope.plan.checkCycles with
  | ok _ => exact iff_of_true rfl (Plan.acyclic_of_checkCycles checked)
  | error cause =>
    obtain ⟨chain, _, cycle⟩ := Plan.isCycle_of_checkCycles checked
    exact iff_of_false (by rintro ⟨⟩) cycle.not_acyclic

private theorem checkPlan_eq_error : scope.checkPlan = .error error ↔
    ∃ chain, scope.plan.checkCycles = .error (.circularDependency chain) ∧ scope.plan.IsCycle chain ∧
      error = .invalidPlan scope.plan.qualifiedName (CompileError.circularDependency chain).message := by
  rw [checkPlan]
  constructor
  · cases checked : scope.plan.checkCycles with
    | ok _ => rintro ⟨⟩
    | error cause =>
      obtain ⟨chain, rfl, cycle⟩ := Plan.isCycle_of_checkCycles checked
      rintro ⟨⟩
      exact ⟨chain, rfl, cycle, rfl⟩
  · rintro ⟨chain, met, _, rfl⟩
    rw [met]

theorem unsupplied?_eq_none : scope.unsupplied? = none ↔
    ∀ needed ∈ scope.plan.required, needed ∈ scope.values.identifiers := by
  simp [unsupplied?, Plan.required]

private theorem unsupplied?_eq_some {slot : ValueSlot} : scope.unsupplied? = some slot ↔
    slot.identifier ∉ scope.values.identifiers ∧ ∃ before after,
      scope.plan.values = before ++ slot :: after ∧
        ∀ earlier ∈ before, earlier.identifier ∈ scope.values.identifiers := by
  rw [unsupplied?, List.find?_eq_some_iff_append]
  simp only [decide_not, Bool.not_not, decide_eq_true_iff, Bool.not_eq_true', decide_eq_false_iff_not]

private theorem surplus?_eq_none : scope.surplus? = none ↔
    ∀ given ∈ scope.values.identifiers, given ∈ scope.plan.required := by
  simp [surplus?]

private theorem surplus?_eq_some {identifier : String} : scope.surplus? = some identifier ↔
    identifier ∈ scope.values.identifiers ∧ identifier ∉ scope.plan.required ∧
      ∀ other ∈ scope.values.identifiers, other ∉ scope.plan.required → identifier ≤ other := by
  have ordered : scope.values.identifiers.Pairwise (· < ·) :=
    List.pairwise_map.mpr scope.values.ordered
  rw [surplus?, find?_eq_some_iff_least ordered]
  simp only [decide_eq_true_iff]

theorem checkValues_eq_ok : scope.checkValues = .ok () ↔
    ∀ identifier, identifier ∈ scope.values.identifiers ↔ identifier ∈ scope.plan.required := by
  have both : (∀ identifier, identifier ∈ scope.values.identifiers ↔
      identifier ∈ scope.plan.required) ↔ scope.unsupplied? = none ∧ scope.surplus? = none := by
    rw [unsupplied?_eq_none, surplus?_eq_none]
    exact ⟨fun same => ⟨fun needed => (same needed).mpr, fun given => (same given).mp⟩,
      fun ⟨supplied, known⟩ identifier => ⟨known identifier, supplied identifier⟩⟩
  rw [both, checkValues]
  cases scope.unsupplied? <;> cases scope.surplus? <;> simp

private theorem checkValues_eq_error : scope.checkValues = .error error ↔
    (∃ slot, scope.unsupplied? = some slot ∧ error = .missingValue slot.identifier slot.descriptor
      (Suggestion.similar slot.identifier scope.values.identifiers suggestionLimit)) ∨
    scope.unsupplied? = none ∧ ∃ identifier, scope.surplus? = some identifier ∧
      error = .unknownValue identifier := by
  rw [checkValues]
  cases scope.unsupplied? <;> cases scope.surplus? <;> simp [eq_comm]

private theorem checkRecipes_eq_ok : scope.checkRecipes = .ok () ↔
    ∀ callable ∈ scope.plan.callables, scope.recipes.Lists callable := by
  rw [checkRecipes, forM_eq_ok]
  simp only [RecipeTable.require_eq_ok]

private theorem checkRecipes_eq_error : scope.checkRecipes = .error error ↔ ∃ before callable after,
    scope.plan.callables = before ++ callable :: after ∧
      (∀ earlier ∈ before, scope.recipes.Lists earlier) ∧
      ¬ scope.recipes.Lists callable ∧ error = .missingRecipe callable.text := by
  rw [checkRecipes, forM_eq_error]
  simp only [RecipeTable.require_eq_ok, RecipeTable.require_eq_error]

/-- A scope passes its check if everything fits. -/
theorem check_eq_ok : scope.check = .ok () ↔ scope.Fitting := by
  simp only [check, check_bind_eq_ok, checkPlan_eq_ok, checkValues_eq_ok, checkRecipes_eq_ok]
  constructor
  · rintro ⟨acyclic, supplied, listed⟩
    exact ⟨acyclic, supplied, listed⟩
  · rintro ⟨acyclic, supplied, listed⟩
    exact ⟨acyclic, supplied, listed⟩

/-- A check fails if those before it succeed. -/
theorem check_eq_error : scope.check = .error error ↔ scope.Refuses error := by
  simp only [check, check_bind_eq_error, checkPlan_eq_ok, checkPlan_eq_error, checkValues_eq_ok,
    checkValues_eq_error, checkRecipes_eq_error, unsupplied?_eq_some, unsupplied?_eq_none,
    surplus?_eq_some]
  constructor
  · rintro (⟨chain, met, cycle, rfl⟩ |
      ⟨acyclic, (⟨slot, ⟨missing, before, after, split, supplied⟩, rfl⟩ |
        ⟨supplied, identifier, ⟨given, unknown, least⟩, rfl⟩) |
        ⟨supplied, before, callable, after, split, listed, missing, rfl⟩⟩)
    · exact .cyclic chain met cycle
    · exact .unsupplied acyclic before slot after split supplied missing
    · exact .surplus acyclic identifier supplied given unknown least
    · exact .unlisted acyclic supplied before callable after split listed missing
  · rintro (⟨chain, met, cycle⟩ | ⟨acyclic, before, slot, after, split, supplied, missing⟩ |
      ⟨acyclic, identifier, supplied, given, unknown, least⟩ |
      ⟨acyclic, supplied, before, callable, after, split, listed, missing⟩)
    · exact .inl ⟨chain, met, cycle, rfl⟩
    · exact .inr ⟨acyclic, .inl (.inl ⟨slot, ⟨missing, before, after, split, supplied⟩, rfl⟩)⟩
    · exact .inr ⟨acyclic, .inl (.inr ⟨supplied, identifier, ⟨given, unknown, least⟩, rfl⟩)⟩
    · exact .inr ⟨acyclic, .inr ⟨supplied, before, callable, after, split, listed, missing, rfl⟩⟩

end Checks

section Opened

/-! ## A scope that has been opened -/

/-- A scope opens if everything fits, and then as new. -/
theorem opened_eq_ok : scope.opened host = .ok world ↔ scope.Fitting ∧ world = start host := by
  rw [opened, check_bind_eq_ok, check_eq_ok]
  exact and_congr_right fun _ => ⟨fun done => (Except.ok.inj done).symm, fun same => same ▸ rfl⟩

private theorem opened_eq_error : scope.opened host = .error error ↔ scope.Refuses error := by
  rw [opened, check_bind_eq_error, check_eq_error]
  refine or_iff_left fun impossible => ?_
  cases impossible.2

/-- Neither what the values are nor what the recipes do is looked at. -/
theorem opened_congr (plan : other.plan = scope.plan)
    (values : other.values.identifiers = scope.values.identifiers)
    (recipes : ∀ callable, other.recipes.Lists callable ↔ scope.recipes.Lists callable) (host : σ) :
    other.opened host = scope.opened host := by
  have required : other.recipes.require = scope.recipes.require := by
    funext callable
    by_cases listed : scope.recipes.Lists callable
    · rw [RecipeTable.require_of_lists listed, RecipeTable.require_of_lists ((recipes _).mpr listed)]
    · rw [RecipeTable.require_of_not_lists listed,
        RecipeTable.require_of_not_lists (mt (recipes _).mp listed)]
  simp only [opened, check, checkPlan, checkValues, unsupplied?, surplus?, checkRecipes, plan, values,
    required]

/-- Before anything is read every cached slot is empty. -/
theorem state?_start {identifier : String} {state : CellState}
    (found : scope.state? (start host) identifier = some state) : state = .empty := by
  unfold state? at found
  split at found
  next slot _ => exact (Option.some.inj found).symm
  next => cases found

end Opened

/-- A scope opens exactly if its parts fit together, and otherwise fails with what does not fit first.
Scopes with one plan open alike if the same values are supplied and the same callables listed, whatever
those values are and the callables do. After the opening every cached slot is empty, no instance is made
or owned, nothing is closed, and the host is as it was. -/
theorem opened_iff_fitting (scope : Scope σ V) (host : σ) :
    (∀ world, scope.opened host = .ok world ↔ scope.Fitting ∧ world = start host) ∧
    (∀ error, scope.opened host = .error error ↔ scope.Refuses error) ∧
    (∀ other : Scope σ V, other.plan = scope.plan →
      other.values.identifiers = scope.values.identifiers →
      (∀ callable, other.recipes.Lists callable ↔ scope.recipes.Lists callable) →
      other.opened host = scope.opened host) ∧
    ∀ world, scope.opened host = .ok world →
      (∀ slot ∈ scope.plan.cached, (world.cells slot.identifier).state = .empty) ∧
      (∀ identifier state, scope.state? world identifier = some state → state = .empty) ∧
      world.teardown.owned = [] ∧ world.teardown.closed = false ∧ world.serial = 0 ∧
      world.host = host := by
  refine ⟨fun _ => opened_eq_ok, fun _ => opened_eq_error,
    fun _ plan values recipes => opened_congr plan values recipes host, fun world done => ?_⟩
  obtain ⟨_, rfl⟩ := opened_eq_ok.mp done
  exact ⟨fun _ _ => rfl, fun _ _ => state?_start, rfl, rfl, rfl, rfl⟩

/-- A pantry without a method to hand out the stove. -/
def pantry : RecipeTable Unit Unit :=
  { constructors := [("Pantry", fun _ => .finish (.fresh ()))] }

/-- A pantry with that method. -/
def larder : RecipeTable Unit Unit := pantry.withMethod "Pantry" "stove" fun _ _ => .finish none

/-- A kitchen whose salt is listed twice, with a stove that the pantry hands out. -/
def kitchen (supplied : List String) (recipes : RecipeTable Unit Unit) : Scope Unit Unit where
  plan := {
    package := "demo"
    scopeName := "Kitchen"
    values := [⟨"salt", "Salt", "Salt", .declared⟩, ⟨"salt", "Salt", "Salt", .implicit⟩]
    aliases := []
    cached := [
      ⟨0, "pantry", "Pantry", "Pantry", .constructor (.named "Pantry"), [.slot "salt"], false⟩,
      ⟨1, "stove", "Stove", "Stove", .provider "pantry" (.named "Pantry") "stove", [], false⟩]
    factories := []
    injectors := [] }
  values := .ofList (supplied.map (·, ()))
  recipes := recipes
  host := {
    typeName := fun _ => "Unit"
    factoryName := "Factory"
    injectorName := "Injector"
    closer := fun _ => none }

/-- With salt and the method the kitchen opens. Without anything the salt is missing, of what else is
supplied the least is unknown, and without the method there is no stove. -/
theorem opened_kitchen :
    (kitchen ["salt"] larder).opened () = .ok (start ()) ∧ (kitchen ["salt"] larder).Fitting ∧
    (kitchen [] pantry).Refuses (.missingValue "salt" "Salt" []) ∧
    (kitchen ["salt", "mace", "dill"] pantry).Refuses (.unknownValue "dill") ∧
    (kitchen ["salt"] pantry).Refuses (.missingRecipe "Pantry#stove") := by
  have cycles supplied recipes : (kitchen supplied recipes).plan.checkCycles = .ok () := by cbv
  have done : (kitchen ["salt"] larder).opened () = .ok (start ()) :=
    opened_of_check (check_of_checkCycles (cycles _ _)) ()
  have unsupplied : (kitchen [] pantry).opened () = .error (.missingValue "salt" "Salt" []) := by cbv
  have surplus : (kitchen ["salt", "mace", "dill"] pantry).opened () = .error (.unknownValue "dill") := by
    cbv
  have unlisted : (kitchen ["salt"] pantry).opened () = .error (.missingRecipe "Pantry#stove") := by
    rw [opened, check_of_checkCycles (cycles _ _)]
    rfl
  exact ⟨done, ((opened_iff_fitting _ ()).1 _ |>.mp done).1, ((opened_iff_fitting _ ()).2.1 _).mp unsupplied,
    ((opened_iff_fitting _ ()).2.1 _).mp surplus, ((opened_iff_fitting _ ()).2.1 _).mp unlisted⟩

end Scope

end Wiring
