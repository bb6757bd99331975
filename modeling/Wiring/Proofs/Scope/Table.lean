import Mathlib.Data.List.Perm.Subperm
import Wiring.Proofs.EagerGraph
import Wiring.Scope.Depth
import Wiring.Scope.Opening

/-! # The table of a scope and the graph of its plan

The validator knows what the last slot of an identifier reads; a scope puts its slots into a table
of its own, one kind after the other, where a later entry takes the place of an earlier one. Both
describe one graph once every value is supplied, also for a plan that repeats identifiers or
refers to slots that do not exist. Without cycles in this graph, a chain of aliases meets no alias
twice, so it ends within as many steps as there are aliases.
-/

namespace Wiring

section Lookup

/-! ## What is looked up -/

theorem mem_of_lookup {κ ι : Type} [BEq κ] [LawfulBEq κ] {entries : List (κ × ι)} {key : κ} {value : ι}
    (found : entries.lookup key = some value) : (key, value) ∈ entries := by
  obtain ⟨before, after, split, _⟩ := List.lookup_eq_some_iff.mp found
  exact split ▸ List.mem_append_right _ List.mem_cons_self

variable {σ V : Type} {table : RecipeTable σ V} {type : TypeExpr} {name : String}

theorem RecipeTable.mem_of_findConstructor {recipe : ConstructorRecipe σ V}
    (found : table.findConstructor type = .ok recipe) : (type.name, recipe) ∈ table.constructors := by
  unfold findConstructor at found
  split at found
  next listed =>
    cases found
    exact mem_of_lookup listed
  next => cases found

theorem RecipeTable.mem_of_findMethod {recipe : MethodRecipe σ V}
    (found : table.findMethod type name = .ok recipe) : ((type.name, name), recipe) ∈ table.methods := by
  unfold findMethod at found
  split at found
  next listed =>
    cases found
    exact mem_of_lookup listed
  next => cases found

/-- A constructor that is required without failure is found. -/
theorem RecipeTable.exists_constructor (required : table.require (.constructor type) = .ok ()) :
    ∃ recipe, table.findConstructor type = .ok recipe := by
  simp only [require] at required
  cases found : table.findConstructor type with
  | ok recipe => exact ⟨recipe, rfl⟩
  | error failure =>
    rw [found] at required
    cases required

/-- So is a method. -/
theorem RecipeTable.exists_method (required : table.require (.method type name) = .ok ()) :
    ∃ recipe, table.findMethod type name = .ok recipe := by
  simp only [require] at required
  cases found : table.findMethod type name with
  | ok recipe => exact ⟨recipe, rfl⟩
  | error failure =>
    rw [found] at required
    cases required

end Lookup

section Callables

/-! ## What a plan calls -/

variable {plan : Plan}

theorem Plan.mem_callables_of_cached {slot : CachedSlot} (member : slot ∈ plan.cached) :
    slot.recipe.callable ∈ plan.callables :=
  List.mem_append_left _ (List.mem_append_left _ (List.mem_map.mpr ⟨slot, member, rfl⟩))

theorem Plan.mem_callables_of_factory {slot : FactorySlot} (member : slot ∈ plan.factories) :
    .constructor slot.product ∈ plan.callables :=
  List.mem_append_left _ (List.mem_append_right _ (List.mem_map.mpr ⟨slot, member, rfl⟩))

theorem Plan.mem_callables_of_injector {slot : InjectorSlot} (member : slot ∈ plan.injectors) :
    .method slot.receiverType slot.targetMethod ∈ plan.callables :=
  List.mem_append_right _ (List.mem_map.mpr ⟨slot, member, rfl⟩)

end Callables

/-- A cached slot reads the holder of its method and its arguments. -/
theorem CachedSlot.eager_cases {slot : CachedSlot} {read : String}
    (member : read ∈ (Slot.cached slot).eagerDependencies) :
    (∃ type method, slot.recipe = .provider read type method) ∨ .slot read ∈ slot.arguments := by
  rcases List.mem_append.mp member with holds | reads
  · cases recipe : slot.recipe with
    | constructor type => simp [recipe] at holds
    | provider holder type method =>
      obtain rfl : read = holder := by simpa [recipe] using holds
      exact .inl ⟨type, method, rfl⟩
  · obtain ⟨argument, listed, eager⟩ := List.mem_filterMap.mp reads
    cases argument with
    | slot other =>
      cases eager
      exact .inr listed
    | lazy other => cases eager
    | curried index => cases eager

/-- What a scope reads before it can serve this. -/
def Served.reads {V : Type} : Served V → List String
  | ready _ => []
  | aliased target => [target]
  | cached slot => (Slot.cached slot).eagerDependencies

namespace Scope

variable {σ V : Type} {scope : Scope σ V} {identifier target : String}

/-- What the scope serves for a slot. A value slot without a value is not served. -/
def offer? (scope : Scope σ V) : Slot → Option (Served V)
  | .value slot => (scope.values.find? slot.identifier).map .ready
  | .aliased slot => some (.aliased slot.target)
  | .cached slot => some (.cached slot)
  | .factory slot => some (.ready ⟨.slot slot.identifier, .factory slot⟩)
  | .injector slot => some (.ready ⟨.slot slot.identifier, .injector slot⟩)

/-- Every value slot has its value. -/
def Supplied (scope : Scope σ V) : Prop :=
  ∀ slot ∈ scope.plan.values, (scope.values.find? slot.identifier).isSome = true

section Check

/-! ## What opening a scope has checked -/

/-- A scope that has been checked has a plan without cycles. -/
theorem checkCycles_of_check (checked : scope.check = .ok ()) : scope.plan.checkCycles = .ok () := by
  obtain ⟨_, plan, _⟩ := bind_eq_ok.mp checked
  unfold checkPlan at plan
  split at plan
  · assumption
  · cases plan

/-- Once the plan is known to have no cycles, opening depends on the values and the recipes alone. -/
theorem check_of_checkCycles (cycles : scope.plan.checkCycles = .ok ()) :
    scope.check = scope.checkValues >>= fun _ => scope.checkRecipes := by
  rw [check, checkPlan, cycles]
  rfl

theorem opened_of_check (checked : scope.check = .ok ()) (host : σ) :
    scope.opened host = .ok (start host) := by
  rw [opened, checked]
  rfl

theorem supplied_of_mem_identifiers {slot : ValueSlot}
    (member : slot.identifier ∈ scope.values.identifiers) :
    (scope.values.find? slot.identifier).isSome = true := by
  obtain ⟨entry, listed, same⟩ := List.mem_map.mp member
  rw [Values.find?, Option.isSome_map, List.lookup_isSome_iff]
  exact ⟨entry, listed, by simp [same]⟩

/-- A scope that has been checked has a value for every value slot. -/
theorem supplied_of_check (checked : scope.check = .ok ()) : scope.Supplied := by
  obtain ⟨_, _, checked⟩ := bind_eq_ok.mp checked
  obtain ⟨_, values, _⟩ := bind_eq_ok.mp checked
  intro slot member
  unfold checkValues at values
  split at values
  · cases values
  next none =>
    have listed := List.find?_eq_none.mp none slot member
    exact supplied_of_mem_identifiers (by simpa using listed)

/-- There is a recipe for whatever the plan calls. -/
theorem require_of_check (checked : scope.check = .ok ()) {callable : Callable}
    (member : callable ∈ scope.plan.callables) : scope.recipes.require callable = .ok () := by
  obtain ⟨_, _, checked⟩ := bind_eq_ok.mp checked
  obtain ⟨_, _, recipes⟩ := bind_eq_ok.mp checked
  exact forM_eq_ok.mp recipes callable member

end Check

section Table

/-! ## The table -/

private theorem entries_eq_filterMap (scope : Scope σ V) : scope.entries =
    scope.plan.slots.filterMap fun slot => (scope.offer? slot).map (slot.identifier, ·) := by
  simp only [entries, Plan.slots, List.filterMap_append, List.filterMap_map, offer?, Function.comp_def,
    Option.map_map, Slot.identifier, Option.map_some, List.filterMap_eq_map']

/-- With all values supplied, every slot of the plan is served. -/
theorem offer?_isSome (supplied : scope.Supplied) {slot : Slot} (member : slot ∈ scope.plan.slots) :
    (scope.offer? slot).isSome = true := by
  cases slot with
  | value slot =>
    rw [offer?, Option.isSome_map]
    exact supplied slot (by simpa [Plan.slots] using member)
  | _ => rfl

/-- Where every slot is served, looking up a served slot is looking up its slot. -/
theorem lookup_filterMap_offer? {slots : List Slot}
    (served : ∀ slot ∈ slots, (scope.offer? slot).isSome = true) (identifier : String) :
    (slots.filterMap fun slot => (scope.offer? slot).map (slot.identifier, ·)).lookup identifier =
      (slots.find? (·.identifier = identifier)).bind scope.offer? := by
  induction slots with
  | nil => rfl
  | cons slot rest ih =>
    obtain ⟨offer, offered⟩ := Option.isSome_iff_exists.mp (served slot List.mem_cons_self)
    rw [List.filterMap_cons_some (b := (slot.identifier, offer)) (by rw [offered]; rfl), List.lookup_cons]
    by_cases same : slot.identifier = identifier
    · rw [List.find?_cons_of_pos (by simpa using same)]
      simp [same, offered]
    · rw [List.find?_cons_of_neg (by simpa using same), ← ih fun other later =>
        served other (List.mem_cons_of_mem _ later), beq_eq_false_iff_ne.mpr (Ne.symm same)]

/-- The scope serves the last slot of an identifier. -/
theorem served?_eq_lastSlot? (supplied : scope.Supplied) (identifier : String) :
    scope.served? identifier = (scope.plan.lastSlot? identifier).bind scope.offer? := by
  rw [served?, entries_eq_filterMap, ← List.filterMap_reverse, Plan.lastSlot?]
  exact lookup_filterMap_offer?
    (fun slot member => offer?_isSome supplied (List.mem_reverse.mp member)) identifier

private theorem reads_of_offer? {slot : Slot} {served : Served V}
    (offered : scope.offer? slot = some served) :
    slot.eagerDependencies = served.reads := by
  cases slot with
  | value slot =>
    obtain ⟨value, _, rfl⟩ := Option.map_eq_some_iff.mp offered
    rfl
  | _ =>
    cases offered
    rfl

/-- The validator and the scope know the same reads of every identifier. -/
theorem edges?_eq_served? (supplied : scope.Supplied) (identifier : String) :
    scope.plan.edges? identifier = (scope.served? identifier).map Served.reads := by
  rw [served?_eq_lastSlot? supplied, Plan.edges?]
  cases last : scope.plan.lastSlot? identifier with
  | none => rfl
  | some slot =>
    have member : slot ∈ scope.plan.slots := List.mem_reverse.mp (List.mem_of_find?_eq_some last)
    obtain ⟨served, offered⟩ := Option.isSome_iff_exists.mp (offer?_isSome supplied member)
    simp only [Option.map_some, Option.bind_some, offered, reads_of_offer? offered]

/-- The edges of the plan are what a scope reads before it can serve. -/
theorem eager_iff_served? (supplied : scope.Supplied) {reader read : String} :
    scope.plan.Eager reader read ↔
      ∃ served, scope.served? reader = some served ∧ read ∈ served.reads := by
  rw [Plan.eager_iff_edges?, edges?_eq_served? supplied]
  simp only [Option.map_eq_some_iff]
  constructor
  · rintro ⟨_, ⟨served, found, rfl⟩, member⟩
    exact ⟨served, found, member⟩
  · rintro ⟨served, found, member⟩
    exact ⟨_, ⟨served, found, rfl⟩, member⟩

/-- What is served as an alias is an alias of the plan. -/
theorem exists_alias_of_served? (served : scope.served? identifier = some (.aliased target)) :
    ∃ slot ∈ scope.plan.aliases, slot.identifier = identifier ∧ slot.target = target := by
  simpa [entries] using mem_entries_of_served? served

theorem mem_aliases_of_served? (served : scope.served? identifier = some (.aliased target)) :
    identifier ∈ scope.plan.aliases.map (·.identifier) := by
  obtain ⟨slot, listed, same, _⟩ := exists_alias_of_served? served
  exact List.mem_map.mpr ⟨slot, listed, same⟩

end Table

section Aliases

/-! ## Chains of aliases -/

variable {steps : Nat}

theorem follow_of_not_aliased (ends : ∀ target, scope.served? identifier ≠ some (.aliased target)) :
    scope.follow steps identifier = identifier := by
  cases steps with
  | zero => rfl
  | succ steps =>
    rw [follow]
    split
    next target aliased => exact (ends target aliased).elim
    next => rfl

theorem follow_succ_of_aliased (aliased : scope.served? identifier = some (.aliased target)) :
    scope.follow (steps + 1) identifier = scope.follow steps target := by
  rw [follow, aliased]

/-- Following further from an end stays there. -/
theorem follow_succ_of_ends
    (ends : ∀ target, scope.served? (scope.follow steps identifier) ≠ some (.aliased target)) :
    scope.follow (steps + 1) identifier = scope.follow steps identifier := by
  induction steps generalizing identifier with
  | zero => exact follow_of_not_aliased ends
  | succ steps ih =>
    rw [follow, follow]
    cases served : scope.served? identifier with
    | none => rfl
    | some found =>
      cases found with
      | aliased target => exact ih (by rwa [follow_succ_of_aliased served] at ends)
      | ready value => rfl
      | cached slot => rfl

/-- Following aliases goes along edges of the plan. -/
theorem reaches_follow (supplied : scope.Supplied) (steps : Nat) (identifier : String) :
    Relation.ReflTransGen scope.plan.Eager identifier (scope.follow steps identifier) := by
  induction steps generalizing identifier with
  | zero => exact .refl
  | succ steps ih =>
    rw [follow]
    split
    next target aliased =>
      exact .head ((eager_iff_served? supplied).mpr ⟨_, aliased, List.mem_cons_self⟩) (ih target)
    next => exact .refl

/-- The aliases passed are all different, so as many steps as are left of the list of aliases lead
to an end. -/
theorem follow_ends (supplied : scope.Supplied) (acyclic : scope.plan.Acyclic)
    {passed : List String} (nodup : passed.Nodup)
    (listed : passed ⊆ scope.plan.aliases.map (·.identifier))
    (behind : ∀ other ∈ passed, Relation.TransGen scope.plan.Eager other identifier)
    (counted : passed.length + steps = scope.plan.aliases.length) (target : String) :
    scope.served? (scope.follow steps identifier) ≠ some (.aliased target) := by
  induction steps generalizing identifier passed with
  | zero =>
    intro aliased
    have fresh : identifier ∉ passed := fun again => acyclic _ (behind _ again)
    have all := List.cons_subset.mpr ⟨mem_aliases_of_served? aliased, listed⟩
    have fits := (List.nodup_cons.mpr ⟨fresh, nodup⟩).subperm all |>.length_le
    rw [List.length_cons, List.length_map] at fits
    omega
  | succ steps ih =>
    rw [follow]
    split
    next next aliased =>
      have fresh : identifier ∉ passed := fun again => acyclic _ (behind _ again)
      have eager : scope.plan.Eager identifier next :=
        (eager_iff_served? supplied).mpr ⟨_, aliased, List.mem_cons_self⟩
      refine ih (List.nodup_cons.mpr ⟨fresh, nodup⟩)
        (List.cons_subset.mpr ⟨mem_aliases_of_served? aliased, listed⟩) ?_ ?_
      · exact List.forall_mem_cons.mpr ⟨.single eager, fun other later => (behind other later).tail eager⟩
      · rw [List.length_cons]
        omega
    next ends => exact ends target

/-- Without cycles, aliases end at what is no alias. -/
theorem target_not_aliased (supplied : scope.Supplied) (acyclic : scope.plan.Acyclic)
    (identifier target : String) : scope.served? (scope.target identifier) ≠ some (.aliased target) :=
  follow_ends supplied acyclic List.nodup_nil (List.nil_subset _) (List.forall_mem_nil _)
    (Nat.zero_add _) target

/-- A chain of aliases ends where the rest of the chain ends. -/
theorem target_of_aliased (supplied : scope.Supplied) (acyclic : scope.plan.Acyclic)
    (aliased : scope.served? identifier = some (.aliased target)) :
    scope.target identifier = scope.target target := by
  have listed := List.length_pos_of_mem (mem_aliases_of_served? aliased)
  obtain ⟨steps, count⟩ := Nat.exists_eq_add_of_lt listed
  have ends := target_not_aliased supplied acyclic identifier
  rw [List.length_map, Nat.zero_add] at count
  simp only [Scope.target, count, follow_succ_of_aliased aliased] at ends ⊢
  exact (follow_succ_of_ends ends).symm

/-- What is no alias is where it ends itself. -/
theorem target_of_not_aliased (ends : ∀ target, scope.served? identifier ≠ some (.aliased target)) :
    scope.target identifier = identifier :=
  follow_of_not_aliased ends

end Aliases

end Scope

end Wiring
