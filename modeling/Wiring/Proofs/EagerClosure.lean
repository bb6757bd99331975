import Wiring.Proofs.Scope.Footprint
import Wiring.Proofs.Scope.Grounding

/-! # What a slot reaches along eager edges

What is cached stands on what it reads: between two operations, everything that a cached slot reaches
along eager edges is there, whatever the recipes have done, and stays there. And a read reaches no
further: while no recipe reads the scope, the slots that can only be reached through a handle, a
factory or an injector stay as they are, whatever comes of the read.

Main statement: `Scope.cached_with_closure`.
-/

namespace Wiring

variable {σ V : Type}

namespace Scope

variable {scope : Scope σ V} {w : World σ V} {identifier other : String}

theorem state?_eq_some_cached_iff : scope.state? w identifier = some .cached ↔
    ∃ slot, scope.served? identifier = some (.cached slot) ∧
      (w.cells slot.identifier).state = .cached := by
  unfold state?
  split
  next slot served => simp [served]
  next missing => exact iff_of_false nofun fun ⟨slot, served, _⟩ => missing slot served

/-- What is cached is there. -/
theorem fulfilled_of_cached (cached : scope.state? w identifier = some .cached) :
    scope.Fulfilled w identifier := by
  obtain ⟨slot, served, filled⟩ := state?_eq_some_cached_iff.mp cached
  have ends : scope.target identifier = identifier :=
    target_of_not_aliased fun target aliased => nomatch served.symm.trans aliased
  simp only [Fulfilled, ends, served, filled]

/-- What is there is served, and is no cell that holds nothing. -/
theorem served_of_fulfilled (fulfilled : scope.Fulfilled w identifier) :
    ∃ served, scope.served? identifier = some served ∧
      ∀ slot, served = .cached slot → scope.state? w identifier = some .cached := by
  cases served : scope.served? identifier with
  | none =>
    rw [Fulfilled, target_of_not_aliased (by simp [served]), served] at fulfilled
    exact fulfilled.elim
  | some found =>
    refine ⟨found, rfl, fun slot same => ?_⟩
    subst same
    rw [Fulfilled, target_of_not_aliased (by simp [served]), served] at fulfilled
    exact state?_eq_some_cached_iff.mpr ⟨slot, served, fulfilled⟩

/-- One edge further, everything is there as well. -/
theorem Fulfilled.eager (supplied : scope.Supplied) (acyclic : scope.plan.Acyclic)
    (grounded : scope.Grounded w) (fulfilled : scope.Fulfilled w identifier)
    (edge : scope.plan.Eager identifier other) : scope.Fulfilled w other := by
  obtain ⟨found, served, listed⟩ := (eager_iff_served? supplied).mp edge
  cases found with
  | ready value => exact absurd listed List.not_mem_nil
  | aliased target =>
    obtain rfl := List.mem_singleton.mp listed
    rwa [Fulfilled, target_of_aliased supplied acyclic served] at fulfilled
  | cached slot =>
    obtain ⟨_, rfl⟩ := mem_cached_of_served? served
    rw [Fulfilled, target_of_not_aliased (by simp [served]), served] at fulfilled
    exact grounded slot served fulfilled other listed

private theorem Fulfilled.closure (supplied : scope.Supplied) (acyclic : scope.plan.Acyclic)
    (grounded : scope.Grounded w) (fulfilled : scope.Fulfilled w identifier)
    (walk : Relation.ReflTransGen scope.plan.Eager identifier other) : scope.Fulfilled w other := by
  induction walk with
  | refl => exact fulfilled
  | tail _ edge ih => exact ih.eager supplied acyclic grounded edge

/-- What has failed stays so. -/
theorem failed_of_grounds {after : World σ V} (grounds : Grounds scope w after)
    (failed : scope.state? w other = some .failed) : scope.state? after other = some .failed := by
  unfold state? at failed ⊢
  split at failed
  next slot served =>
    rwa [grounds.cells slot.identifier (Cell.isEmpty_of_state (Option.some.inj failed) nofun)]
  next => cases failed

/-- Slots that no other slot reads eagerly are reached from nowhere else. -/
theorem not_reaches_of_unread {plan : Plan} (unread : ∀ reader, ¬ plan.Eager reader other)
    (different : other ≠ identifier) : ¬ Relation.ReflTransGen plan.Eager identifier other := by
  intro walk
  rcases walk.cases_tail with same | ⟨reader, _, edge⟩
  · exact different same
  · exact unread reader edge

private theorem state?_of_confined {inside : String → Prop} {after : World σ V}
    (confined : w.Confined inside after) (outside : ¬ inside other) :
    scope.state? after other = scope.state? w other := by
  unfold state?
  split
  next slot served =>
    obtain ⟨_, rfl⟩ := mem_cached_of_served? served
    rw [confined slot.identifier outside]
  next => rfl

/-- Between two operations, whatever a cached slot reaches along eager edges is served, and is cached
if it is created once. So a slot that reaches one that has failed, or that is missing, is not cached
then, nor after any further operations. While no recipe reads the scope, nor has a closer read it, a
read leaves all slots as they are that it does not reach along eager edges, such as one that no slot
reads eagerly. -/
theorem cached_with_closure (checked : scope.check = .ok ()) (host : σ)
    (operations : List (Operation V)) :
    let w := (scope.run operations (start host)).2
    (∀ identifier, scope.state? w identifier = some .cached →
      ∀ other, Relation.ReflTransGen scope.plan.Eager identifier other →
        ∃ served, scope.served? other = some served ∧
          ∀ slot, served = .cached slot → scope.state? w other = some .cached) ∧
    (∀ identifier other, Relation.ReflTransGen scope.plan.Eager identifier other →
      scope.served? other = none ∨ scope.state? w other = some .failed →
        ∀ later, scope.state? (scope.run later w).2 identifier ≠ some .cached) ∧
    (scope.Quiet .any → ∀ identifier, let after := (scope.operate (.read identifier) w).2
      (∀ other, ¬ Relation.ReflTransGen scope.plan.Eager identifier other →
        scope.state? after other = scope.state? w other) ∧
      ∀ other, other ≠ identifier → (∀ reader, ¬ scope.plan.Eager reader other) →
        scope.state? after other = scope.state? w other) := by
  intro w
  have supplied := supplied_of_check checked
  have acyclic := Plan.acyclic_of_checkCycles (checkCycles_of_check checked)
  have start : scope.Grounded (start host : World σ V) := fun _ _ cached => nomatch cached
  have grounded : scope.Grounded w := (scope.grounds_run operations _).grounded start
  have closure {w : World σ V} (grounded : scope.Grounded w) {identifier other : String}
      (cached : scope.state? w identifier = some .cached)
      (walk : Relation.ReflTransGen scope.plan.Eager identifier other) :
      ∃ served, scope.served? other = some served ∧
        ∀ slot, served = .cached slot → scope.state? w other = some .cached :=
    served_of_fulfilled ((fulfilled_of_cached cached).closure supplied acyclic grounded walk)
  refine ⟨fun identifier cached other walk => closure grounded cached walk,
    fun identifier other walk lacking later cached => ?_, fun quiet identifier => ?_⟩
  · have grounds := scope.grounds_run later w
    obtain ⟨served, found, filled⟩ := closure (grounds.grounded grounded) cached walk
    rcases lacking with missing | failed
    · cases missing.symm.trans found
    · have kept := failed_of_grounds grounds failed
      cases served with
      | cached slot => cases (filled slot rfl).symm.trans kept
      | ready value => simp [Scope.state?, found] at kept
      | aliased target => simp [Scope.state?, found] at kept
  · obtain ⟨_, steady⟩ := run_fits (admits_quiet quiet) scope.behaves_quiet (fits_of_check checked)
      (fun operation (_ : operation ∈ operations) => operation_fits_quiet operation)
      (steady_start (trivial : scope.quiet.state host))
    have confined := confined_operate checked quiet steady identifier
    exact ⟨fun other outside => state?_of_confined confined outside, fun other different unread =>
      state?_of_confined confined (not_reaches_of_unread unread different)⟩

end Scope

/-- A lamp, which reads a bulb under another name and has a handle to a fan; the scope closes the
bulb. -/
def Plan.porch : Plan where
  package := "demo"
  scopeName := "Porch"
  values := []
  aliases := [⟨"light", "Light", "Light", "bulb"⟩]
  cached := [
    ⟨0, "lamp", "Lamp", "Lamp", .constructor (.named "Lamp"), [.slot "light", .lazy "fan"], false⟩,
    ⟨1, "bulb", "Bulb", "Bulb", .constructor (.named "Bulb"), [], true⟩,
    ⟨2, "fan", "Fan", "Fan", .constructor (.named "Fan"), [], false⟩]
  factories := []
  injectors := []

theorem Plan.unread_porch (reader : String) : ¬ Plan.porch.Eager reader "fan" := by
  rintro ⟨slot, ⟨before, after, split, _⟩, listed⟩
  have member : slot ∈ Plan.porch.slots := split ▸ List.mem_append_right _ List.mem_cons_self
  have unread : ∀ slot ∈ Plan.porch.slots, "fan" ∉ slot.eagerDependencies := by decide
  exact unread slot member listed

private theorem Plan.light_porch : Plan.porch.Eager "lamp" "light" :=
  eager_iff_edges?.mpr ⟨["light"], by rfl, List.mem_cons_self⟩

namespace Scope

/-- A porch whose bulb reads the fan when it is closed. -/
def porch (lamp : ConstructorRecipe Unit String) : Scope Unit String where
  plan := .porch
  values := .empty
  recipes := {
    constructors := [
      ("Lamp", lamp),
      ("Bulb", fun _ => .finish (.fresh "bulb")),
      ("Fan", fun _ => .finish (.fresh "fan"))] }
  host := {
    typeName := id
    factoryName := "Factory"
    injectorName := "Injector"
    closer := fun name =>
      if name = "bulb" then some ((Program.get "fan").andThen fun _ => .finish ()) else none }

theorem all_porch {holds : ∀ {α : Type}, Program Unit String α → Prop}
    {lamp : ConstructorRecipe Unit String} (own : ∀ arguments, holds (lamp arguments))
    (finishes : ∀ made : Made String, holds (.finish made)) : (porch lamp).recipes.All holds := by
  refine ⟨fun entry member arguments => ?_, List.forall_mem_nil _⟩
  simp only [porch, List.mem_cons, List.not_mem_nil, or_false] at member
  rcases member with rfl | rfl | rfl
  · exact own arguments
  · exact finishes _
  · exact finishes _

theorem closure_porch :
    let scope := porch fun _ => .finish (.fresh "lamp")
    let w := (scope.run [.read "lamp"] (start ())).2
    scope.check = .ok () ∧ scope.Quiet .any ∧
      (∃ served, scope.served? "light" = some served ∧
        ∀ slot, served = .cached slot → scope.state? w "light" = some .cached) ∧
      scope.state? (scope.operate (.read "bulb") w).2 "fan" = scope.state? w "fan" := by
  intro scope w
  have checked : scope.check = .ok () := check_of_checkCycles (by cbv)
  have quiet : scope.Quiet .any :=
    ⟨(all_porch (fun _ => trivial) fun _ => trivial).handed _,
      .inl ((all_porch (fun _ => trivial) fun _ => trivial).handed _)⟩
  obtain ⟨closure, _, spares⟩ := cached_with_closure checked () [.read "lamp"]
  have cached : scope.state? w "lamp" = some .cached := by rfl
  exact ⟨checked, quiet, closure "lamp" cached "light" (.single Plan.light_porch),
    (spares quiet "bulb").2 "fan" (by decide) Plan.unread_porch⟩

/-- A recipe that reads nothing, but closes the scope, may have a slot read that only a handle leads
to, by the closer of what has been created before. -/
theorem unconfined_porch :
    let scope := porch fun _ => .close fun _ => .finish (.fresh "lamp")
    let w : World Unit String := start ()
    scope.check = .ok () ∧ scope.recipes.All Program.ReadFree ∧
      ¬ Relation.ReflTransGen scope.plan.Eager "lamp" "fan" ∧
      scope.state? w "fan" = some .empty ∧
      scope.state? (scope.operate (.read "lamp") w).2 "fan" = some .failed := by
  intro scope w
  exact ⟨check_of_checkCycles (by cbv), all_porch (fun _ _ => trivial) fun _ => trivial,
    not_reaches_of_unread Plan.unread_porch (by decide), by rfl, by rfl⟩

end Scope

end Wiring
