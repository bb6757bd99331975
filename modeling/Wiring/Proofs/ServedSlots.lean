import Wiring.Proofs.Compilation.Reordering
import Wiring.Proofs.ScopeOpening
import Wiring.Proofs.UniqueSlots

/-! # Which slot is served

An identifier is looked up in three places. A plan answers with the first slot that carries it, the
validator and the table of a scope with the last one. A compiled plan repeats no identifier, so all
three agree on it. Opening a scope looks at cycles, values and recipes and not at identifiers, so a
plan that was written by hand may repeat one: then an earlier slot is shadowed by a later one, which
is served in its place.

Main statements: `Scope.served?_of_opened` and `Scope.served?_veranda_lamp`.
-/

namespace Wiring

namespace Plan

variable {plan : Plan} {identifier : String} {slot : Slot}

/-- Another slot of the same identifier is listed after this one. -/
def Shadowed (plan : Plan) (slot : Slot) : Prop :=
  ∃ later, [slot, later].Sublist plan.slots ∧ later.identifier = slot.identifier

/-- The check of identifiers accepts the plans in which no slot is shadowed. -/
theorem checkIdentifiers_eq_ok_iff_not_shadowed :
    plan.checkIdentifiers = .ok () ↔ ∀ slot, ¬ plan.Shadowed slot := by
  rw [checkIdentifiers_eq_ok, identifiers, List.Nodup, List.pairwise_map,
    List.pairwise_iff_forall_sublist]
  constructor
  · rintro apart slot ⟨later, listed, same⟩
    exact apart listed same.symm
  · intro clear slot later listed same
    exact clear slot ⟨later, listed, same.symm⟩

/-- A slot that is not shadowed is the last one of its identifier. -/
theorem last_of_not_shadowed {before after : List Slot} (split : plan.slots = before ++ slot :: after)
    (clear : ¬ plan.Shadowed slot) : plan.Last slot.identifier slot := by
  refine ⟨before, after, split, rfl, fun later listed same => clear ⟨later, ?_, same⟩⟩
  have pair : [slot, later].Sublist (slot :: after) := (List.singleton_sublist.mpr listed).cons_cons slot
  exact split ▸ pair.trans (List.sublist_append_right before _)

/-- Where the first slot of an identifier is not shadowed, it is the last one as well. -/
theorem lastSlot?_eq_slot? (clear : ∀ slot, plan.slot? identifier = some slot → ¬ plan.Shadowed slot) :
    plan.lastSlot? identifier = plan.slot? identifier := by
  cases first : plan.slot? identifier with
  | none =>
    rw [lastSlot?, List.find?_eq_none]
    exact fun slot member => List.find?_eq_none.mp first slot (List.mem_reverse.mp member)
  | some slot =>
    obtain ⟨carries, before, after, split, _⟩ := List.find?_eq_some_iff_append.mp first
    obtain rfl : slot.identifier = identifier := of_decide_eq_true carries
    exact lastSlot?_eq_some_iff.mpr (last_of_not_shadowed split (clear slot first))

end Plan

namespace Scope

variable {σ V : Type} {scope : Scope σ V} {host : σ} {world : World σ V}

/-- Where the first slot of an identifier is not shadowed, it is served. -/
theorem served?_eq_slot? (supplied : scope.Supplied) {identifier : String}
    (clear : ∀ slot, scope.plan.slot? identifier = some slot → ¬ scope.plan.Shadowed slot) :
    scope.served? identifier = (scope.plan.slot? identifier).bind scope.offer? := by
  rw [served?_eq_lastSlot? supplied, Plan.lastSlot?_eq_slot? clear]

/-- A slot that is not shadowed is served under its identifier. -/
theorem served?_of_not_shadowed (supplied : scope.Supplied) {slot : Slot}
    (member : slot ∈ scope.plan.slots) (clear : ¬ scope.plan.Shadowed slot) :
    ∃ served, scope.offer? slot = some served ∧ scope.served? slot.identifier = some served := by
  obtain ⟨before, after, split⟩ := List.append_of_mem member
  have last := Plan.last_of_not_shadowed split clear
  obtain ⟨served, offered⟩ := Option.isSome_iff_exists.mp (offer?_isSome supplied member)
  refine ⟨served, offered, ?_⟩
  rw [served?_eq_lastSlot? supplied, Plan.lastSlot?_eq_some_iff.mpr last, Option.bind_some, offered]

/-- In a scope that was opened the last slot of an identifier is served. No slot is shadowed if the
identifiers of the plan pass their check, which those of a compiled plan do. Then the slot that the
plan finds for an identifier is served, and every slot is served under its identifier. -/
theorem served?_of_opened (opened : scope.opened host = .ok world) :
    (∀ identifier, scope.served? identifier =
      (scope.plan.lastSlot? identifier).bind scope.offer?) ∧
    (scope.plan.checkIdentifiers = .ok () ↔ ∀ slot, ¬ scope.plan.Shadowed slot) ∧
    (scope.plan.checkIdentifiers = .ok () →
      (∀ identifier, scope.served? identifier =
        (scope.plan.slot? identifier).bind scope.offer?) ∧
      ∀ slot ∈ scope.plan.slots, ∃ served, scope.offer? slot = some served ∧
        scope.served? slot.identifier = some served) ∧
    ∀ builder : Builder, builder.compile = .ok scope.plan →
      scope.plan.checkIdentifiers = .ok () := by
  have supplied := supplied_of_check (check_eq_ok.mpr (opened_eq_ok.mp opened).1)
  refine ⟨served?_eq_lastSlot? supplied, Plan.checkIdentifiers_eq_ok_iff_not_shadowed, fun passed => ?_,
    fun builder compiled => ?_⟩
  · have clear := Plan.checkIdentifiers_eq_ok_iff_not_shadowed.mp passed
    exact ⟨fun _ => served?_eq_slot? supplied fun slot _ => clear slot,
      fun slot member => served?_of_not_shadowed supplied member (clear slot)⟩
  · obtain ⟨_, _, _, _, _, _, _, _, _, _, nodup, _⟩ := Builder.plans_of_compile compiled
    exact Plan.checkIdentifiers_eq_ok.mpr nodup

/-- A veranda with a lamp, which is its light, and a torch under the identifier given. -/
def veranda (torch : String) : Scope Unit Unit where
  plan := {
    package := "demo"
    scopeName := "Veranda"
    values := []
    aliases := [⟨"light", "Light", "Light", "lamp"⟩]
    cached := [
      ⟨0, "lamp", "Lamp", "Lamp", .constructor (.named "Lamp"), [], false⟩,
      ⟨1, torch, "Torch", "Torch", .constructor (.named "Torch"), [], false⟩]
    factories := []
    injectors := [] }
  values := .ofList []
  recipes := { constructors := [
    ("Lamp", fun _ => .finish (.fresh ())),
    ("Torch", fun _ => .finish (.fresh ()))] }
  host := {
    typeName := fun _ => "Unit"
    factoryName := "Factory"
    injectorName := "Injector"
    closer := fun _ => none }

/-- What the veranda is compiled from when the torch has an identifier of its own. -/
def verandaBuilder : Builder where
  catalog := ⟨[
    { name := "Lamp", constructors := [{}] },
    { name := "Torch", constructors := [{}] }], by decide⟩
  package := "demo"
  scopeName := "Veranda"
  declarations := {
    constructors := [.named "Lamp", .named "Torch"]
    aliases := [⟨⟨.plain (.named "Light"), rfl⟩, ⟨.plain (.named "Lamp"), rfl⟩⟩] }

theorem served?_veranda_torch : (veranda "torch").opened () = .ok (start ()) ∧
    verandaBuilder.compile = .ok (veranda "torch").plan ∧
    (veranda "torch").plan.checkIdentifiers = .ok () ∧
    ∀ identifier, (veranda "torch").served? identifier =
      ((veranda "torch").plan.slot? identifier).bind (veranda "torch").offer? := by
  have opened : (veranda "torch").opened () = .ok (start ()) :=
    opened_of_check (check_of_checkCycles (by cbv)) ()
  have compiled : verandaBuilder.compile = .ok (veranda "torch").plan := by cbv
  obtain ⟨_, _, agree, passes⟩ := served?_of_opened opened
  have passed := passes verandaBuilder compiled
  exact ⟨opened, compiled, passed, (agree passed).1⟩

/-- When the torch takes the identifier of the lamp the scope opens all the same. The plan finds the
lamp under it, and the scope serves the torch, also as the light. -/
theorem served?_veranda_lamp : ∃ lamp torch,
    (veranda "lamp").opened () = .ok (start ()) ∧
    (veranda "lamp").plan.cached = [lamp, torch] ∧ lamp.recipe ≠ torch.recipe ∧
    (veranda "lamp").plan.slot? "lamp" = some (.cached lamp) ∧
    (veranda "lamp").served? "lamp" = some (.cached torch) ∧
    (veranda "lamp").plan.Shadowed (.cached lamp) := by
  have opened : (veranda "lamp").opened () = .ok (start ()) :=
    opened_of_check (check_of_checkCycles (by cbv)) ()
  exact ⟨_, _, opened, rfl, by decide, rfl, rfl, _, List.sublist_cons_self _ _, rfl⟩

end Scope

end Wiring
