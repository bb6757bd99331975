import Mathlib.Data.List.Forall2
import Wiring.Scope.Opening

/-! # What recipes are handed

A scope calls recipes in four places, and in each of them it makes the arguments from those of a slot:
instances that it has read, handles, and instances that its caller passes. So a recipe is handed as many
arguments as the slot lists, each of the kind that is listed there, and none under the name of another
slot. What recipes do is of interest on such arguments alone.
-/

namespace Wiring

variable {V : Type}

/-- Which arguments a callable may be handed. -/
abbrev Handover (V : Type) := Callable → Arguments V → Prop

/-- Nothing is known of the arguments. -/
def Handover.any : Handover V := fun _ _ => True

/-- The value stands for the argument: an instance for a slot, a handle to that very slot for a handle,
and for a position the instance that the caller passes there. -/
inductive Argument.StoodBy (given : List (Instance V)) : Argument → Arg V → Prop
  | slot {identifier : String} {value : Instance V} : StoodBy given (.slot identifier) (.shared value)
  | lazy {identifier : String} : StoodBy given (.lazy identifier) (.lazy identifier)
  | curried {index : UInt64} {value : Instance V} :
      given[index.toNat]? = some value → StoodBy given (.curried index) (.shared value)

/-- Values stand for arguments position by position. -/
abbrev Handing (given : List (Instance V)) (sources : List Argument) (values : List (Arg V)) : Prop :=
  List.Forall₂ (Argument.StoodBy given) sources values

/-- The slot calls this with such arguments, made from its own and from what a caller gives. -/
inductive Slot.Calls : Slot → Callable → List Argument → List (Instance V) → Arguments V → Prop
  | cached {slot : CachedSlot} {values : List (Arg V)} : Handing [] slot.arguments values →
      Calls (.cached slot) slot.recipe.callable slot.arguments [] ⟨slot.identifier, values⟩
  | factory {slot : FactorySlot} {given : List (Instance V)} {values : List (Arg V)} :
      given.length = slot.parameters.length → Handing given slot.arguments values →
      Calls (.factory slot) (.constructor slot.product) slot.arguments given ⟨slot.identifier, values⟩
  | injector {slot : InjectorSlot} {given : List (Instance V)} {values : List (Arg V)} :
      given.length = slot.parameters.length → Handing given slot.arguments values →
      Calls (.injector slot) (.method slot.receiverType slot.targetMethod) slot.arguments given
        ⟨slot.identifier, values⟩

section Slots

variable {plan : Plan}

theorem Plan.mem_slots_of_cached {slot : CachedSlot} (member : slot ∈ plan.cached) :
    .cached slot ∈ plan.slots :=
  List.mem_append_left _ (List.mem_append_left _ (List.mem_append_right _ (List.mem_map_of_mem member)))

theorem Plan.mem_slots_of_factory {slot : FactorySlot} (member : slot ∈ plan.factories) :
    .factory slot ∈ plan.slots :=
  List.mem_append_left _ (List.mem_append_right _ (List.mem_map_of_mem member))

theorem Plan.mem_slots_of_injector {slot : InjectorSlot} (member : slot ∈ plan.injectors) :
    .injector slot ∈ plan.slots :=
  List.mem_append_right _ (List.mem_map_of_mem member)

end Slots

/-- A slot of the plan may call this with such arguments. -/
def Plan.Hands (plan : Plan) (callable : Callable) (arguments : Arguments V) : Prop :=
  ∃ slot ∈ plan.slots, ∃ sources given, slot.Calls callable sources given arguments

/-- What a slot calls, and what it makes the arguments from. -/
def Slot.call? : Slot → Option (Callable × List Argument)
  | value _ => none
  | aliased _ => none
  | cached slot => some (slot.recipe.callable, slot.arguments)
  | factory slot => some (.constructor slot.product, slot.arguments)
  | injector slot => some (.method slot.receiverType slot.targetMethod, slot.arguments)

/-- Arguments that are handed over stand for those of a slot that makes the call. -/
theorem Plan.Hands.exists_call {plan : Plan} {callable : Callable} {arguments : Arguments V}
    (handed : plan.Hands callable arguments) :
    ∃ sources given, (callable, sources) ∈ plan.slots.filterMap Slot.call? ∧
      Handing given sources arguments.values := by
  obtain ⟨slot, member, sources, given, calls⟩ := handed
  refine ⟨sources, given, List.mem_filterMap.mpr ⟨slot, member, ?_⟩, ?_⟩
  · cases calls <;> rfl
  · cases calls <;> assumption

end Wiring
