import Wiring.Proofs.Compilation.Bookkeeping

/-! # One slot for each key

No two bindings of a compiled plan have one key, whatever the names are, and each has its slot. Values
that are surfaced in the end have keys of their own, since a needed key is noted once and surfaced
only if nothing satisfies it. Identifiers are compared on the finished plan.

Main statement: `Builder.slots_of_compile`.
-/

namespace Wiring

/-- Where the keys of slots differ, a key filters out its slot. -/
theorem Plan.filter_keyText {slots : List Slot} {slot : Slot} {text : String}
    (nodup : (slots.filterMap Slot.keyText?).Nodup) (member : slot ∈ slots)
    (answers : slot.keyText? = some text) : slots.filter (·.keyText? = some text) = [slot] := by
  induction slots with
  | nil => cases member
  | cons head rest ih =>
    rcases List.mem_cons.mp member with rfl | later
    · rw [List.filterMap_cons_some answers, List.nodup_cons] at nodup
      rw [List.filter_cons_of_pos (by simpa using answers), List.filter_eq_nil_iff.mpr]
      intro other listed same
      exact nodup.1 (List.mem_filterMap.mpr ⟨other, listed, of_decide_eq_true same⟩)
    · have nodupRest : (rest.filterMap Slot.keyText?).Nodup :=
        nodup.sublist ((List.sublist_cons_self head rest).filterMap _)
      rw [List.filter_cons_of_neg, ih nodupRest later]
      intro same
      rw [List.filterMap_cons_some (of_decide_eq_true same), List.nodup_cons] at nodup
      exact nodup.1 (List.mem_filterMap.mpr ⟨slot, later, answers⟩)

namespace Session

variable {session next : Session} {catalog : Catalog} {noted planned : List Binding}
  {interfaces : List QualifiedType}

/-- Each slot that answers a key is the slot of a binding that slots are planned for. -/
theorem Plans.of_slot (plans : Plans catalog { pending := interfaces } noted planned next) {slot : Slot}
    (member : slot ∈ next.slots) (keyed : slot.keyText?.isSome) :
    ∃ binding ∈ planned, slot.Answers catalog binding := by
  obtain ⟨made, perm, answers⟩ := plans.slots
  have listed : slot ∈ made := perm.mem_iff.mp (List.mem_filter.mpr ⟨member, keyed⟩)
  exact exists_of_forall₂ answers.flip listed

/-- Each binding that a slot is planned for has one. -/
theorem Plans.slot (plans : Plans catalog { pending := interfaces } noted planned next)
    {binding : Binding} (member : binding ∈ planned) :
    ∃ slot ∈ next.slots, slot.Answers catalog binding := by
  obtain ⟨made, perm, answers⟩ := plans.slots
  obtain ⟨slot, listed, answersBinding⟩ := exists_of_forall₂ answers member
  exact ⟨slot, List.mem_of_mem_filter (perm.mem_iff.mpr listed), answersBinding⟩

/-- The keys of all slots are those of the bindings that slots are planned for. -/
theorem Plans.keyTexts (plans : Plans catalog { pending := interfaces } noted planned next) :
    (next.slots.filterMap Slot.keyText?).Perm (planned.map Binding.text) := by
  obtain ⟨made, perm, answers⟩ := plans.slots
  have texts : made.filterMap Slot.keyText? = planned.map Binding.text := by
    clear perm plans
    induction answers with
    | nil => rfl
    | cons first _ ih => rw [List.filterMap_cons_some first.text, ih, List.map_cons]
  have keyed : next.keyed.filterMap Slot.keyText? = next.slots.filterMap Slot.keyText? := by
    rw [Session.keyed, List.filterMap_filter]
    refine List.filterMap_congr fun slot _ => ?_
    cases slot.keyText? <;> rfl
  rw [← keyed, ← texts]
  exact perm.filterMap _

end Session

section Kinds

private theorem CachedSlot.kind_ne_factory (slot : CachedSlot) : (Slot.cached slot).kind ≠ .factory := by
  rw [Slot.kind]
  split <;> nofun

private theorem CachedSlot.kind_ne_value (slot : CachedSlot) : (Slot.cached slot).kind ≠ .value := by
  rw [Slot.kind]
  split <;> nofun

private theorem Declarations.kind_ne_factory {declarations : Declarations} {catalog : Catalog}
    {binding : Binding}
    (member : binding ∈ declarations.explicit catalog) : binding.kind ≠ .factory := by
  simp only [explicit, List.mem_append, List.mem_map] at member
  rcases member with ((⟨_, _, rfl⟩ | ⟨_, _, rfl⟩) | ⟨_, _, rfl⟩) | ⟨_, _, rfl⟩ <;>
  · intro same
    cases same

end Kinds

namespace Builder

variable {builder : Builder} {plan : Plan}

/-- A compiled plan is that of a tidy session. The bindings that it notes are the explicit ones and one
for each generated factory, and it has slots for these and for the values that it surfaces; no two of
the slots have one key. -/
theorem plans_of_compile (compiled : builder.compile = .ok plan) :
    ∃ (generated : List QualifiedType) (explicit surfaced : List Binding) (session : Session),
      explicit.Perm (builder.declarations.explicit builder.catalog) ∧
      (∀ binding ∈ surfaced, binding.kind = .value) ∧
      Session.Plans builder.catalog { pending := builder.declarations.factories }
        (builder.declarations.explicit builder.catalog ++ generated.map (Binding.mk · .factory))
        (explicit ++ generated.map (Binding.mk · .factory) ++ surfaced) session ∧
      ((explicit ++ generated.map (Binding.mk · .factory) ++ surfaced).map Binding.text).Nodup ∧
      (∀ interface ∈ builder.declarations.factories, interface.descriptor ∈ session.bound) ∧
      session.Tidy ∧ plan.identifiers.Nodup ∧
      plan = session.plan builder.package builder.scopeName := by
  obtain ⟨resolved, session, resolve, surface, rfl, checked⟩ := compile_iff_surface.mp compiled
  obtain ⟨identifiers, _⟩ := check_bind_eq_ok.mp checked
  obtain ⟨bound, bind, drain⟩ := bind_eq_ok.mp resolve
  obtain ⟨explicit, perm, bindings⟩ := Session.plans_bind bind
  obtain ⟨generated, factories, _⟩ := Session.plans_drain drain
  have values : resolved.Plans builder.catalog [] _ session := Session.plans_surface surface
  have resolvedPlans := bindings.trans factories
  have tidy := Session.tidy_resolve resolve
  have boundSame : session.bound = resolved.bound := by
    rw [Session.bound_eq_map_text, Session.bound_eq_map_text, values.bindings, List.append_nil]
  have plans := resolvedPlans.trans values
  rw [List.append_nil] at plans
  refine ⟨generated, explicit, _, session, perm, ?_, plans, ?_, ?_, values.tidy tidy,
    Plan.nodup_of_checkIdentifiers identifiers, rfl⟩
  · intro binding member
    obtain ⟨key, _, rfl⟩ := List.mem_map.mp member
    rfl
  · have texts : ((explicit ++ generated.map (Binding.mk · .factory)).map Binding.text).Perm
        resolved.bound := by
      rw [Session.bound_eq_map_text, resolvedPlans.bindings]
      exact (perm.append_right _).map _
    rw [List.map_append, List.map_map]
    exact (texts.append_right _).nodup_iff.mpr tidy.nodup_missing
  · rw [boundSame]
    exact Session.bound_of_declared bind drain

/-- However things are named, no two explicit bindings of a compiled plan have one key, and neither
does a generated factory have that of another binding. Each of them has exactly one slot, of its own
kind and with the identifier of its key; every declared factory is bound in one way or the other, and
every cached slot and every factory is that of a binding. No two slots share a key or an identifier.
Cached slots are numbered by position, and close what the catalog says is closeable. -/
theorem slots_of_compile (compiled : builder.compile = .ok plan) :
    ∃ (generated : List QualifiedType) (bindings : List Binding),
      bindings = builder.declarations.explicit builder.catalog ++ generated.map (Binding.mk · .factory) ∧
      (bindings.map (·.asked.descriptor)).Nodup ∧
      (∀ binding ∈ bindings, ∃ slot,
        plan.slots.filter (·.keyText? = some binding.asked.descriptor) = [slot] ∧
        slot.Answers builder.catalog binding) ∧
      (∀ interface ∈ builder.declarations.factories,
        ∃ binding ∈ bindings, binding.asked.descriptor = interface.descriptor) ∧
      (∀ slot ∈ plan.cached, ∃ binding ∈ builder.declarations.explicit builder.catalog,
        (Slot.cached slot).Answers builder.catalog binding) ∧
      (∀ slot ∈ plan.factories, ∃ interface ∈ generated,
        (Slot.factory slot).Answers builder.catalog ⟨interface, .factory⟩) ∧
      (plan.slots.filterMap Slot.keyText?).Nodup ∧ plan.identifiers.Nodup ∧
      plan.cached.map (·.ordinal) = (List.range plan.cached.length).map .ofNat := by
  obtain ⟨generated, explicit, surfaced, session, perm, values, plans, distinct, declared, tidy,
    identifiers, rfl⟩ := plans_of_compile compiled
  have keyTexts : (session.slots.filterMap Slot.keyText?).Nodup := plans.keyTexts.nodup_iff.mpr distinct
  have boundTexts : session.bound = (builder.declarations.explicit builder.catalog ++
      generated.map (Binding.mk · .factory)).map Binding.text := by
    rw [Session.bound_eq_map_text, plans.bindings]
    rfl
  refine ⟨generated, _, rfl, ?_, fun binding member => ?_, ?_, fun slot member => ?_,
    fun slot member => ?_, keyTexts, identifiers, tidy.ordinals⟩
  · exact boundTexts ▸ tidy.bound
  · have planned := List.mem_append_left surfaced ((perm.append_right _).mem_iff.mpr member)
    obtain ⟨slot, listed, answers⟩ := plans.slot planned
    exact ⟨slot, Plan.filter_keyText keyTexts listed answers.text, answers⟩
  · intro interface member
    have bound := declared interface member
    rw [boundTexts] at bound
    exact List.mem_map.mp bound
  · have listed : .cached slot ∈ session.slots :=
      Session.mem_slots.mpr (.inr (.inr (.inl ⟨slot, member, rfl⟩)))
    obtain ⟨binding, planned, answers⟩ := plans.of_slot listed rfl
    have kind := answers.kind
    rcases List.mem_append.mp planned with bound | value
    · rcases List.mem_append.mp bound with here | made
      · exact ⟨binding, perm.mem_iff.mp here, answers⟩
      · obtain ⟨_, _, rfl⟩ := List.mem_map.mp made
        exact absurd kind slot.kind_ne_factory
    · exact absurd (kind.trans (values binding value)) slot.kind_ne_value
  · have listed : .factory slot ∈ session.slots :=
      Session.mem_slots.mpr (.inr (.inr (.inr (.inl ⟨slot, member, rfl⟩))))
    obtain ⟨binding, planned, answers⟩ := plans.of_slot listed rfl
    have kind : BindingKind.factory = binding.kind := answers.kind
    rcases List.mem_append.mp planned with bound | value
    · rcases List.mem_append.mp bound with here | made
      · exact absurd kind.symm (Declarations.kind_ne_factory (perm.mem_iff.mp here))
      · obtain ⟨interface, listed, rfl⟩ := List.mem_map.mp made
        exact ⟨interface, listed, answers⟩
    · exact nomatch kind.trans (values binding value)

theorem slots_garage : ∃ plan, garage.compile = .ok plan ∧
    plan.slots.filterMap Slot.keyText? = ["Engine", "Vehicle", "Car", "Garage", "Radio", "CarFactory"] ∧
    ∃ (generated : List QualifiedType) (bindings : List Binding),
      bindings = garage.declarations.explicit garage.catalog ++ generated.map (Binding.mk · .factory) ∧
      (bindings.map (·.asked.descriptor)).Nodup ∧
      (∀ binding ∈ bindings, ∃ slot,
        plan.slots.filter (·.keyText? = some binding.asked.descriptor) = [slot] ∧
        slot.Answers garage.catalog binding) ∧
      plan.cached.map (·.ordinal) = (List.range plan.cached.length).map .ofNat := by
  have compiled : ∃ plan, garage.compile = .ok plan ∧ plan.slots.filterMap Slot.keyText? =
      ["Engine", "Vehicle", "Car", "Garage", "Radio", "CarFactory"] := ⟨_, by cbv, rfl⟩
  obtain ⟨plan, compiled, texts⟩ := compiled
  obtain ⟨generated, bindings, all, distinct, slots, _, _, _, _, _, ordinals⟩ := slots_of_compile compiled
  exact ⟨plan, compiled, texts, generated, bindings, all, distinct, slots, ordinals⟩

end Builder

end Wiring
