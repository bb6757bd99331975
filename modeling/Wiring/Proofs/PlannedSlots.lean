import Wiring.Proofs.Compilation.Generation
import Wiring.Proofs.KeyIdentity

/-! # Which values and factories a plan has

The values of a plan are those that are declared and the needed keys that nothing satisfies. Its
factories are those that are declared or asked for and that nothing else satisfies. Both are read off
what is brought into the plan, by the declarations and by the factories themselves: a factory that is
found late still adds to what is needed and to what is satisfied.

Main statements: `Builder.values_of_compile` and `Builder.factories_of_compile`.
-/

namespace Wiring

open Contribution

namespace Session

variable {session next : Session} {interfaces : List QualifiedType} {whole : Contribution}

/-- Needed keys that nothing satisfies become values, in order. -/
theorem values_of_foldlM {explicitValues : Bool} {needed : List (DirectKey × String)}
    (done : needed.foldlM (addImplicit explicitValues) session = .ok next) :
    next.factories = session.factories ∧
      next.values = session.values ++
        ((needed.map (·.1)).filter fun key => key.qualified.isUnbound session.bound).map
          (·.value .implicit) := by
  induction needed generalizing session with
  | nil =>
    cases done
    simp
  | cons entry rest ih =>
    obtain ⟨middle, first, done⟩ := foldlM_cons_eq_ok.mp done
    obtain ⟨factories, values⟩ := ih done
    rcases addImplicit_adds first with ⟨bound, rfl⟩ | ⟨unbound, _, rfl⟩
    · have skipped : ¬ entry.1.qualified.isUnbound middle.bound = true := fun unbound =>
        QualifiedType.isUnbound_iff.mp unbound bound
      rw [List.map_cons, List.filter_cons_of_neg (by exact skipped)]
      exact ⟨factories, values⟩
    · have same : (session ++ { values := [entry.1.value .implicit] }).bound = session.bound := by
        rw [bound_append]
        exact List.append_nil _
      have surfaced : entry.1.qualified.isUnbound session.bound = true :=
        QualifiedType.isUnbound_iff.mpr unbound
      rw [same] at values
      refine ⟨by simpa using factories, ?_⟩
      rw [values, List.map_cons, List.filter_cons_of_pos (by exact surfaced)]
      simp

/-- The needed keys are what is read, each from its first reading on. -/
theorem required_of_gathers (gathers : Gathers { pending := interfaces } whole session)
    (plainWhole : whole.Plain) (plain : ∀ entry ∈ session.required, entry.1.qualified.Plain) :
    session.required.map (·.1) = whole.needs.eraseDups := by
  have plainNeeds := plainWhole.needs
  have texts : (session.required.map (·.1)).map DirectKey.descriptor =
      whole.needs.eraseDups.map DirectKey.descriptor := by
    have apart : ∀ a ∈ whole.needs, ∀ b ∈ whole.needs, a.descriptor = b.descriptor → a = b :=
      fun a memberA b memberB => DirectKey.descriptor_inj (plainNeeds a memberA) (plainNeeds b memberB)
    rw [← eraseDups_map apart, List.map_map]
    exact gathers.needed [] rfl
  refine eq_of_map_eq (fun a memberA b memberB => ?_) texts
  obtain ⟨entry, listed, rfl⟩ := List.mem_map.mp memberA
  exact DirectKey.descriptor_inj (plain entry listed) (plainNeeds b (List.mem_eraseDups.mp memberB))

/-- What is read and asks for a factory is satisfied once the queue is empty. -/
theorem bound_of_gathers (gathers : Gathers { pending := interfaces } whole session)
    (empty : session.pending = []) {item : QualifiedType} (queued : item ∈ whole.queue) :
    item.descriptor ∈ session.bound := by
  have none := gathers.pending session.bound (List.Subset.refl _)
  rw [empty, List.filter_nil, List.filter_append] at none
  by_contra unbound
  have kept : item ∈ whole.queue.filter (·.isUnbound session.bound) :=
    List.mem_filter.mpr ⟨queued, QualifiedType.isUnbound_iff.mpr unbound⟩
  rw [(List.append_eq_nil_iff.mp none.symm).2] at kept
  cases kept

end Session

namespace Builder

variable {builder : Builder} {plan : Plan}

/-- The slots of a compiled plan are those of a session that gathers what the declarations and the
generated factories bring, with plain names, and of the keys that it is missing. -/
theorem gathers_of_compile (plain : builder.Plain) (compiled : builder.compile = .ok plan) :
    ∃ (bindings : Contribution) (made : List QualifiedType) (generated : List Contribution)
      (bound session : Session),
      builder.declarations.Contribute builder.catalog bindings ∧
      Session.Gathers { pending := builder.declarations.factories } bindings bound ∧
      Session.Generates builder.catalog bound made generated session ∧ session.pending = [] ∧
      (∀ interface ∈ made, interface.Plain) ∧ (bindings ++ join generated).Plain ∧
      (∀ entry ∈ session.required, entry.1.qualified.Plain) ∧
      plan.factories = (join generated).factories ∧
      plan.values = session.values ++
        ((session.required.map (·.1)).filter fun key => key.qualified.isUnbound session.bound).map
          (·.value .implicit) := by
  obtain ⟨session, surfaced, resolve, surface, rfl, _⟩ := compile_iff_surface.mp compiled
  obtain ⟨bound, bind, drain⟩ := bind_eq_ok.mp resolve
  obtain ⟨bindings, contribute, gathers⟩ := Session.gathers_bind bind
  have soundBound := Session.sound_bind plain bind
  obtain ⟨made, generated, generates⟩ :=
    Session.generates_of_drain plain.catalog soundBound.pending drain
  obtain ⟨plainMade, plainGenerated⟩ := generates.plain plain.catalog soundBound.pending
  have ends := Session.ends_drain builder.catalog bound
  rw [drain] at ends
  obtain ⟨factories, values⟩ := Session.values_of_foldlM surface
  obtain ⟨_, _, _, unplanned⟩ := contribute.slots
  have planned : surfaced.factories = (join generated).factories :=
    calc
      surfaced.factories = session.factories := factories
      _ = [] ++ (bindings ++ join generated).factories := (gathers.trans generates.gathers).factories
      _ = (join generated).factories := by simp [unplanned]
  exact ⟨bindings, made, generated, bound, session, contribute, gathers, generates, ends.2, plainMade,
    (contribute.plain plain).append plainGenerated,
    (Session.sound_drain plain drain soundBound).1.required, planned, values⟩

/-- An interface whose factory is asked for. -/
def factoryOf (name : String) : QualifiedType where
  type := .named name
  qualifiers := ⟨[.autoFactory], by decide, by decide⟩

/-- A joiner asks for a factory of doors, and so does a door again. The plan of a door is passed on by
whoever orders one; the wood is missing. -/
def joinery : Builder where
  catalog := ⟨[
    { name := "Door"
      constructors := [{ params := [
        .plain (.named "Plan"), .plain (.named "Wood"), factoryOf "Doors"] }] },
    { name := "Doors"
      methods := [
        { name := "build", params := [.plain (.named "Plan")], returns := some (.named "Door") }] },
    { name := "Joiner"
      constructors := [{ params := [.plain (.named "Clock"), factoryOf "Doors"] }] }], by decide⟩
  package := "demo"
  scopeName := "Yard"
  declarations := {
    values := [.plain (.named "Clock")]
    constructors := [.named "Joiner"] }

theorem joinery_plain : joinery.Plain := by decide +kernel

theorem compile_joinery : ∃ plan, joinery.compile = .ok plan ∧
    plan.values.map (·.identifier) = ["clock", "wood"] ∧
    plan.factories.map (·.descriptor) = ["@AutoFactory Doors"] :=
  ⟨_, by cbv, rfl, rfl⟩

/-- Among plain names, the values of a compiled plan are the declared ones and after them the keys
that are read, in order of their first reading, and that neither a declaration nor a generated
factory satisfies. None of these asks for a factory. -/
theorem values_of_compile (plain : builder.Plain) (compiled : builder.compile = .ok plan) :
    ∃ (declared surfaced : List DirectKey) (bindings : Contribution) (made : List QualifiedType)
      (generated : List Contribution),
      declared.map (·.qualified) = builder.declarations.values ∧
      builder.declarations.Contribute builder.catalog bindings ∧
      List.Forall₂ (OfFactory builder.catalog) made generated ∧
      plan.factories = (join generated).factories ∧
      plan.values = declared.map (·.value .declared) ++ surfaced.map (·.value .implicit) ∧
      surfaced = (bindings ++ join generated).needs.eraseDups.filter
        (· ∉ (bindings ++ join generated).binds) ∧
      ∀ key ∈ surfaced, key.qualifiers.isAutoFactory = false := by
  obtain ⟨bindings, made, generated, bound, session, contribute, start, generates, empty, _,
    plainWhole, plainRequired, factories, values⟩ := gathers_of_compile plain compiled
  obtain ⟨declared, types, valueSlots, _⟩ := contribute.slots
  have gathers := start.trans generates.gathers
  have generatedValues := (slots_of_factories generates.each).2
  rw [Session.required_of_gathers gathers plainWhole plainRequired] at values
  have boundWhole : session.bound = (bindings ++ join generated).bound := gathers.bound
  have unbound : ∀ key ∈ (bindings ++ join generated).needs.eraseDups,
      key.qualified.isUnbound session.bound = decide (key ∉ (bindings ++ join generated).binds) := by
    intro key member
    have plainKey := plainWhole.needs key (List.mem_eraseDups.mp member)
    rw [Bool.eq_iff_iff, QualifiedType.isUnbound_iff, decide_eq_true_iff, not_iff_not, boundWhole]
    constructor
    · intro text
      obtain ⟨other, satisfied, same⟩ := List.mem_map.mp text
      exact DirectKey.descriptor_inj (plainWhole.binds other satisfied) plainKey same ▸ satisfied
    · exact fun satisfied => List.mem_map_of_mem satisfied
  rw [List.filter_congr unbound] at values
  refine ⟨declared, _, bindings, made, generated, types, contribute, generates.each, factories, ?_, rfl,
    ?_⟩
  · have before : session.values = declared.map (·.value .declared) := by
      rw [gathers.values, Contribution.append_values, valueSlots, generatedValues]
      simp
    exact before ▸ values
  · intro key surfaced
    obtain ⟨read, unsatisfied⟩ := List.mem_filter.mp surfaced
    have free := QualifiedType.isUnbound_iff.mp ((unbound key read).trans unsatisfied)
    obtain ⟨ask, asked, rfl⟩ := List.mem_map.mp (List.mem_eraseDups.mp read)
    obtain ⟨type, _, built⟩ := plainWhole.asks ask asked
    rw [← Key.isAutoFactory_of_ofType built]
    by_contra auto
    have queued : ask.base.qualified ∈ (bindings ++ join generated).queue :=
      List.mem_map_of_mem (List.mem_filter.mpr ⟨asked, by simpa using auto⟩)
    exact free (Session.bound_of_gathers gathers empty queued)

theorem values_joinery : joinery.Plain ∧ ∃ plan, joinery.compile = .ok plan ∧
    plan.values.map (·.identifier) = ["clock", "wood"] ∧
    ∃ declared surfaced : List DirectKey, declared.map (·.qualified) = [.plain (.named "Clock")] ∧
      plan.values = declared.map (·.value .declared) ++ surfaced.map (·.value .implicit) ∧
      ∀ key ∈ surfaced, key.qualifiers.isAutoFactory = false := by
  obtain ⟨plan, compiled, identifiers, _⟩ := compile_joinery
  obtain ⟨declared, surfaced, _, _, _, types, _, _, _, values, _, direct⟩ :=
    values_of_compile joinery_plain compiled
  exact ⟨joinery_plain, plan, compiled, identifiers, declared, surfaced, types, values, direct⟩

/-- Draining ends whatever is declared. Among plain names, the factories of a compiled plan are the
least set that holds the declared interfaces and the factories that are read by a binding or by
another one of them, apart from what is satisfied otherwise. Each key has one, and they come in the
order in which their keys are queued first. -/
theorem factories_of_compile (builder : Builder) :
    (WellFounded fun next session => Session.Round builder.catalog session next) ∧
    (∀ session : Session, session.Ends builder.catalog (session.drain builder.catalog)) ∧
    (builder.Plain → ∀ plan, builder.compile = .ok plan →
      ∃ (bindings : Contribution) (made : List QualifiedType) (generated : List Contribution),
        builder.declarations.Contribute builder.catalog bindings ∧
        List.Forall₂ (OfFactory builder.catalog) made generated ∧
        plan.factories = (join generated).factories ∧
        plan.factories.map (·.descriptor) = made.map (·.descriptor) ∧
        (plan.factories.map (·.descriptor)).Nodup ∧
        (∀ interface, interface ∈ made ↔ builder.catalog.Generated
          (builder.declarations.factories ++ bindings.queue) bindings.bound interface) ∧
        made = ((builder.declarations.factories ++ bindings.queue ++ (join generated).queue).filter
          (·.isUnbound bindings.bound)).eraseDups) := by
  refine ⟨Session.wellFounded_round _, Session.ends_drain _, fun plain plan compiled => ?_⟩
  obtain ⟨bindings, made, generated, bound, session, contribute, start, generates, _, plainMade, _, _,
    factories, _⟩ := gathers_of_compile plain compiled
  have descriptors : plan.factories.map (·.descriptor) = made.map (·.descriptor) :=
    factories ▸ (slots_of_factories generates.each).1
  have boundBindings : bound.bound = bindings.bound := start.bound
  have queued : bound.pending.filter (·.isUnbound bindings.bound) =
      (builder.declarations.factories ++ bindings.queue).filter (·.isUnbound bindings.bound) :=
    start.pending bindings.bound (boundBindings ▸ List.Subset.refl _)
  refine ⟨bindings, made, generated, contribute, generates.each, factories, descriptors, ?_, ?_, ?_⟩
  · rw [descriptors]
    have distinct : made.Nodup := generates.order ▸ nodup_eraseDups _
    exact distinct.map_on fun a memberA b memberB =>
      QualifiedType.descriptor_inj (plainMade a memberA) (plainMade b memberB)
  · intro interface
    constructor
    · intro member
      have least := generates.least interface member
      rw [boundBindings] at least
      exact least.of_filter_eq queued
    · intro least
      refine generates.complete ?_
      rw [boundBindings]
      exact least.of_filter_eq queued.symm
  · rw [generates.order, boundBindings, List.filter_append, queued, ← List.filter_append]

theorem factories_joinery : joinery.Plain ∧ ∃ plan, joinery.compile = .ok plan ∧
    plan.factories.map (·.descriptor) = ["@AutoFactory Doors"] ∧
    ∃ (bindings : Contribution) (made : List QualifiedType),
      joinery.declarations.Contribute joinery.catalog bindings ∧
      plan.factories.map (·.descriptor) = made.map (·.descriptor) ∧
      ∀ interface, interface ∈ made ↔
        joinery.catalog.Generated ([] ++ bindings.queue) bindings.bound interface := by
  obtain ⟨plan, compiled, _, descriptors⟩ := compile_joinery
  obtain ⟨bindings, made, _, contribute, _, _, same, _, least, _⟩ :=
    (factories_of_compile joinery).2.2 joinery_plain plan compiled
  exact ⟨joinery_plain, plan, compiled, descriptors, bindings, made, contribute, same, least⟩

end Builder

end Wiring
