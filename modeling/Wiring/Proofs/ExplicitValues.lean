import Wiring.Proofs.Compilation.Demands
import Wiring.Proofs.Compilation.Reordering
import Wiring.Proofs.PlannedSlots

/-! # Declaring every value

A key that is needed and that nothing satisfies becomes a value to supply, unless values have to be
declared. This is asked once everything has been resolved, so the requirement changes no plan: it lets
those pass in which every value has been declared. Any other it refuses for the first value that has
not been, and it names who needs this value first.

Main statement: `Builder.compile_requiring`.
-/

namespace Wiring

/-- The builder, as one that requires values to be declared or does not. -/
def Builder.requiring (builder : Builder) (explicitValues : Bool) : Builder :=
  { builder with explicitValues }

section Surfacing

/-! ## The first value that is not declared -/

variable {session : Session} {entries : List Demand} {key : DirectKey} {binding : String}

/-- The first demand that is not bound is the first one for its key. -/
theorem find?_of_first {bound : List String}
    (first : entries.find? (fun entry => decide (entry.1.descriptor ∉ bound)) = some (key, binding)) :
    Demand.find? entries key.descriptor = some (key, binding) := by
  obtain ⟨unbound, before, after, rfl, others⟩ := List.find?_eq_some_iff_append.mp first
  refine List.find?_eq_some_iff_append.mpr ⟨by simp, before, after, rfl, fun entry member => ?_⟩
  have known := others entry member
  simp only [Bool.not_eq_eq_eq_not, Bool.not_true, decide_eq_false_iff_not, not_not,
    decide_eq_true_eq] at known unbound ⊢
  exact fun same => unbound (same ▸ known)

/-- Values that are not declared are refused at the first demand that is not bound. -/
theorem Session.foldlM_addImplicit_refuses
    (first : entries.find? (fun entry => decide (entry.1.descriptor ∉ session.bound)) =
      some (key, binding)) :
    entries.foldlM (addImplicit true) session = .error (.notRegistered key.descriptor (some binding)
      (Suggestion.similar key.descriptor session.bound suggestionLimit)) := by
  induction entries with
  | nil => cases first
  | cons entry rest ih =>
    by_cases known : entry.1.descriptor ∈ session.bound
    · rw [List.find?_cons_of_neg (by simpa using known)] at first
      have passed : session.addImplicit true entry = .ok session := by
        rw [addImplicit]
        simp [isSatisfied_iff.mpr known]
      rw [List.foldlM_cons, passed]
      exact ih first
    · rw [List.find?_cons_of_pos (by simpa using known)] at first
      cases first
      have unsatisfied : session.isSatisfied key = false := isSatisfied_eq_false_iff.mpr known
      rw [List.foldlM_cons, addImplicit]
      simp [unsatisfied, bind, Except.bind]

/-- Behind declared values, the first one that is not declared stands for the first demand that is not
bound. -/
theorem first_implicit {value : ValueSlot} {values : List ValueSlot} {bound : List String}
    (declared : ∀ value ∈ values, value.origin = .declared)
    (first : (values ++ Session.implicits bound (entries.map (·.1))).find? (·.origin = .implicit) =
      some value) :
    ∃ key binding, value = key.value .implicit ∧
      entries.find? (fun entry => decide (entry.1.descriptor ∉ bound)) = some (key, binding) := by
  have none : values.find? (·.origin = .implicit) = none :=
    List.find?_eq_none.mpr fun value member => by simp [declared value member]
  rw [List.find?_append, none, Option.none_or, Session.implicits, List.filter_map, List.map_map,
    List.find?_map] at first
  obtain ⟨entry, found, rfl⟩ := Option.map_eq_some_iff.mp first
  rw [List.find?_filter] at found
  exact ⟨entry.1, entry.2, rfl, by simpa [DirectKey.value, Function.comp_def] using found⟩

end Surfacing

namespace Builder

variable {builder : Builder} {plan : Plan}

/-- A plan is that of the resolved session, with a value for each needed key that is not bound. -/
theorem compile_eq_ok : builder.compile = .ok plan ↔
    ∃ session, builder.declarations.resolve builder.catalog = .ok session ∧
      (builder.explicitValues = true →
        ∀ entry ∈ session.required, entry.1.descriptor ∈ session.bound) ∧
      plan = (session ++ ({ values := Session.implicits session.bound (session.required.map (·.1)) } :
        Session)).plan builder.package builder.scopeName ∧ plan.check = .ok () := by
  rw [compile_iff_surface]
  constructor
  · rintro ⟨session, surfaced, resolved, surface, rfl, checked⟩
    obtain ⟨explicit, rfl⟩ := Session.foldlM_addImplicit.mp surface
    exact ⟨session, resolved, explicit, rfl, checked⟩
  · rintro ⟨session, resolved, explicit, rfl, checked⟩
    exact ⟨session, _, resolved, Session.foldlM_addImplicit.mpr ⟨explicit, rfl⟩, rfl, checked⟩

/-- With the requirement, the first demand that is not bound is refused. -/
theorem compile_refuses {session : Session} {key : DirectKey} {binding : String}
    (resolved : builder.declarations.resolve builder.catalog = .ok session)
    (first : session.required.find? (fun entry => decide (entry.1.descriptor ∉ session.bound)) =
      some (key, binding)) :
    (builder.requiring true).compile = .error (.notRegistered key.descriptor (some binding)
      (Suggestion.similar key.descriptor session.bound Session.suggestionLimit)) := by
  have resolved : (builder.requiring true).declarations.resolve (builder.requiring true).catalog =
      .ok session := resolved
  have refused : session.surface (builder.requiring true).explicitValues = .error _ :=
    Session.foldlM_addImplicit_refuses first
  rw [compile, resolved]
  change (session.surface (builder.requiring true).explicitValues >>= _) = _
  rw [refused]
  rfl

/-- To require that values are declared is a filter: a plan all of whose values are declared passes as
it is, any other is refused for its first value that is not declared, with the binding that demands
this value first, and no plan passes that is not compiled without the requirement. -/
theorem compile_requiring (builder : Builder) :
    (∀ plan, (builder.requiring false).compile = .ok plan →
      (∀ value ∈ plan.values, value.origin ≠ .implicit) →
      (builder.requiring true).compile = .ok plan) ∧
    (∀ plan value, (builder.requiring false).compile = .ok plan →
      plan.values.find? (·.origin = .implicit) = some value →
      ∃ log key binding suggestions,
        Demand.ofPlan builder.catalog builder.declarations plan = .ok log ∧
        value = key.value .implicit ∧ Demand.find? log key.descriptor = some (key, binding) ∧
        (builder.requiring true).compile =
          .error (.notRegistered key.descriptor (some binding) suggestions)) ∧
    ∀ plan, (builder.requiring true).compile = .ok plan →
      (builder.requiring false).compile = .ok plan := by
  refine ⟨fun plan compiled declared => ?_, fun plan value compiled first => ?_,
    fun plan compiled => ?_⟩
  · obtain ⟨session, resolved, _, rfl, checked⟩ := compile_eq_ok.mp compiled
    refine compile_eq_ok.mpr ⟨session, resolved, fun _ entry member => ?_, rfl, checked⟩
    -- A needed key that is not bound would be a value that is not declared.
    by_contra unbound
    refine declared (entry.1.value .implicit) (List.mem_append_right _ ?_) rfl
    refine List.mem_map_of_mem (List.mem_filter.mpr ⟨List.mem_map_of_mem member, ?_⟩)
    exact decide_eq_true unbound
  · obtain ⟨session, resolved, _, rfl, _⟩ := compile_eq_ok.mp compiled
    obtain ⟨declared, generated, demands, more, firsts, origins⟩ := Session.notes_resolve resolved
    obtain ⟨key, binding, rfl, unbound⟩ := first_implicit origins first
    have generates := congrArg (Demand.gather (Demand.ofFactory builder.catalog))
      (List.append_nil session.factories)
    refine ⟨declared ++ generated, key, binding, _, bind_eq_ok.mpr ⟨declared, demands,
      bind_eq_ok.mpr ⟨generated, generates.trans more, rfl⟩⟩, rfl, ?_, compile_refuses resolved unbound⟩
    rw [← firsts, find?_of_first unbound]
  · obtain ⟨session, resolved, _, same, checked⟩ := compile_eq_ok.mp compiled
    exact compile_eq_ok.mpr ⟨session, resolved, fun explicit => absurd explicit Bool.false_ne_true,
      same, checked⟩

/-- A joiner wants doors to be made, and only then is wood needed. -/
theorem demands_joinery : ∃ plan value log, (joinery.requiring false).compile = .ok plan ∧
    plan.values.find? (·.origin = .implicit) = some value ∧ value.descriptor = "Wood" ∧
    Demand.ofPlan joinery.catalog joinery.declarations plan = .ok log ∧
    log.map (fun demand => (demand.1.descriptor, demand.2)) =
      [("Clock", "Joiner"), ("@AutoFactory Doors", "Joiner"), ("Wood", "Door constructor"),
        ("@AutoFactory Doors", "Door constructor")] :=
  ⟨_, _, _, by cbv, rfl, rfl, rfl, by decide⟩

/-- The joiner's yard with wood in it. -/
def stockedJoinery : Builder :=
  { joinery with
    declarations := { joinery.declarations with
      values := [.plain (.named "Clock"), .plain (.named "Wood")] } }

private theorem compile_stockedJoinery : ∃ plan, (stockedJoinery.requiring false).compile = .ok plan ∧
    ∀ value ∈ plan.values, value.origin ≠ .implicit :=
  ⟨_, by cbv, by decide⟩

theorem requiring_joinery :
    (∃ suggestions, (joinery.requiring true).compile =
      .error (.notRegistered "Wood" (some "Door constructor") suggestions)) ∧
    ∃ plan, (stockedJoinery.requiring false).compile = .ok plan ∧
      (stockedJoinery.requiring true).compile = .ok plan := by
  constructor
  · obtain ⟨plan, value, log, compiled, first, wood, demands, listed⟩ := demands_joinery
    obtain ⟨log', key, binding, suggestions, demands', rfl, found, refused⟩ :=
      (compile_requiring joinery).2.1 plan value compiled first
    obtain rfl : log = log' := Except.ok.inj (demands.symm.trans demands')
    have wood : key.descriptor = "Wood" := wood
    rw [wood] at found refused
    have named : (log.map fun demand => (demand.1.descriptor, demand.2)).find? (·.1 = "Wood") =
        some (key.descriptor, binding) := by
      rw [List.find?_map]
      exact congrArg _ found
    rw [listed] at named
    obtain rfl : "Door constructor" = binding := congrArg Prod.snd (Option.some.inj named)
    exact ⟨suggestions, refused⟩
  · obtain ⟨plan, compiled, declared⟩ := compile_stockedJoinery
    exact ⟨plan, compiled, (compile_requiring stockedJoinery).1 plan compiled declared⟩

end Builder

end Wiring
