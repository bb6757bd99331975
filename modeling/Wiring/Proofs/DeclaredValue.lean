import Wiring.Proofs.Compilation.Bookkeeping
import Wiring.Proofs.ExplicitValues

/-! # Declaring a surfaced value

A key that is needed and that nothing satisfies surfaces as a value. To declare this value changes
nothing else. All that the compilation does until then it does with the key satisfied as well: it neither
satisfies the key nor queues a factory for it, and apart from that it does not ask about the key. In the
end the key is left out where it surfaced, and its slot stands behind the declared values.

Main statement: `Builder.compile_declaring`.
-/

namespace Wiring

namespace Session

variable {catalog : Catalog} {key : DirectKey} {session declared next added : Session}
  {interface : QualifiedType} {step : Session → Except CompileError Session}

section Comparing

/-! ## Sessions with and without the value -/

/-- Nothing satisfies the key, and no factory for it is queued. -/
structure Lacks (key : DirectKey) (session : Session) : Prop where
  unbound : key.descriptor ∉ session.bound
  unqueued : ∀ item ∈ session.pending, item.descriptor ≠ key.descriptor

/-- The second session is the first one with a declared value for the key, the last of its values. -/
structure Declares (key : DirectKey) (session declared : Session) : Prop where
  bound : ∀ text, text ∈ declared.bound ↔ text ∈ session.bound ∨ text = key.descriptor
  values : declared.values = session.values ++ [key.value .declared]
  required : declared.required = session.required
  pending : declared.pending = session.pending
  aliases : declared.aliases = session.aliases
  cached : declared.cached = session.cached
  factories : declared.factories = session.factories
  injectors : declared.injectors = session.injectors

theorem Lacks.of_append (lacks : Lacks key (session ++ added)) : Lacks key session where
  unbound bound := lacks.unbound (by simp [bound])
  unqueued item member := lacks.unqueued item (by simp [member])

theorem Declares.append (declares : Declares key session declared) (values : added.values = []) :
    Declares key (session ++ added) (declared ++ added) where
  bound text := by simp [declares.bound text, or_right_comm]
  values := by simp [declares.values, values]
  required := by simp [declares.required]
  pending := by simp [declares.pending]
  aliases := by simp [declares.aliases]
  cached := by simp [declares.cached]
  factories := by simp [declares.factories]
  injectors := by simp [declares.injectors]

private theorem Declares.dequeued (declares : Declares key session declared) :
    Declares key session.dequeued declared.dequeued :=
  { declares with pending := congrArg List.tail declares.pending }

end Comparing

section Steps

/-! ## Steps -/

/-- What the step adds to a session, it adds to the session with the value as well, unless it satisfies
the key or queues a factory for it. It adds no value. -/
def Unaware (key : DirectKey) (step : Session → Except CompileError Session) : Prop :=
  ∀ session next, step session = .ok next → ∃ added, next = session ++ added ∧ added.values = [] ∧
    (Lacks key next → ∀ declared, Declares key session declared → step declared = .ok (declared ++ added))

private theorem unaware_satisfy (other : DirectKey) (kind : BindingKind) :
    Unaware key (·.satisfy other kind) := by
  intro session next done
  obtain ⟨fresh, rfl⟩ := satisfy_adds done
  refine ⟨_, rfl, rfl, fun lacks declared declares => ?_⟩
  have different : other.descriptor ≠ key.descriptor := fun same =>
    lacks.unbound (by simp [← same, bound])
  have fresh : other.descriptor ∉ declared.bound := fun bound =>
    ((declares.bound _).mp bound).elim fresh different
  exact satisfy_of_not_mem fresh

/-- A step that always succeeds. -/
theorem Unaware.of_total {add : Session → Session}
    (adds : ∀ session, ∃ added, add session = session ++ added ∧ added.values = [] ∧
      (Lacks key (add session) → ∀ declared, Declares key session declared →
        add declared = declared ++ added)) : Unaware key fun session => .ok (add session) := by
  rintro session _ ⟨⟩
  obtain ⟨added, same, values, again⟩ := adds session
  exact ⟨added, same, values, fun lacks declared declares => congrArg _ (again lacks declared declares)⟩

private theorem unaware_note (requirer : String) (other : DirectKey) :
    Unaware key fun session => .ok (session.note requirer other) := by
  refine .of_total fun session => ?_
  by_cases known : other.descriptor ∈ session.needed
  · refine ⟨{}, (note_of_mem known).trans (append_empty session).symm, rfl, fun _ declared declares => ?_⟩
    refine (note_of_mem ?_).trans (append_empty declared).symm
    rwa [needed, declares.required]
  · refine ⟨_, note_of_not_mem known, rfl, fun _ declared declares => note_of_not_mem ?_⟩
    rwa [needed, declares.required]

/-- A factory is queued in both sessions or in none, since it is not the key that asks for it. -/
theorem unaware_enqueue (asked : Key) : Unaware key fun session => .ok (session.enqueue asked) := by
  refine .of_total fun session => ⟨_, enqueue_eq session asked, rfl, fun lacks declared declares => ?_⟩
  -- Nothing satisfies the key, so a factory for it would be queued here.
  have different : asked.isAutoFactory = true → asked.base.descriptor ≠ key.descriptor := by
    intro auto same
    have unbound : asked.base.descriptor ∉ session.bound := by
      have lacks := lacks.unbound
      simpa [enqueue_eq, bound, same] using lacks
    refine lacks.unqueued asked.base.qualified ?_ same
    simp [enqueue_eq, auto, unbound]
  rw [enqueue_eq]
  congr 3
  refine List.filter_congr (List.forall_mem_singleton.mpr ?_)
  cases auto : asked.isAutoFactory with
  | false => rfl
  | true => simp [declares.bound, different auto]

private theorem unaware_addCached (other : DirectKey) (recipe : Recipe) (arguments : List Argument)
    (closeOnTeardown : Bool) :
    Unaware key fun session => .ok (session.addCached other recipe arguments closeOnTeardown) := by
  refine .of_total fun session => ⟨_, addCached_adds .., rfl, fun _ declared declares => ?_⟩
  rw [addCached_adds, declares.cached]

theorem Assembled.unaware (assembled : Assembled step) (key : DirectKey) : Unaware key step := by
  induction assembled with
  | done =>
    exact .of_total fun session =>
      ⟨{}, (append_empty session).symm, rfl, fun _ declared _ => (append_empty declared).symm⟩
  | throw error => nofun
  | satisfy other kind => exact unaware_satisfy other kind
  | note requirer other => exact unaware_note requirer other
  | enqueue asked => exact unaware_enqueue asked
  | addCached other recipe arguments closeOnTeardown =>
    exact unaware_addCached other recipe arguments closeOnTeardown
  | addSlots aliases factories injectors =>
    exact .of_total fun _ => ⟨_, rfl, rfl, fun _ _ _ => rfl⟩
  | andThen _ _ first second =>
    intro session next done
    obtain ⟨middle, begun, ended⟩ := bind_eq_ok.mp done
    obtain ⟨added, rfl, values, begins⟩ := first session middle begun
    obtain ⟨further, rfl, values', ends⟩ := second _ next ended
    refine ⟨added ++ further, append_assoc .., by simp [values, values'], fun lacks declared declares => ?_⟩
    -- What is lacking in the end is lacking in between, since steps only add.
    refine bind_eq_ok.mpr ⟨_, begins lacks.of_append declared declares, ?_⟩
    rw [ends lacks _ (declares.append values), append_assoc]

end Steps

section Draining

/-! ## The queue of factories -/

private theorem bound_of_bindFactory (done : session.bindFactory catalog interface = .ok next) :
    interface.descriptor ∈ next.bound := by
  rcases bindFactory_eq_ok done with ⟨rfl, bound⟩ | ⟨_, bound, _⟩
  · exact bound
  · exact bound ▸ List.mem_append_right _ List.mem_cons_self

/-- An interface is skipped in both sessions or implemented in both. -/
theorem bindFactory_declares (done : session.bindFactory catalog interface = .ok next)
    (lacks : Lacks key next) (declares : Declares key session declared) :
    ∃ next', declared.bindFactory catalog interface = .ok next' ∧ Declares key next next' := by
  by_cases bound : interface.descriptor ∈ session.bound
  · have notLazy := notLazy_of_bindFactory done
    cases done.symm.trans (bindFactory_of_mem notLazy bound)
    exact ⟨declared, bindFactory_of_mem notLazy ((declares.bound _).mpr (.inl bound)), declares⟩
  · have different : interface.descriptor ≠ key.descriptor := fun same =>
      lacks.unbound (same ▸ bound_of_bindFactory done)
    have unbound : interface.descriptor ∉ declared.bound := fun known =>
      ((declares.bound _).mp known).elim bound different
    rw [bindFactory_of_not_mem bound] at done
    obtain ⟨added, rfl, values, again⟩ := (assembled_implement catalog interface).unaware key session next done
    rw [bindFactory_of_not_mem unbound]
    exact ⟨_, again lacks declared declares, declares.append values⟩

/-- Whatever is queued gets bound, so a key that stays unbound was not queued. -/
theorem lacks_of_drain (done : session.drain catalog = .ok next)
    (unbound : key.descriptor ∉ next.bound) : Lacks key session := by
  obtain ⟨generated, plans, covers⟩ := plans_drain done
  exact ⟨fun bound => unbound (plans.bound_subset bound),
    fun item member same => unbound (same ▸ covers item member)⟩

private theorem drain_of_nil (empty : session.pending = []) : session.drain catalog = .ok session := by
  rw [drain]
  split
  next => rfl
  next queue => cases empty.symm.trans queue

private theorem drain_of_cons {rest : List QualifiedType} (queue : session.pending = interface :: rest)
    (done : session.dequeued.bindFactory catalog interface = .ok next) :
    session.drain catalog = next.drain catalog := by
  rw [drain]
  split
  next empty => cases queue.symm.trans empty
  next queue' =>
    cases queue.symm.trans queue'
    split
    next failed => cases done.symm.trans failed
    next done' =>
      cases done.symm.trans done'
      rfl

private theorem drain_declares (done : session.drain catalog = .ok next)
    (unbound : key.descriptor ∉ next.bound)
    (declares : Declares key session declared) :
    ∃ next', declared.drain catalog = .ok next' ∧ Declares key next next' := by
  fun_induction drain catalog session generalizing declared with
  | case1 session empty =>
    cases done
    exact ⟨declared, drain_of_nil (declares.pending.trans empty), declares⟩
  | case2 session interface rest queue error failed => cases done
  | case3 session interface rest queue middle made ih =>
    obtain ⟨middle', made', declares'⟩ :=
      bindFactory_declares made (lacks_of_drain done unbound) declares.dequeued
    obtain ⟨next', done', result⟩ := ih done declares'
    exact ⟨next', (drain_of_cons (declares.pending.trans queue) made').trans done', result⟩

end Draining

end Session

section Resolving

/-! ## Resolving the declarations -/

open Session

variable {catalog : Catalog} {declarations : Declarations} {type : QualifiedType} {key : DirectKey}
  {session : Session}

def Declarations.withValue (declarations : Declarations) (type : QualifiedType) : Declarations :=
  { declarations with values := declarations.values ++ [type] }

private theorem Session.seedValue_declares (built : DirectKey.ofType type = .ok key)
    (unbound : key.descriptor ∉ session.bound) :
    ∃ declared, session.seedValue type = .ok declared ∧ Declares key session declared := by
  refine ⟨session ++ { satisfied := [(key, .value)], values := [key.value .declared] }, ?_, ?_⟩
  · refine bind_eq_ok.mpr ⟨key, built, bind_eq_ok.mpr ⟨_, satisfy_of_not_mem unbound, ?_⟩⟩
    rw [addValue_adds, append_assoc]
    rfl
  · constructor <;> simp [bound]

private theorem Declarations.bind_declares (built : DirectKey.ofType type = .ok key)
    (done : declarations.bind catalog = .ok session) (lacks : Lacks key session) :
    ∃ session', (declarations.withValue type).bind catalog = .ok session' ∧
      Declares key session session' := by
  rw [bind_eq_run, run, tasks_eq, List.foldlM_append] at done
  obtain ⟨valued, values, bindings⟩ := bind_eq_ok.mp done
  obtain ⟨added, rfl, plain, again⟩ :=
    (Assembled.foldlM fun task => assembled_of_mem_bindings).unaware key valued session bindings
  obtain ⟨declared, declaring, declares⟩ := seedValue_declares built lacks.of_append.unbound
  refine ⟨declared ++ added, ?_, declares.append plain⟩
  have tasks : (declarations.withValue type).tasks catalog =
      declarations.values.map (fun type => (·.seedValue type)) ++
        (·.seedValue type) :: declarations.bindings catalog := by
    rw [tasks_eq, withValue, List.map_append, List.append_assoc]
    rfl
  rw [bind_eq_run, run, tasks, List.foldlM_append]
  refine bind_eq_ok.mpr ⟨valued, values, foldlM_cons_eq_ok.mpr ⟨declared, declaring, ?_⟩⟩
  exact again lacks declared declares

private theorem Declarations.resolve_declares (built : DirectKey.ofType type = .ok key)
    (done : declarations.resolve catalog = .ok session) (unbound : key.descriptor ∉ session.bound) :
    ∃ session', (declarations.withValue type).resolve catalog = .ok session' ∧
      Declares key session session' := by
  obtain ⟨bound, bind, drain⟩ := bind_eq_ok.mp done
  obtain ⟨bound', bind', declares⟩ := bind_declares built bind (lacks_of_drain drain unbound)
  obtain ⟨session', drain', result⟩ := drain_declares drain unbound declares
  exact ⟨session', bind_eq_ok.mpr ⟨bound', bind', drain'⟩, result⟩

end Resolving

section Surfacing

/-! ## What surfaces -/

variable {keys : List DirectKey} {key : DirectKey} {bound bound' : List String}

private theorem Session.origin_of_mem_implicits {slot : ValueSlot} (member : slot ∈ implicits bound keys) :
    slot.origin = .implicit := by
  obtain ⟨_, _, rfl⟩ := List.mem_map.mp member
  rfl

/-- Behind declared values, those that are not declared have surfaced. -/
theorem Session.mem_implicits_of_origin {slot : ValueSlot} {values : List ValueSlot}
    (declared : ∀ value ∈ values, value.origin = .declared)
    (member : slot ∈ values ++ implicits bound keys) (origin : slot.origin = .implicit) :
    slot ∈ implicits bound keys :=
  (List.mem_append.mp member).resolve_left fun listed => nomatch (declared slot listed).symm.trans origin

/-- A key whose value surfaces is not bound. -/
theorem Session.unbound_of_mem_implicits (surfaced : key.value .implicit ∈ implicits bound keys) :
    key.descriptor ∉ bound := by
  obtain ⟨other, listed, same⟩ := List.mem_map.mp surfaced
  have text : other.descriptor = key.descriptor := congrArg ValueSlot.descriptor same
  exact text ▸ of_decide_eq_true (List.mem_filter.mp listed).2

/-- Where the key is bound in addition, its value is left out and nothing else. -/
theorem Session.implicits_without (distinct : (keys.map (·.descriptor)).Nodup)
    (grown : ∀ text, text ∈ bound' ↔ text ∈ bound ∨ text = key.descriptor)
    (surfaced : key.value .implicit ∈ implicits bound keys) :
    ∃ before after, implicits bound keys = before ++ key.value .implicit :: after ∧
      implicits bound' keys = before ++ after := by
  have left : implicits bound' keys =
      (implicits bound keys).filter (·.descriptor ≠ key.descriptor) := by
    rw [implicits, implicits, List.filter_map, List.filter_filter]
    refine congrArg _ (List.filter_congr fun other _ => ?_)
    simp [grown, DirectKey.value, and_comm]
  have texts : ((implicits bound keys).map (·.descriptor)).Nodup := by
    rw [implicits, List.map_map]
    exact distinct.sublist (List.filter_sublist.map _)
  obtain ⟨before, after, split⟩ := List.append_of_mem surfaced
  rw [split, List.map_append, List.map_cons, List.nodup_middle, List.nodup_cons, ← List.map_append]
    at texts
  have others : ∀ value ∈ before ++ after, decide (value.descriptor ≠ key.descriptor) = true :=
    fun value member => decide_eq_true fun same => texts.1 (List.mem_map.mpr ⟨value, member, same⟩)
  refine ⟨before, after, split, ?_⟩
  rw [left, split, List.filter_append, List.filter_cons_of_neg (by simp [DirectKey.value]),
    ← List.filter_append]
  exact List.filter_eq_self.mpr others

end Surfacing

section Checking

/-! ## What is checked -/

namespace Plan

variable {plan : Plan} {values : List ValueSlot}

/-- Value slots read nothing, so their order does not matter to the check, nor does anything else about
them but their identifiers. -/
theorem check_withValues
    (same : (plan.values.map (·.identifier)).Perm (values.map (·.identifier)))
    (checked : plan.check = .ok ()) : { plan with values }.check = .ok () := by
  obtain ⟨nodup, acyclic⟩ := check_eq_ok.mp checked
  have identifiers : plan.identifiers.Perm { plan with values }.identifiers := by
    simp only [Plan.identifiers, slots, List.map_append, List.map_map]
    exact same.append_right _ |>.append_right _ |>.append_right _ |>.append_right _
  have eager {reader read : String} (reads : { plan with values }.Eager reader read) :
      plan.Eager reader read := by
    obtain ⟨slot, listed, same, member⟩ :=
      (eager_iff_of_nodup (identifiers.nodup_iff.mp nodup)).mp reads
    refine (eager_iff_of_nodup nodup).mpr ⟨slot, ?_, same, member⟩
    cases slot with
    | value slot => cases member
    | _ => simpa [slots] using listed
  exact check_eq_ok.mpr ⟨identifiers.nodup_iff.mp nodup, fun identifier cycle =>
    acyclic identifier (Relation.TransGen.mono (fun _ _ => eager) _ _ cycle)⟩

end Plan

end Checking

namespace Builder

variable {builder : Builder} {plan : Plan} {type : QualifiedType} {key : DirectKey}

/-- Among plain names a surfaced value is that of the key with its descriptor. -/
theorem value_of_surfaced (compiled : builder.compile = .ok plan) (built : DirectKey.ofType type = .ok key)
    (plain : builder.Plain) (plainType : type.Plain) {slot : ValueSlot} (member : slot ∈ plan.values)
    (origin : slot.origin = .implicit) (text : slot.descriptor = key.descriptor) :
    slot = key.value .implicit := by
  obtain ⟨session, resolved, _, rfl, _⟩ := compile_eq_ok.mp compiled
  obtain ⟨_, _, _, _, _, declared⟩ := Session.notes_resolve resolved
  obtain ⟨other, unbound, rfl⟩ :=
    List.mem_map.mp (Session.mem_implicits_of_origin declared member origin)
  obtain ⟨entry, required, rfl⟩ := List.mem_map.mp (List.mem_of_mem_filter unbound)
  have plainEntry := (Session.sound_resolve plain resolved).1.required entry required
  have plainKey : key.qualified.Plain := (DirectKey.qualified_of_ofType built).symm ▸ plainType
  rw [DirectKey.descriptor_inj plainEntry plainKey text]

/-- With the surfaced value declared, its slot stands behind the declared ones. -/
theorem compile_value (compiled : builder.compile = .ok plan) (built : DirectKey.ofType type = .ok key)
    (member : key.value .implicit ∈ plan.values) : ∃ declared before after,
      plan.values = declared ++ before ++ key.value .implicit :: after ∧
      (∀ value ∈ declared, value.origin = .declared) ∧
      (∀ value ∈ before ++ after, value.origin = .implicit) ∧
      (builder.value type).compile =
        .ok { plan with values := declared ++ [key.value .declared] ++ before ++ after } := by
  obtain ⟨session, resolved, explicit, rfl, checked⟩ := compile_eq_ok.mp compiled
  obtain ⟨_, _, _, _, _, origins⟩ := Session.notes_resolve resolved
  have surfaced := Session.mem_implicits_of_origin origins member rfl
  obtain ⟨session', resolved', declares⟩ :=
    Declarations.resolve_declares built resolved (Session.unbound_of_mem_implicits surfaced)
  have distinct : ((session.required.map (·.1)).map (·.descriptor)).Nodup := by
    rw [List.map_map]
    exact (Session.tidy_resolve resolved).nodup_needed
  obtain ⟨before, after, split, left⟩ := Session.implicits_without distinct declares.bound surfaced
  have values : session.values ++ Session.implicits session.bound (session.required.map (·.1)) =
      session.values ++ before ++ key.value .implicit :: after := by
    rw [split, List.append_assoc]
  refine ⟨session.values, before, after, values, origins, fun value listed => ?_, ?_⟩
  · have listed : value ∈ Session.implicits session.bound (session.required.map (·.1)) := by
      rw [split]
      exact List.mem_append.mpr ((List.mem_append.mp listed).imp_right (List.mem_cons_of_mem _))
    exact Session.origin_of_mem_implicits listed
  refine compile_eq_ok.mpr ⟨session', resolved', fun required entry listed => ?_, ?_, ?_⟩
  · rw [declares.required] at listed
    exact (declares.bound _).mpr (.inl (explicit required entry listed))
  · rw [declares.required, left]
    simp [Session.plan, declares.values, declares.aliases, declares.cached, declares.factories,
      declares.injectors, value, declare]
  · refine Plan.check_withValues ?_ checked
    change ((session.values ++ Session.implicits session.bound _).map (·.identifier)).Perm _
    rw [values]
    simp only [List.map_append, List.map_cons, List.append_assoc, List.cons_append, List.nil_append]
    exact List.perm_middle.append_left _

/-- Declaring a surfaced value moves its slot behind the declared values, where it counts as declared, and
changes nothing else in the plan. Among plain names the slot is known by its descriptor. -/
theorem compile_declaring (compiled : builder.compile = .ok plan)
    (built : DirectKey.ofType type = .ok key) :
    (∀ slot ∈ plan.values, builder.Plain → type.Plain → slot.origin = .implicit →
      slot.descriptor = key.descriptor → slot = key.value .implicit) ∧
    (key.value .implicit ∈ plan.values → ∃ declared before after,
      plan.values = declared ++ before ++ key.value .implicit :: after ∧
      (∀ value ∈ declared, value.origin = .declared) ∧
      (∀ value ∈ before ++ after, value.origin = .implicit) ∧
      (builder.apply (.value type) >>= compile) =
        .ok { plan with values := declared ++ [key.value .declared] ++ before ++ after }) :=
  ⟨fun _ member plain plainType => value_of_surfaced compiled built plain plainType member,
    compile_value compiled built⟩

/-- A boat takes wood, glue and, later on, a rope. -/
def boatyard : Builder where
  catalog := .ofList [
    { name := "Boat"
      constructors := [{ params := [
        .plain (.named "Wood"), .plain (.named "Clock"), .plain (.named "Glue"),
        .plain (.lazy (.named "Rope"))] }] }]
  package := "demo"
  scopeName := "Boatyard"
  declarations := {
    values := [.plain (.named "Clock")]
    constructors := [.named "Boat"] }

private theorem compile_boatyard : ∃ plan, boatyard.compile = .ok plan ∧
    plan.values.map (·.descriptor) = ["Clock", "Wood", "Glue", "Rope"] ∧
    ∃ slot ∈ plan.values, slot.origin = .implicit ∧ slot.descriptor = "Glue" :=
  ⟨_, by cbv, by decide, by decide⟩

private theorem compile_boatyard_glue : ∃ plan,
    (boatyard.value (.plain (.named "Glue"))).compile = .ok plan ∧
    plan.values.map (·.descriptor) = ["Clock", "Glue", "Wood", "Rope"] :=
  ⟨_, by cbv, by decide⟩

theorem declaring_boatyard : boatyard.Plain ∧ (QualifiedType.plain (.named "Glue")).Plain ∧
    ∃ plan plan', boatyard.compile = .ok plan ∧
      plan.values.map (·.descriptor) = ["Clock", "Wood", "Glue", "Rope"] ∧
      (boatyard.apply (.value (.plain (.named "Glue"))) >>= compile) = .ok plan' ∧
      plan'.values.map (·.descriptor) = ["Clock", "Glue", "Wood", "Rope"] ∧
      { plan' with values := [] } = { plan with values := [] } := by
  have plain : boatyard.Plain := by decide +kernel
  have plainGlue : (QualifiedType.plain (.named "Glue")).Plain := by decide +kernel
  obtain ⟨plan, compiled, texts, slot, member, origin, text⟩ := compile_boatyard
  obtain ⟨plan', compiled', texts'⟩ := compile_boatyard_glue
  obtain ⟨key, built, named⟩ : ∃ key, DirectKey.ofType (.plain (.named "Glue")) = .ok key ∧
      key.descriptor = "Glue" := ⟨_, rfl, by decide⟩
  obtain ⟨found, declares⟩ := compile_declaring compiled built
  obtain rfl := found slot member plain plainGlue origin (text.trans named.symm)
  obtain ⟨_, _, _, _, _, _, again⟩ := declares member
  obtain rfl : plan' = _ := Except.ok.inj (compiled'.symm.trans again)
  exact ⟨plain, plainGlue, plan, _, compiled, texts, again, texts', rfl⟩

end Builder

end Wiring
