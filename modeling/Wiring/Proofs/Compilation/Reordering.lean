import Wiring.Proofs.Compilation.Draining
import Wiring.Proofs.EagerGraph

/-! # Reordered declarations

A compilation runs through the declarations kind by kind and each kind in order of declaration. The
bindings are local steps, so they may change places; what is drained afterwards depends on the set of
queued interfaces only, and what is surfaced on the set of needed keys. The checks of the finished
plan ask about its slots as a set as well. So declarations in another order compile to the same
slots, or to none at all.

Main statement: `Builder.compile_alike`.
-/

namespace Wiring

/-- The same is declared, each list in an order of its own. -/
structure Declarations.Alike (declared other : Declarations) : Prop where
  values : declared.values.Perm other.values
  constructors : declared.constructors.Perm other.constructors
  aliases : declared.aliases.Perm other.aliases
  providers : declared.providers.Perm other.providers
  factories : declared.factories.Perm other.factories
  injected : declared.injected.Perm other.injected

/-- The plans of one scope have the same slots, each list in an order of its own and slots that are
created once at any position. -/
structure Plan.Alike (plan other : Plan) : Prop where
  package : plan.package = other.package
  scopeName : plan.scopeName = other.scopeName
  values : plan.values.Perm other.values
  aliases : plan.aliases.Perm other.aliases
  cached : (plan.cached.map CachedSlot.unnumbered).Perm (other.cached.map CachedSlot.unnumbered)
  factories : plan.factories.Perm other.factories
  injectors : plan.injectors.Perm other.injectors

section Bindings

/-! ## Bindings change places -/

namespace Session

variable {session other next : Session} {step : Session → Except CompileError Session}
  {tasks tasks' : List (Session → Except CompileError Session)}

def run (tasks : List (Session → Except CompileError Session)) (session : Session) :
    Except CompileError Session :=
  tasks.foldlM (fun session task => task session) session

theorem Local.congr (isLocal : Local step) (similar : session.Similar other)
    (done : step session = .ok next) : ∃ next', step other = .ok next' ∧ next.Similar next' := by
  obtain ⟨added, adds, gains⟩ := (isLocal session).1 next done
  obtain ⟨next', done'⟩ :=
    (isLocal other).2 added adds (similar.bound.disjoint_left.mp gains.apart)
  obtain ⟨again, same, gains'⟩ := (isLocal other).1 next' done'
  obtain rfl : added = again := by simpa [adds] using same
  exact ⟨next', done', gains.similar.trans ((similar.append (.refl added)).trans gains'.similar.symm)⟩

/-- Two local steps that succeed one after the other succeed the other way round. -/
theorem Local.swap {first second : Session → Except CompileError Session} (local₁ : Local first)
    (local₂ : Local second) (done : (first session >>= second) = .ok next) :
    ∃ next', (second session >>= first) = .ok next' ∧ next.Similar next' := by
  obtain ⟨middle, begun, ended⟩ := bind_eq_ok.mp done
  obtain ⟨added, adds, gains⟩ := (local₁ session).1 middle begun
  obtain ⟨further, addsFurther, gains'⟩ := (local₂ middle).1 next ended
  obtain ⟨apart, apart'⟩ := gains.disjoint_left.mp gains'.apart
  obtain ⟨middle', begun'⟩ := (local₂ session).2 further addsFurther apart
  obtain ⟨again, same, gainsFurther⟩ := (local₂ session).1 middle' begun'
  obtain rfl : further = again := by simpa [addsFurther] using same
  obtain ⟨next', ended'⟩ := (local₁ middle').2 added adds
    (gainsFurther.disjoint_left.mpr ⟨gains.apart, List.disjoint_comm.mp apart'⟩)
  obtain ⟨again, same, gainsAdded⟩ := (local₁ middle').1 next' ended'
  obtain rfl : added = again := by simpa [adds] using same
  refine ⟨next', bind_eq_ok.mpr ⟨middle', begun', ended'⟩, ?_⟩
  have there := gains'.similar.trans (gains.similar.append (.refl further))
  have back := gainsAdded.similar.trans (gainsFurther.similar.append (.refl added))
  rw [append_assoc] at there back
  exact there.trans ((Similar.append (.refl session) (.append_comm added further)).trans back.symm)

/-- Local steps may be run in any order. -/
theorem run_perm (same : tasks.Perm tasks') (each : ∀ task ∈ tasks, Local task)
    (similar : session.Similar other) (done : run tasks session = .ok next) :
    ∃ next', run tasks' other = .ok next' ∧ next.Similar next' := by
  induction same generalizing session other next with
  | nil =>
    cases done
    exact ⟨other, rfl, similar⟩
  | cons task _ ih =>
    obtain ⟨middle, first, done⟩ := foldlM_cons_eq_ok.mp done
    obtain ⟨middle', first', similar⟩ := (each task List.mem_cons_self).congr similar first
    obtain ⟨next', done', similar⟩ :=
      ih (fun other later => each other (List.mem_cons_of_mem _ later)) similar done
    exact ⟨next', foldlM_cons_eq_ok.mpr ⟨middle', first', done'⟩, similar⟩
  | swap second first rest =>
    obtain ⟨localFirst, localSecond, localRest⟩ :
        Local first ∧ Local second ∧ Local (run rest) := by
      simp only [List.forall_mem_cons] at each
      exact ⟨each.1, each.2.1, .foldlM each.2.2⟩
    obtain ⟨middle, one, done⟩ := foldlM_cons_eq_ok.mp done
    obtain ⟨last, two, done⟩ := foldlM_cons_eq_ok.mp done
    obtain ⟨_, swapped, here⟩ := localFirst.swap localSecond (bind_eq_ok.mpr ⟨middle, one, two⟩)
    obtain ⟨last', swapped', there⟩ := (localSecond.andThen localFirst).congr similar swapped
    obtain ⟨middle', one', two'⟩ := bind_eq_ok.mp swapped'
    obtain ⟨next', done', similar⟩ := localRest.congr (here.trans there) done
    exact ⟨next', foldlM_cons_eq_ok.mpr ⟨middle', one', foldlM_cons_eq_ok.mpr ⟨last', two', done'⟩⟩,
      similar⟩
  | trans same _ ih ih' =>
    obtain ⟨middle, done, similar⟩ := ih each similar done
    obtain ⟨next', done, similar'⟩ :=
      ih' (fun task member => each task (same.mem_iff.mpr member)) (.refl _) done
    exact ⟨next', done, similar.trans similar'⟩

end Session

namespace Declarations

variable {declared other : Declarations} {catalog : Catalog} {session : Session}

/-- The steps that resolve everything that is declared. -/
def tasks (catalog : Catalog) (declared : Declarations) :
    List (Session → Except CompileError Session) :=
  [declared.values.map fun type => (·.seedValue type),
    declared.aliases.map fun declared => (·.seedAlias declared),
    declared.constructors.map fun type => (·.bindConstructor catalog type),
    declared.providers.map fun holder => (·.bindProvider catalog holder),
    declared.injected.map fun receiver => (·.bindInjectors catalog receiver),
    declared.aliases.map fun declared => (·.addAlias declared)].flatten

/-- Those that resolve anything but values. -/
def bindings (catalog : Catalog) (declared : Declarations) :
    List (Session → Except CompileError Session) :=
  { declared with values := [] }.tasks catalog

/-- The tasks of declarations are their values and their bindings. -/
theorem tasks_eq (catalog : Catalog) (declared : Declarations) :
    declared.tasks catalog =
      declared.values.map (fun type => (·.seedValue type)) ++ declared.bindings catalog := rfl

/-- Binding runs the tasks of the declarations in order. -/
theorem bind_eq_run (catalog : Catalog) (declared : Declarations) :
    declared.bind catalog = Session.run (declared.tasks catalog) { pending := declared.factories } := by
  simp [bind, seed, Session.run, tasks, List.foldlM_append, List.foldlM_map]

theorem assembled_of_mem_bindings {task : Session → Except CompileError Session}
    (member : task ∈ declared.bindings catalog) : Session.Assembled task := by
  simp only [bindings, tasks, List.map_nil, List.nil_append, List.flatten_cons, List.flatten_nil,
    List.append_nil, List.mem_append, List.mem_map] at member
  rcases member with ⟨declared, _, rfl⟩ | ⟨type, _, rfl⟩ | ⟨holder, _, rfl⟩ | ⟨receiver, _, rfl⟩ |
    ⟨declared, _, rfl⟩
  · exact Session.assembled_seedAlias declared
  · exact Session.assembled_bindConstructor catalog type
  · exact Session.assembled_bindProvider catalog holder
  · exact Session.assembled_bindInjectors catalog receiver
  · exact Session.assembled_addAlias declared

theorem local_of_mem_tasks {task : Session → Except CompileError Session}
    (member : task ∈ declared.tasks catalog) : Session.Local task := by
  rcases List.mem_append.mp member with value | binding
  · obtain ⟨type, _, rfl⟩ := List.mem_map.mp value
    exact Session.local_seedValue type
  · exact (assembled_of_mem_bindings binding).isLocal

private theorem Alike.tasks (alike : declared.Alike other) (catalog : Catalog) :
    (declared.tasks catalog).Perm (other.tasks catalog) :=
  .append (alike.values.map _) <| .append (alike.aliases.map _) <|
    .append (alike.constructors.map _) <| .append (alike.providers.map _) <|
    .append (alike.injected.map _) <| .append (alike.aliases.map _) (.refl [])

/-- Bindings note no key twice. -/
theorem needed_nodup_of_bind (done : declared.bind catalog = .ok session) : session.needed.Nodup := by
  rw [bind_eq_run] at done
  obtain ⟨_, _, gains⟩ := (Session.Local.foldlM fun task => local_of_mem_tasks) _ |>.1 session done
  exact gains.distinct List.nodup_nil

/-- What is declared in another order is bound alike. -/
theorem Alike.bind (alike : declared.Alike other) (done : declared.bind catalog = .ok session) :
    ∃ session', other.bind catalog = .ok session' ∧ session.Similar session' := by
  rw [bind_eq_run] at done ⊢
  refine Session.run_perm (alike.tasks catalog) (fun task => local_of_mem_tasks) ?_ done
  exact ⟨⟨.refl _, fun _ => .rfl, .refl _, .refl _, .refl _, .refl _, .refl _⟩,
    fun _ _ => alike.factories.mem_iff⟩

private theorem Alike.plain (alike : declared.Alike other) (plain : declared.Plain) : other.Plain where
  values _ member := plain.values _ (alike.values.mem_iff.mpr member)
  constructors _ member := plain.constructors _ (alike.constructors.mem_iff.mpr member)
  aliases _ member := plain.aliases _ (alike.aliases.mem_iff.mpr member)
  providers _ member := plain.providers _ (alike.providers.mem_iff.mpr member)
  factories _ member := plain.factories _ (alike.factories.mem_iff.mpr member)
  injected _ member := plain.injected _ (alike.injected.mem_iff.mpr member)

end Declarations

/-- The same is declared for one scope over one catalog. -/
structure Builder.Alike (builder other : Builder) : Prop where
  catalog : builder.catalog = other.catalog
  package : builder.package = other.package
  scopeName : builder.scopeName = other.scopeName
  declarations : builder.declarations.Alike other.declarations

theorem Builder.Alike.plain {builder other : Builder} (alike : builder.Alike other)
    (plain : builder.Plain) : other.Plain :=
  ⟨alike.catalog ▸ plain.catalog, alike.declarations.plain plain.declarations⟩

/-- What is declared in another order is resolved alike. -/
theorem Builder.Alike.resolve {builder other : Builder} {session : Session} (alike : builder.Alike other)
    (plain : builder.Plain) (done : builder.declarations.resolve builder.catalog = .ok session) :
    ∃ session', other.declarations.resolve other.catalog = .ok session' ∧ session.Alike session' := by
  obtain ⟨bound, bind, drain⟩ := bind_eq_ok.mp done
  obtain ⟨bound', bind', similar⟩ := alike.declarations.bind bind
  rw [alike.catalog] at bind' drain
  have sound := Session.sound_bind plain bind
  have sound' := Session.sound_bind (alike.plain plain) bind'
  obtain ⟨session', drain', alikeSession⟩ :=
    Session.drain_similar (alike.plain plain).catalog sound.pending sound'.pending similar drain
  exact ⟨session', bind_eq_ok.mpr ⟨bound', bind', drain'⟩, alikeSession⟩

/-- Resolution notes no key twice. -/
theorem Builder.needed_nodup_of_resolve {builder : Builder} {session : Session} (plain : builder.Plain)
    (done : builder.declarations.resolve builder.catalog = .ok session) : session.needed.Nodup := by
  obtain ⟨bound, bind, drain⟩ := bind_eq_ok.mp done
  obtain ⟨_, drains⟩ :=
    Session.drains_of_drain plain.catalog (Session.sound_bind plain bind).pending drain
  exact drains.distinct (Declarations.needed_nodup_of_bind bind)

end Bindings

section Surfacing

/-! ## What is surfaced -/

namespace Session

variable {session other next : Session} {explicitValues : Bool}

/-- The values that stand for those keys that are not bound. -/
def implicits (bound : List String) (keys : List DirectKey) : List ValueSlot :=
  (keys.filter (·.descriptor ∉ bound)).map (·.value .implicit)

private theorem implicits_cons (bound : List String) (key : DirectKey) (rest : List DirectKey) :
    implicits bound (key :: rest) = implicits bound [key] ++ implicits bound rest := by
  simp only [implicits, List.filter_cons, List.filter_nil]
  split <;> rfl

private theorem implicits_perm {bound bound' : List String} {keys keys' : List DirectKey}
    (same : bound.Perm bound') (sameKeys : keys.Perm keys') :
    (implicits bound keys).Perm (implicits bound' keys') := by
  have unbound : (fun key : DirectKey => decide (key.descriptor ∉ bound)) =
      fun key => decide (key.descriptor ∉ bound') := by
    simp only [same.mem_iff]
  unfold implicits
  rw [unbound]
  exact (sameKeys.filter _).map _

private theorem addImplicit_eq_ok {entry : DirectKey × String} :
    session.addImplicit explicitValues entry = .ok next ↔
      (explicitValues = true → entry.1.descriptor ∈ session.bound) ∧
        next = session ++ ({ values := implicits session.bound [entry.1] } : Session) := by
  by_cases known : entry.1.descriptor ∈ session.bound
  · have kept : session ++ ({ values := implicits session.bound [entry.1] } : Session) = session := by
      simp only [implicits, List.filter_cons, known, not_true_eq_false, decide_false, List.filter_nil]
      exact append_empty session
    simp [addImplicit, isSatisfied_iff.mpr known, kept, known, eq_comm]
  · have unsatisfied : session.isSatisfied entry.1 = false := isSatisfied_eq_false_iff.mpr known
    have surfaced : implicits session.bound [entry.1] = [entry.1.value .implicit] := by
      simp [implicits, known]
    cases explicitValues <;>
      simp [addImplicit, unsatisfied, surfaced, addValue_adds, known, eq_comm]

/-- Adding implicit values succeeds unless values must be declared and some are not, and adds a slot for
each key that is not bound. -/
theorem foldlM_addImplicit {entries : List (DirectKey × String)} :
    entries.foldlM (addImplicit explicitValues) session = .ok next ↔
      (explicitValues = true → ∀ entry ∈ entries, entry.1.descriptor ∈ session.bound) ∧
        next = session ++ ({ values := implicits session.bound (entries.map (·.1)) } : Session) := by
  induction entries generalizing session with
  | nil =>
    have kept : session ++ ({ values := implicits session.bound [] } : Session) = session :=
      append_empty session
    simp [kept, pure, Except.pure, eq_comm]
  | cons entry rest ih =>
    have bound (values : List ValueSlot) : (session ++ ({ values } : Session)).bound = session.bound := by
      simp [Session.bound]
    have spread :
        session ++ ({ values := implicits session.bound ((entry :: rest).map (·.1)) } : Session) =
        session ++ ({ values := implicits session.bound [entry.1] } : Session) ++
          ({ values := implicits session.bound (rest.map (·.1)) } : Session) := by
      rw [List.map_cons, implicits_cons, append_assoc]
      rfl
    simp only [foldlM_cons_eq_ok, addImplicit_eq_ok, ih, List.forall_mem_cons, spread]
    constructor
    · rintro ⟨_, ⟨first, rfl⟩, others, rfl⟩
      rw [bound] at others ⊢
      exact ⟨fun explicit => ⟨first explicit, others explicit⟩, rfl⟩
    · rintro ⟨declared, rfl⟩
      refine ⟨_, ⟨fun explicit => (declared explicit).1, rfl⟩, ?_⟩
      rw [bound]
      exact ⟨fun explicit => (declared explicit).2, rfl⟩

def neededKeys (session : Session) : List DirectKey := session.required.map (·.1)

private theorem neededKeys_subset (plain : ∀ entry ∈ session.required, entry.1.qualified.Plain)
    (plain' : ∀ entry ∈ other.required, entry.1.qualified.Plain)
    (within : session.needed ⊆ other.needed) : session.neededKeys ⊆ other.neededKeys := by
  intro key member
  obtain ⟨entry, listed, rfl⟩ := List.mem_map.mp member
  obtain ⟨entry', listed', same⟩ := List.mem_map.mp (within (List.mem_map_of_mem listed))
  exact DirectKey.descriptor_inj (plain' entry' listed') (plain entry listed) same ▸
    List.mem_map_of_mem listed'

private theorem Alike.neededKeys (alike : session.Alike other) (distinct : session.needed.Nodup)
    (distinct' : other.needed.Nodup) (plain : ∀ entry ∈ session.required, entry.1.qualified.Plain)
    (plain' : ∀ entry ∈ other.required, entry.1.qualified.Plain) :
    session.neededKeys.Perm other.neededKeys := by
  have nodup {session : Session} (distinct : session.needed.Nodup) : session.neededKeys.Nodup :=
    List.Nodup.of_map (·.descriptor) (by rwa [Session.neededKeys, List.map_map])
  refine (List.perm_ext_iff_of_nodup (nodup distinct) (nodup distinct')).mpr fun key => ⟨?_, ?_⟩
  · exact fun member => neededKeys_subset plain plain' (fun text => (alike.needed text).mp) member
  · exact fun member => neededKeys_subset plain' plain (fun text => (alike.needed text).mpr) member

/-- Sessions that hold the same surface the same. -/
theorem Alike.surface (alike : session.Alike other) (keys : session.neededKeys.Perm other.neededKeys)
    (done : session.surface explicitValues = .ok next) :
    ∃ next', other.surface explicitValues = .ok next' ∧ next.Alike next' := by
  obtain ⟨declared, rfl⟩ := foldlM_addImplicit.mp done
  refine ⟨_, foldlM_addImplicit.mpr ⟨fun explicit entry member => ?_, rfl⟩, alike.append ?_⟩
  · have listed := keys.mem_iff.mpr (List.mem_map_of_mem member)
    obtain ⟨same, listed, key⟩ := List.mem_map.mp listed
    exact alike.bound.mem_iff.mp (key ▸ declared explicit same listed)
  · exact ⟨.refl _, fun _ => .rfl, implicits_perm alike.bound keys, .refl _, .refl _, .refl _, .refl _⟩

end Session

end Surfacing

section Checking

/-! ## What is checked -/

def Slot.unnumbered : Slot → Slot
  | cached slot => cached slot.unnumbered
  | slot => slot

@[simp] theorem Slot.unnumbered_identifier (slot : Slot) :
    slot.unnumbered.identifier = slot.identifier := by
  cases slot <;> rfl

@[simp] theorem Slot.unnumbered_eagerDependencies (slot : Slot) :
    slot.unnumbered.eagerDependencies = slot.eagerDependencies := by
  cases slot <;> rfl

namespace Plan

variable {plan other : Plan} {reader read : String}

private theorem firstCollision_eq_none_of_nodup {earlier slots : List Slot}
    (nodup : (slots.map (·.identifier)).Nodup)
    (apart : ∀ slot ∈ slots, ∀ other ∈ earlier, other.identifier ≠ slot.identifier) :
    firstCollision earlier slots = none := by
  induction slots generalizing earlier with
  | nil => rfl
  | cons head rest ih =>
    obtain ⟨fresh, nodup⟩ := List.nodup_cons.mp nodup
    obtain ⟨apartHead, apartRest⟩ := List.forall_mem_cons.mp apart
    have none : earlier.find? (·.identifier = head.identifier) = none := by simpa using apartHead
    rw [firstCollision, none]
    refine ih nodup fun slot member => List.forall_mem_cons.mpr ⟨fun same => ?_, apartRest slot member⟩
    exact fresh (List.mem_map.mpr ⟨slot, member, same.symm⟩)

/-- The identifiers pass their check if none repeats. -/
theorem checkIdentifiers_eq_ok : plan.checkIdentifiers = .ok () ↔ plan.identifiers.Nodup := by
  refine ⟨nodup_of_checkIdentifiers, fun nodup => ?_⟩
  rw [checkIdentifiers, firstCollision_eq_none_of_nodup nodup fun _ _ => List.forall_mem_nil _]

/-- A plan passes its check if no identifier repeats and eager reads have no cycle. -/
theorem check_eq_ok : plan.check = .ok () ↔ plan.identifiers.Nodup ∧ plan.Acyclic := by
  rw [check, check_bind_eq_ok, checkIdentifiers_eq_ok]
  exact and_congr_right fun _ => ⟨acyclic_of_checkCycles, checkCycles_of_acyclic⟩

/-- Where identifiers differ, the order of the slots does not matter to what is read. -/
theorem eager_iff_of_nodup (nodup : plan.identifiers.Nodup) :
    plan.Eager reader read ↔
      ∃ slot ∈ plan.slots, slot.identifier = reader ∧ read ∈ slot.eagerDependencies := by
  constructor
  · rintro ⟨slot, ⟨before, after, split, same, _⟩, member⟩
    exact ⟨slot, split ▸ List.mem_append_right _ List.mem_cons_self, same, member⟩
  · rintro ⟨slot, listed, rfl, member⟩
    obtain ⟨before, after, split⟩ := List.append_of_mem listed
    refine ⟨slot, ⟨before, after, split, rfl, fun other later same => ?_⟩, member⟩
    rw [identifiers, split, List.map_append, List.map_cons, List.nodup_append] at nodup
    exact (List.nodup_cons.mp nodup.2.1).1 (same ▸ List.mem_map_of_mem later)

theorem Alike.slots (alike : plan.Alike other) :
    (plan.slots.map Slot.unnumbered).Perm (other.slots.map Slot.unnumbered) := by
  have parts (plan : Plan) : plan.slots.map Slot.unnumbered =
      plan.values.map .value ++ plan.aliases.map .aliased ++
        (plan.cached.map CachedSlot.unnumbered).map .cached ++ plan.factories.map .factory ++
        plan.injectors.map .injector := by
    simp [Plan.slots, Function.comp_def, Slot.unnumbered]
  rw [parts, parts]
  exact .append (.append (.append (.append (alike.values.map _) (alike.aliases.map _))
    (alike.cached.map _)) (alike.factories.map _)) (alike.injectors.map _)

theorem Alike.identifiers (alike : plan.Alike other) : plan.identifiers.Perm other.identifiers := by
  have texts (plan : Plan) : plan.identifiers = (plan.slots.map Slot.unnumbered).map (·.identifier) := by
    simp [Plan.identifiers, Function.comp_def]
  rw [texts, texts]
  exact alike.slots.map _

private theorem Alike.eager (alike : plan.Alike other) (nodup : plan.identifiers.Nodup) :
    plan.Eager = other.Eager := by
  have unnumbered {plan : Plan} {reader read : String} (nodup : plan.identifiers.Nodup) :
      plan.Eager reader read ↔ ∃ slot ∈ plan.slots.map Slot.unnumbered,
        slot.identifier = reader ∧ read ∈ slot.eagerDependencies := by
    simp [eager_iff_of_nodup nodup]
  funext reader read
  rw [propext (unnumbered nodup), propext (unnumbered (alike.identifiers.nodup_iff.mp nodup))]
  simp only [alike.slots.mem_iff]

private theorem Alike.check (alike : plan.Alike other) (checked : plan.check = .ok ()) :
    other.check = .ok () := by
  obtain ⟨nodup, acyclic⟩ := check_eq_ok.mp checked
  refine check_eq_ok.mpr ⟨alike.identifiers.nodup_iff.mp nodup, ?_⟩
  rw [Acyclic, ← alike.eager nodup]
  exact acyclic

end Plan

end Checking

/-- Declarations in another order compile to the same slots. -/
theorem Builder.compile_alike {builder other : Builder} {plan : Plan} (alike : builder.Alike other)
    (explicitValues : builder.explicitValues = other.explicitValues) (plain : builder.Plain)
    (compiled : builder.compile = .ok plan) : ∃ plan', other.compile = .ok plan' ∧ plan.Alike plan' := by
  obtain ⟨resolved, session, resolve, surface, rfl, checked⟩ := compile_iff_surface.mp compiled
  obtain ⟨resolved', resolve', same⟩ := alike.resolve plain resolve
  have sound := (Session.sound_resolve plain resolve).1
  have sound' := (Session.sound_resolve (alike.plain plain) resolve').1
  have keys := same.neededKeys (needed_nodup_of_resolve plain resolve)
    (needed_nodup_of_resolve (alike.plain plain) resolve') sound.required sound'.required
  rw [explicitValues] at surface
  obtain ⟨session', surface', same⟩ := same.surface keys surface
  have plans : (session.plan builder.package builder.scopeName).Alike
      (session'.plan other.package other.scopeName) :=
    ⟨alike.package, alike.scopeName, same.values, same.aliases, same.cached, same.factories,
      same.injectors⟩
  exact ⟨_, compile_iff_surface.mpr ⟨resolved', session', resolve', surface', rfl, plans.check checked⟩, plans⟩

end Wiring
