import Wiring.Proofs.Compilation.Locality
import Wiring.Proofs.Compilation.Resolution

/-! # What is implemented when the queue is drained

Which factories are implemented does not depend on the order of the queue. Draining implements a
list of interfaces that settles the session: every queued item and every item that one of the
interfaces asks for is bound beforehand or listed. Conversely a session that some list settles can
be drained, and nothing outside the list is implemented. So the list is the least one, and sessions
that hold the same are drained alike.

An item is found in the list by its descriptor, so names have to be plain here.
-/

namespace Wiring

theorem DirectKey.ofType_of_notLazy {asked : QualifiedType} (notLazy : asked.type.isLazy = false) :
    ofType asked = .ok ⟨asked, notLazy⟩ := by
  unfold ofType Key.ofType
  split
  next deferred => simp [notLazy] at deferred
  next =>
    cases asked.qualifiers.isAutoFactory <;> rfl

namespace Session

variable {catalog : Catalog} {session other added middle next : Session} {interface : QualifiedType}
  {made rest : List QualifiedType}

section Implementing

/-! ## Implementing one interface -/

/-- Implements a factory interface, whose key must not be satisfied yet. -/
def implement (catalog : Catalog) (interface : QualifiedType) (session : Session) :
    Except CompileError Session := do
  let key ← DirectKey.ofType interface
  let session ← session.satisfy key .factory
  let method ← catalog.singleMethod interface.type
  match method.returns with
  | none => throw (.factoryWithoutProduct interface.type.simpleName method.name)
  | some product =>
    let info ← catalog.require product.name
    let constructor ← info.selectConstructor
    let (arguments, session) ← session.curryAll interface.type method constructor.params
      (product.simpleName ++ " constructor")
    return { session with
      factories := session.factories ++
        [{ identifier := key.identifier
           declared := key.type.simpleName
           descriptor := key.descriptor
           method := method.name
           parameters := method.parameters
           product, arguments }] }

/-- A factory that is bound already is not bound again. -/
theorem bindFactory_of_mem (notLazy : interface.type.isLazy = false)
    (bound : interface.descriptor ∈ session.bound) :
    session.bindFactory catalog interface = .ok session := by
  have satisfied : session.isSatisfied ⟨interface, notLazy⟩ = true := isSatisfied_iff.mpr bound
  simp [bindFactory, DirectKey.ofType_of_notLazy notLazy, bind, Except.bind, satisfied]
  rfl

/-- A factory that is not bound yet is implemented. -/
theorem bindFactory_of_not_mem (unbound : interface.descriptor ∉ session.bound) :
    session.bindFactory catalog interface = implement catalog interface session := by
  unfold bindFactory implement
  cases built : DirectKey.ofType interface with
  | error error => rfl
  | ok key =>
    have same : key.descriptor = interface.descriptor :=
      congrArg QualifiedType.descriptor (DirectKey.qualified_of_ofType built)
    have unsatisfied : session.isSatisfied key = false :=
      isSatisfied_eq_false_iff.mpr (same ▸ unbound)
    simp only [bind, Except.bind, unsatisfied]
    rfl

/-- Implementing a factory is assembled. -/
theorem assembled_implement (catalog : Catalog) (interface : QualifiedType) :
    Assembled (implement catalog interface) := by
  refine .ofExcept fun key => .andThen (.satisfy key .factory) (.ofExcept fun method => ?_)
  cases method.returns with
  | none => exact .throw _
  | some product =>
    exact .ofExcept fun _ => .ofExcept fun _ => assembled_curryAll fun _ => assembled_factory _

theorem local_implement (catalog : Catalog) (interface : QualifiedType) :
    Local (implement catalog interface) :=
  (assembled_implement catalog interface).isLocal

/-- A deferred handle is no factory to bind. -/
theorem notLazy_of_bindFactory (done : session.bindFactory catalog interface = .ok next) :
    interface.type.isLazy = false := by
  obtain ⟨key, built, _⟩ := bind_eq_ok.mp done
  exact DirectKey.qualified_of_ofType built ▸ key.notLazy

theorem implement_bound (done : implement catalog interface {} = .ok added) :
    added.bound = [interface.descriptor] := by
  rw [← bindFactory_of_not_mem (by simp [bound])] at done
  rcases bindFactory_eq_ok done with ⟨_, bound⟩ | ⟨_, bound, _⟩
  · simp [Session.bound] at bound
  · simpa [Session.bound] using bound

/-- With a plain catalog a factory queues plain types only. -/
theorem plain_bindFactory (plainCatalog : catalog.Plain)
    (done : session.bindFactory catalog interface = .ok next)
    (plain : ∀ item ∈ session.pending, item.Plain) : ∀ item ∈ next.pending, item.Plain := by
  rcases bindFactory_adds done with ⟨_, rfl⟩ | ⟨key, method, product, info, constructor, offered,
    wanted, noted, queued, _, _, _, _, found, selected, _, built, _, asking, rfl⟩
  · exact plain
  have params := plainCatalog info (Catalog.find?_mem found)
    |>.constructors constructor (TypeInfo.mem_of_selectConstructor selected)
  exact List.forall_mem_append.mpr
    ⟨plain, asking.plain_queued (Key.plain_of_curry offered.zipIdx built params)⟩

end Implementing

section Settling

/-! ## Lists that settle a session -/

/-- The item is no deferred handle, and it is bound or listed. -/
def Covers (session : Session) (made : List QualifiedType) (item : QualifiedType) : Prop :=
  item.type.isLazy = false ∧ (item.descriptor ∈ session.bound ∨ item ∈ made)

/-- Every interface of the list can be implemented, and what is queued or asked for by one of them is
covered. -/
structure Settles (catalog : Catalog) (session : Session) (made : List QualifiedType) : Prop where
  plain : ∀ item ∈ made, item.Plain
  queued : ∀ item ∈ session.pending, session.Covers made item
  asked : ∀ item ∈ made, ∃ added, implement catalog item {} = .ok added ∧
    ∀ further ∈ added.pending, session.Covers made further

theorem Covers.mono {item : QualifiedType} (covers : session.Covers made item)
    (grown : session.bound ⊆ other.bound) : other.Covers made item :=
  ⟨covers.1, covers.2.imp_left (@grown _)⟩

/-- What is no longer awaited is covered by what is bound. -/
theorem covers_of_not_awaits {item : QualifiedType} (idle : ¬ session.Awaits item) :
    session.Covers made item := by
  rw [Awaits, not_or, not_not, Bool.not_eq_true] at idle
  exact ⟨idle.1, .inl idle.2⟩

private theorem Settles.similar (settles : Settles catalog session made) (similar : session.Similar other) :
    Settles catalog other made where
  plain := settles.plain
  queued item member := by
    by_cases awaits : other.Awaits item
    · have listed := (similar.symm.pending item awaits).mp member
      exact (settles.queued item listed).mono similar.bound.subset
    · exact covers_of_not_awaits awaits
  asked item member := by
    obtain ⟨added, adds, covered⟩ := settles.asked item member
    exact ⟨added, adds, fun further asks => (covered further asks).mono similar.bound.subset⟩

/-- The next item of a settled queue is skipped or can be implemented. -/
theorem Settles.bindFactory (settles : Settles catalog session made)
    (member : interface ∈ session.pending) :
    ∃ next, session.dequeued.bindFactory catalog interface = .ok next := by
  have covers := settles.queued interface member
  by_cases bound : interface.descriptor ∈ session.dequeued.bound
  · exact ⟨_, bindFactory_of_mem covers.1 bound⟩
  · obtain ⟨added, adds, _⟩ := settles.asked interface (covers.2.resolve_left bound)
    rw [bindFactory_of_not_mem bound]
    refine (local_implement catalog interface session.dequeued).2 added adds ?_
    rw [implement_bound adds]
    exact List.disjoint_singleton.mpr bound

/-- The list goes on to settle the session, and no other key gets bound. -/
theorem Settles.step (settles : Settles catalog session made) (member : interface ∈ session.pending)
    (done : session.dequeued.bindFactory catalog interface = .ok next) :
    Settles catalog next made ∧
      ∀ text ∈ next.bound, text ∈ session.bound ∨ text ∈ made.map (·.descriptor) := by
  have covers := settles.queued interface member
  by_cases bound : interface.descriptor ∈ session.dequeued.bound
  · cases done.symm.trans (bindFactory_of_mem covers.1 bound)
    refine ⟨⟨settles.plain, fun item later => ?_, settles.asked⟩, fun _ => .inl⟩
    exact settles.queued item (List.mem_of_mem_tail later)
  · have listed := covers.2.resolve_left bound
    rw [bindFactory_of_not_mem bound] at done
    obtain ⟨added, adds, gains⟩ := (local_implement catalog interface session.dequeued).1 next done
    have grown : session.bound ⊆ next.bound := fun text old =>
      gains.bound.mem_iff.mpr (List.mem_append_left _ old)
    obtain ⟨again, same, asked⟩ := settles.asked interface listed
    obtain rfl : added = again := by simpa [adds] using same
    refine ⟨⟨settles.plain, fun item queued => ?_, fun item member => ?_⟩, fun text bound => ?_⟩
    · by_cases awaits : next.Awaits item
      · rcases List.mem_append.mp ((gains.similar.pending item awaits).mp queued) with old | new
        · exact (settles.queued item (List.mem_of_mem_tail old)).mono grown
        · exact (asked item new).mono grown
      · exact covers_of_not_awaits awaits
    · obtain ⟨further, adds, covered⟩ := settles.asked item member
      exact ⟨further, adds, fun item asks => (covered item asks).mono grown⟩
    · rcases List.mem_append.mp (gains.bound.mem_iff.mp bound) with old | new
      · exact .inl old
      · rw [implement_bound adds, List.mem_singleton] at new
        exact .inr (List.mem_map.mpr ⟨interface, listed, new.symm⟩)

/-- A session that a list settles can be drained, and only what is listed gets bound. -/
theorem drain_of_settles (settles : Settles catalog session made) :
    ∃ next, session.drain catalog = .ok next ∧
      ∀ text ∈ next.bound, text ∈ session.bound ∨ text ∈ made.map (·.descriptor) := by
  fun_induction drain catalog session with
  | case1 session empty => exact ⟨session, rfl, fun _ => .inl⟩
  | case2 session interface rest queue error failed =>
    obtain ⟨next, done⟩ := settles.bindFactory (queue ▸ List.mem_cons_self)
    cases failed.symm.trans done
  | case3 session interface rest queue middle done ih =>
    obtain ⟨settled, grown⟩ := settles.step (queue ▸ List.mem_cons_self) done
    obtain ⟨next, drained, within⟩ := ih settled
    exact ⟨next, drained, fun text bound => (within text bound).elim (grown text) .inr⟩

end Settling

section Drained

/-! ## The interfaces that get implemented -/

/-- What implementing the interface adds. -/
def addition (catalog : Catalog) (interface : QualifiedType) : Session :=
  match implement catalog interface {} with
  | .ok added => added
  | .error _ => {}

def additions (catalog : Catalog) (made : List QualifiedType) : Session :=
  made.foldr (fun interface rest => addition catalog interface ++ rest) {}

theorem addition_eq (done : implement catalog interface {} = .ok added) :
    addition catalog interface = added := by
  rw [addition, done]

private theorem Settles.bound_additions (settles : Settles catalog session made) :
    (additions catalog made).bound = made.map (·.descriptor) := by
  have each : ∀ item ∈ made, (addition catalog item).bound = [item.descriptor] := fun item member => by
    obtain ⟨added, adds, _⟩ := settles.asked item member
    rw [addition_eq adds, implement_bound adds]
  clear settles
  induction made with
  | nil => rfl
  | cons item rest ih =>
    rw [additions, List.foldr_cons, bound_append, each item List.mem_cons_self, List.map_cons,
      ← ih fun other later => each other (List.mem_cons_of_mem _ later)]
    rfl

private theorem alike_additions (catalog : Catalog) {made' : List QualifiedType} (same : made.Perm made') :
    (additions catalog made).Alike (additions catalog made') := by
  induction same with
  | nil => exact .refl _
  | cons interface _ ih => exact .append (.refl _) ih
  | swap first second rest =>
    simp only [additions, List.foldr_cons, ← append_assoc]
    exact .append (.append_comm _ _) (.refl _)
  | trans _ _ ih ih' => exact ih.trans ih'

/-- The list settles the session, none of its interfaces is bound beforehand, and the next session
holds what they add. -/
structure Drains (catalog : Catalog) (session : Session) (made : List QualifiedType)
    (next : Session) : Prop extends Settles catalog session made where
  nodup : made.Nodup
  fresh : ∀ item ∈ made, item.descriptor ∉ session.bound
  alike : next.Alike (session ++ additions catalog made)
  distinct : session.needed.Nodup → next.needed.Nodup

theorem dequeued_alike (session : Session) : session.dequeued.Alike session :=
  ⟨.refl _, fun _ => .rfl, .refl _, .refl _, .refl _, .refl _, .refl _⟩

/-- An item whose key is bound is skipped. -/
theorem Drains.of_mem (queue : session.pending = interface :: rest)
    (notLazy : interface.type.isLazy = false) (bound : interface.descriptor ∈ session.bound)
    (drains : Drains catalog session.dequeued made next) : Drains catalog session made next where
  plain := drains.plain
  queued item member := by
    rw [queue] at member
    rcases List.mem_cons.mp member with rfl | later
    · exact ⟨notLazy, .inl bound⟩
    · exact drains.queued item (by simpa [dequeued, queue] using later)
  asked := drains.asked
  nodup := drains.nodup
  fresh := drains.fresh
  alike := drains.alike.trans (.append (dequeued_alike session) (.refl _))
  distinct := drains.distinct

private theorem plain_implement (plainCatalog : catalog.Plain)
    (done : implement catalog interface {} = .ok added) : ∀ item ∈ added.pending, item.Plain := by
  rw [← bindFactory_of_not_mem (by simp [bound])] at done
  exact plain_bindFactory plainCatalog done (List.forall_mem_nil _)

/-- An item whose key is not bound is implemented. -/
theorem Drains.of_not_mem (plainCatalog : catalog.Plain) (plain : ∀ item ∈ session.pending, item.Plain)
    (queue : session.pending = interface :: rest) (unbound : interface.descriptor ∉ session.bound)
    (done : implement catalog interface session.dequeued = .ok middle)
    (drains : Drains catalog middle made next) :
    Drains catalog session (interface :: made) next := by
  have head : interface ∈ session.pending := queue ▸ List.mem_cons_self
  have unboundNow : interface.descriptor ∉ session.dequeued.bound := unbound
  have notLazy := notLazy_of_bindFactory ((bindFactory_of_not_mem unboundNow).trans done)
  obtain ⟨added, adds, gains⟩ := (local_implement catalog interface session.dequeued).1 middle done
  have bound (text : String) :
      text ∈ middle.bound ↔ text ∈ session.bound ∨ text = interface.descriptor := by
    rw [gains.bound.mem_iff, List.mem_append, implement_bound adds, List.mem_singleton]
    rfl
  -- The key that is bound meanwhile is that of the interface, so an item with this key is listed.
  have back : ∀ item : QualifiedType, item.Plain → middle.Covers made item →
      session.Covers (interface :: made) item := by
    intro item plainItem covers
    refine ⟨covers.1, ?_⟩
    rcases covers.2 with known | listed
    · refine ((bound _).mp known).imp_right fun same => ?_
      exact QualifiedType.descriptor_inj plainItem (plain interface head) same ▸ List.mem_cons_self
    · exact .inr (List.mem_cons_of_mem _ listed)
  have waiting : ∀ item : QualifiedType, item ∈ session.dequeued.pending ∨ item ∈ added.pending →
      middle.Covers made item := by
    intro item member
    by_cases awaits : middle.Awaits item
    · exact drains.queued item ((gains.similar.pending item awaits).mpr (List.mem_append.mpr member))
    · exact covers_of_not_awaits awaits
  refine ⟨⟨?_, fun item member => ?_, ?_⟩, ?_, ?_, ?_, ?_⟩
  · exact List.forall_mem_cons.mpr ⟨plain interface head, drains.plain⟩
  · have plainItem := plain item member
    rw [queue] at member
    rcases List.mem_cons.mp member with rfl | later
    · exact ⟨notLazy, .inr List.mem_cons_self⟩
    · exact back item plainItem (waiting item (.inl (by simpa [dequeued, queue] using later)))
  · refine List.forall_mem_cons.mpr ⟨⟨added, adds, fun item asked => ?_⟩, fun item member => ?_⟩
    · exact back item (plain_implement plainCatalog adds item asked) (waiting item (.inr asked))
    · obtain ⟨further, adds, covered⟩ := drains.asked item member
      refine ⟨further, adds, fun item asked => ?_⟩
      exact back item (plain_implement plainCatalog adds item asked) (covered item asked)
  · refine List.nodup_cons.mpr ⟨fun again => ?_, drains.nodup⟩
    exact drains.fresh interface again ((bound _).mpr (.inr rfl))
  · refine List.forall_mem_cons.mpr ⟨unbound, fun item member known => ?_⟩
    exact drains.fresh item member ((bound _).mpr (.inl known))
  · have spread := drains.alike.trans (gains.similar.toAlike.append (.refl (additions catalog made)))
    rw [append_assoc] at spread
    rw [additions, List.foldr_cons, addition_eq adds]
    exact spread.trans (.append (dequeued_alike session) (.refl _))
  · exact fun distinct => drains.distinct (gains.distinct distinct)

/-- Draining that ends well has drained the queue. -/
theorem drains_of_drain (plainCatalog : catalog.Plain) (plain : ∀ item ∈ session.pending, item.Plain)
    (done : session.drain catalog = .ok next) : ∃ made, Drains catalog session made next := by
  fun_induction drain catalog session with
  | case1 session empty =>
    cases done
    refine ⟨[], ⟨List.forall_mem_nil _, by simp [empty], List.forall_mem_nil _⟩, List.nodup_nil,
      List.forall_mem_nil _, ?_, id⟩
    rw [additions, List.foldr_nil, append_empty]
    exact .refl next
  | case2 session interface rest queue error failed => cases done
  | case3 session interface rest queue middle bound ih =>
    have plainRest : ∀ item ∈ session.dequeued.pending, item.Plain :=
      fun item member => plain item (List.mem_of_mem_tail member)
    obtain ⟨made, drains⟩ := ih (plain_bindFactory plainCatalog bound plainRest) done
    have notLazy := notLazy_of_bindFactory bound
    by_cases known : interface.descriptor ∈ session.dequeued.bound
    · cases bound.symm.trans (bindFactory_of_mem notLazy known)
      exact ⟨made, drains.of_mem queue notLazy known⟩
    · rw [bindFactory_of_not_mem known] at bound
      exact ⟨interface :: made, drains.of_not_mem plainCatalog plain queue known bound⟩

/-- No list that settles the session is smaller. -/
theorem Drains.subset (drains : Drains catalog session made next)
    (done : session.drain catalog = .ok next) {others : List QualifiedType}
    (settles : Settles catalog session others) : made ⊆ others := by
  intro item member
  obtain ⟨_, again, within⟩ := drain_of_settles settles
  cases done.symm.trans again
  have bound : item.descriptor ∈ next.bound := by
    rw [drains.alike.bound.mem_iff, bound_append, drains.toSettles.bound_additions]
    exact List.mem_append_right _ (List.mem_map_of_mem member)
  rcases within _ bound with known | listed
  · exact absurd known (drains.fresh item member)
  · obtain ⟨same, listed, text⟩ := List.mem_map.mp listed
    have plain := settles.plain same listed
    exact QualifiedType.descriptor_inj plain (drains.plain item member) text ▸ listed

/-- Sessions that hold the same are drained alike. -/
theorem drain_similar (plainCatalog : catalog.Plain) (plain : ∀ item ∈ session.pending, item.Plain)
    (plainOther : ∀ item ∈ other.pending, item.Plain) (similar : session.Similar other)
    (done : session.drain catalog = .ok next) :
    ∃ next', other.drain catalog = .ok next' ∧ next.Alike next' := by
  obtain ⟨made, drains⟩ := drains_of_drain plainCatalog plain done
  have settles := drains.toSettles.similar similar
  obtain ⟨next', done', _⟩ := drain_of_settles settles
  obtain ⟨made', drains'⟩ := drains_of_drain plainCatalog plainOther done'
  have same : made.Perm made' := (List.perm_ext_iff_of_nodup drains.nodup drains'.nodup).mpr fun item =>
    ⟨fun member => drains.subset done (drains'.toSettles.similar similar.symm) member,
      fun member => drains'.subset done' settles member⟩
  have added := similar.toAlike.append (alike_additions catalog same)
  exact ⟨next', done', drains.alike.trans (added.trans drains'.alike.symm)⟩

end Drained

end Session

end Wiring
