import Mathlib.Data.List.Forall2
import Wiring.Compilation.Basic
import Wiring.Proofs.FirstOccurrences

/-! # What a compilation adds

Every step of a compilation only adds to its session: keys that are satisfied, keys that are
needed, factories to implement and slots. Each lemma says what one step has looked up and what it
adds, so that an invariant of sessions need only be shown to survive an addition. The queue of
factories is the one list that also shrinks, by its head, before a step.
-/

namespace Wiring

namespace Key

/-- Parameters come to their keys position by position. -/
theorem forall₂_ofParameters {params : List QualifiedType} {keys : List Key}
    (built : ofParameters params = .ok keys) :
    List.Forall₂ (fun param key => ofType param = .ok key) params keys := by
  unfold ofParameters at built
  induction params generalizing keys with
  | nil =>
    cases built
    exact .nil
  | cons param rest ih =>
    rw [List.mapM_cons] at built
    obtain ⟨key, first, built⟩ := bind_eq_ok.mp built
    obtain ⟨others, restBuilt, same⟩ := bind_eq_ok.mp built
    cases same
    exact .cons first (ih restBuilt)

end Key

namespace DirectKey

/-- A direct key is determined by its type. -/
theorem eq_of_qualified {a b : DirectKey} (same : a.qualified = b.qualified) : a = b := by
  cases a
  cases b
  cases same
  rfl

def value (key : DirectKey) (origin : ValueOrigin) : ValueSlot :=
  { identifier := key.identifier
    declared := key.type.simpleName
    descriptor := key.descriptor
    origin }

/-- The slot of a key that is created once. -/
def cached (key : DirectKey) (position : Nat) (recipe : Recipe) (arguments : List Argument)
    (closeOnTeardown : Bool) : CachedSlot :=
  { ordinal := .ofNat position
    identifier := key.identifier
    declared := key.type.simpleName
    descriptor := key.descriptor
    recipe, arguments, closeOnTeardown }

end DirectKey

def Alias.slot (declared : Alias) : AliasSlot :=
  { identifier := declared.dependency.identifier
    declared := declared.dependency.type.simpleName
    descriptor := declared.dependency.descriptor
    target := declared.satisfiedBy.identifier }

section Currying

variable {offers others : Offers} {wanted : Key} {position : Nat}

private theorem Offers.take?_eq_some (taken : offers.take? wanted = some (position, others)) :
    (∃ key, (key, position) ∈ offers ∧ key.sameAs wanted = true) ∧ others ⊆ offers := by
  induction offers generalizing others with
  | nil => cases taken
  | cons offer rest ih =>
    obtain ⟨key, here⟩ := offer
    rw [take?] at taken
    split at taken
    next alike =>
      cases taken
      exact ⟨⟨key, List.mem_cons_self, alike⟩, List.subset_cons_self _ _⟩
    next =>
      obtain ⟨⟨found, left⟩, later, same⟩ := Option.map_eq_some_iff.mp taken
      cases same
      obtain ⟨⟨other, member, alike⟩, subset⟩ := ih later
      exact ⟨⟨other, List.mem_cons_of_mem _ member, alike⟩, List.cons_subset_cons _ subset⟩

/-- Each wanted key is read from the scope or taken from an offer with this key. -/
theorem forall₂_curry (offers : Offers) (wanted : List Key) :
    List.Forall₂ (fun key source => source = .scope key ∨
        ∃ offer ∈ offers, offer.1.sameAs key = true ∧ source = .caller offer.2)
      wanted (curry offers wanted).1 := by
  induction wanted generalizing offers with
  | nil => exact .nil
  | cons key rest ih =>
    rw [curry]
    split
    next position others taken =>
      obtain ⟨⟨found, member, alike⟩, subset⟩ := Offers.take?_eq_some taken
      refine .cons (.inr ⟨(found, position), member, alike, rfl⟩) ((ih others).imp fun _ _ origin => ?_)
      refine origin.imp_right ?_
      rintro ⟨offer, member, same⟩
      exact ⟨offer, subset member, same⟩
    next => exact .cons (.inl rfl) (ih offers)

end Currying

namespace Session

/-- What the first session holds, followed by what the second one adds. -/
instance : Append Session where
  append session added :=
    { satisfied := session.satisfied ++ added.satisfied
      required := session.required ++ added.required
      pending := session.pending ++ added.pending
      values := session.values ++ added.values
      aliases := session.aliases ++ added.aliases
      cached := session.cached ++ added.cached
      factories := session.factories ++ added.factories
      injectors := session.injectors ++ added.injectors }

variable (session added : Session)

@[simp] theorem append_satisfied : (session ++ added).satisfied =
    session.satisfied ++ added.satisfied := rfl
@[simp] theorem append_required : (session ++ added).required =
    session.required ++ added.required := rfl
@[simp] theorem append_pending : (session ++ added).pending =
    session.pending ++ added.pending := rfl
@[simp] theorem append_values : (session ++ added).values =
    session.values ++ added.values := rfl
@[simp] theorem append_aliases : (session ++ added).aliases =
    session.aliases ++ added.aliases := rfl
@[simp] theorem append_cached : (session ++ added).cached =
    session.cached ++ added.cached := rfl
@[simp] theorem append_factories : (session ++ added).factories =
    session.factories ++ added.factories := rfl
@[simp] theorem append_injectors : (session ++ added).injectors =
    session.injectors ++ added.injectors := rfl

@[ext] theorem ext {a b : Session} (satisfied : a.satisfied = b.satisfied)
    (required : a.required = b.required) (pending : a.pending = b.pending)
    (values : a.values = b.values) (aliases : a.aliases = b.aliases) (cached : a.cached = b.cached)
    (factories : a.factories = b.factories) (injectors : a.injectors = b.injectors) : a = b := by
  cases a
  cases b
  simp_all

@[simp] theorem needed_append : (session ++ added).needed = session.needed ++ added.needed := by
  simp [needed]

@[simp] theorem bound_append : (session ++ added).bound = session.bound ++ added.bound := by
  simp [bound]

@[simp] theorem needed_mk (satisfied : List (DirectKey × BindingKind)) :
    needed { satisfied } = [] := rfl

@[simp] theorem bound_mk (satisfied : List (DirectKey × BindingKind))
    (required : List (DirectKey × String)) (pending : List QualifiedType) :
    bound { satisfied, required, pending } = satisfied.map (·.1.descriptor) := rfl

/-- Adding nothing changes nothing. -/
theorem append_empty : session ++ ({} : Session) = session := by
  ext1 <;> simp

theorem append_assoc (third : Session) : session ++ added ++ third = session ++ (added ++ third) := by
  ext1 <;> simp

variable {session added}

/-! ## Asking for keys -/

/-- What has to be noted and queued for the keys to be asked for, where some descriptors are
needed already and some keys are bound. -/
structure Asking (needed bound : List String) (keys : List Key) (noted : List (DirectKey × String))
    (queued : List QualifiedType) : Prop where
  noted_base : ∀ entry ∈ noted, ∃ key ∈ keys, entry.1 = key.base
  covers : ∀ key ∈ keys, key.base.descriptor ∈ needed ++ noted.map (·.1.descriptor)
  /-- Each descriptor is noted when it is asked for first. -/
  ordered : ∀ texts : List String, needed = texts.eraseDups →
    needed ++ noted.map (·.1.descriptor) = (texts ++ keys.map (·.base.descriptor)).eraseDups
  queued_eq : queued = (keys.filter fun key =>
    key.isAutoFactory && !bound.contains key.base.descriptor).map (·.base.qualified)

/-- What is queued are the types of the keys that are asked for. -/
theorem Asking.queued_base {needed bound : List String} {keys : List Key}
    {noted : List (DirectKey × String)} {queued : List QualifiedType}
    (asking : Asking needed bound keys noted queued) :
    ∀ item ∈ queued, ∃ key ∈ keys, item = key.base.qualified := by
  intro item member
  rw [asking.queued_eq] at member
  obtain ⟨key, asked, same⟩ := List.mem_map.mp member
  exact ⟨key, List.mem_of_mem_filter asked, same.symm⟩

/-- A key that is needed already is not noted again. -/
theorem note_of_mem {requirer : String} {key : DirectKey} (known : key.descriptor ∈ session.needed) :
    session.note requirer key = session :=
  if_pos (List.contains_iff_mem.mpr known)

/-- A key that nobody has needed is noted with who requires it. -/
theorem note_of_not_mem {requirer : String} {key : DirectKey}
    (fresh : key.descriptor ∉ session.needed) :
    session.note requirer key = session ++ ({ required := [(key, requirer)] } : Session) := by
  rw [note, if_neg (mt List.contains_iff_mem.mp fresh)]
  ext1 <;> simp

private theorem note_eq (session : Session) (requirer : String) (key : DirectKey) :
    ∃ noted, (∀ entry ∈ noted, entry.1 = key) ∧
      noted.map (·.1.descriptor) =
        (if session.needed.contains key.descriptor then [] else [key.descriptor]) ∧
      session.note requirer key = session ++ { required := noted } := by
  by_cases known : key.descriptor ∈ session.needed
  · exact ⟨[], by simp, by simp [known], (note_of_mem known).trans (append_empty session).symm⟩
  · exact ⟨[(key, requirer)], by simp, by simp [known], note_of_not_mem known⟩

theorem enqueue_eq (session : Session) (key : Key) :
    session.enqueue key = session ++
      { pending := ([key].filter fun key =>
          key.isAutoFactory && !session.bound.contains key.base.descriptor).map (·.base.qualified) } := by
  have selected : [key].filter (fun key =>
      key.isAutoFactory && !session.bound.contains key.base.descriptor) =
        if key.isAutoFactory && !session.isSatisfied key.base then [key] else [] := List.filter_cons
  rw [selected]
  unfold enqueue
  split
  · ext1 <;> simp
  · ext1 <;> simp

theorem register_eq (session : Session) (requirer : String) (key : Key) :
    ∃ noted queued, Asking session.needed session.bound [key] noted queued ∧
      session.register requirer key = session ++ { required := noted, pending := queued } := by
  obtain ⟨noted, only, texts, same⟩ := note_eq session requirer key.base
  refine ⟨noted, _, ⟨?_, ?_, ?_, rfl⟩, ?_⟩
  · exact fun entry member => ⟨key, List.mem_cons_self, only entry member⟩
  · rw [texts]
    refine List.forall_mem_singleton.mpr ?_
    split
    next known => exact List.mem_append_left _ (by simpa using known)
    next => exact List.mem_append_right _ List.mem_cons_self
  · intro before start
    have known : before.contains key.base.descriptor = session.needed.contains key.base.descriptor := by
      simp [start]
    rw [texts, List.map_cons, List.map_nil, eraseDups_concat, known, start]
  · rw [register, same, enqueue_eq]
    ext1 <;> simp [bound]

theorem Asking.cons {session : Session} {key : Key} {rest : List Key}
    {noted noted' : List (DirectKey × String)} {queued queued' : List QualifiedType}
    (first : Asking session.needed session.bound [key] noted queued)
    (others : Asking (session.needed ++ noted.map (·.1.descriptor)) session.bound rest noted' queued') :
    Asking session.needed session.bound (key :: rest) (noted ++ noted') (queued ++ queued') where
  noted_base := by
    refine List.forall_mem_append.mpr ⟨fun entry here => ?_, fun entry later => ?_⟩
    · obtain ⟨asked, only, same⟩ := first.noted_base entry here
      exact ⟨key, List.mem_cons_self, List.mem_singleton.mp only ▸ same⟩
    · obtain ⟨asked, member, same⟩ := others.noted_base entry later
      exact ⟨asked, List.mem_cons_of_mem _ member, same⟩
  covers := by
    rw [List.map_append, ← List.append_assoc]
    refine List.forall_mem_cons.mpr ⟨?_, others.covers⟩
    exact List.mem_append_left _ (first.covers key List.mem_cons_self)
  ordered texts start := by
    have step := others.ordered (texts ++ [key.base.descriptor]) (first.ordered texts start)
    rw [List.map_append, ← List.append_assoc, step, List.map_cons, List.append_assoc]
    rfl
  queued_eq := by
    rw [first.queued_eq, others.queued_eq, ← List.map_append, ← List.filter_append]
    rfl

/-- Registering keys adds what asking for them adds. -/
theorem registerAll_eq (session : Session) (requirer : String) (keys : List Key) :
    ∃ noted queued, Asking session.needed session.bound keys noted queued ∧
      session.registerAll requirer keys = session ++ { required := noted, pending := queued } := by
  unfold registerAll
  induction keys generalizing session with
  | nil => exact ⟨[], [], ⟨by simp, by simp, by simp, rfl⟩, by ext1 <;> simp⟩
  | cons key rest ih =>
    obtain ⟨noted, queued, first, same⟩ := register_eq session requirer key
    obtain ⟨noted', queued', others, sameRest⟩ := ih (session.register requirer key)
    rw [same, needed_append, bound_append, bound_mk, List.map_nil, List.append_nil] at others
    refine ⟨noted ++ noted', queued ++ queued', first.cons others, ?_⟩
    rw [List.foldl_cons, sameRest, same, append_assoc]
    ext1 <;> simp

/-! ## Slots and satisfied keys -/

theorem kind?_eq_none_iff {key : DirectKey} :
    session.kind? key = none ↔ key.descriptor ∉ session.bound := by
  simp [kind?, bound, DirectKey.sameAs]

/-- Satisfied keys are those that are bound. -/
theorem isSatisfied_iff {key : DirectKey} :
    session.isSatisfied key = true ↔ key.descriptor ∈ session.bound := by
  simp [isSatisfied]

theorem isSatisfied_eq_false_iff {key : DirectKey} :
    session.isSatisfied key = false ↔ key.descriptor ∉ session.bound := by
  rw [← isSatisfied_iff, Bool.not_eq_true]

/-- Satisfying a key succeeds if it is not bound yet, and adds just this key. -/
theorem satisfy_adds {next : Session} {key : DirectKey} {kind : BindingKind}
    (done : session.satisfy key kind = .ok next) :
    key.descriptor ∉ session.bound ∧ next = session ++ { satisfied := [(key, kind)] } := by
  refine ⟨?_, ?_⟩
  · unfold satisfy at done
    split at done
    · cases done
    next unbound => exact kind?_eq_none_iff.mp unbound
  · rw [satisfy_eq_ok done]
    ext1 <;> simp

/-- A key that is not bound yet can be satisfied. -/
theorem satisfy_of_not_mem {key : DirectKey} {kind : BindingKind} (fresh : key.descriptor ∉ session.bound) :
    session.satisfy key kind = .ok (session ++ ({ satisfied := [(key, kind)] } : Session)) := by
  have whole : session ++ ({ satisfied := [(key, kind)] } : Session) =
      { session with satisfied := session.satisfied ++ [(key, kind)] } := by ext1 <;> simp
  rw [satisfy, kind?_eq_none_iff.mpr fresh, whole]

theorem addValue_adds (session : Session) (key : DirectKey) (origin : ValueOrigin) :
    session.addValue key origin = session ++ { values := [key.value origin] } := by
  ext1 <;> simp [addValue, DirectKey.value]

theorem addCached_adds (session : Session) (key : DirectKey) (recipe : Recipe)
    (arguments : List Argument) (closeOnTeardown : Bool) :
    session.addCached key recipe arguments closeOnTeardown =
      session ++ { cached := [key.cached session.cached.length recipe arguments closeOnTeardown] } := by
  ext1 <;> simp [addCached, DirectKey.cached]

/-! ## Reading parameters -/

theorem readAll_adds {next : Session} {requirer : String} {params : List QualifiedType}
    {arguments : List Argument} (done : session.readAll requirer params = .ok (arguments, next)) :
    ∃ keys noted queued, Key.ofParameters params = .ok keys ∧
      Asking session.needed session.bound keys noted queued ∧
      arguments = keys.map Key.argument ∧
      next = session ++ { required := noted, pending := queued } := by
  obtain ⟨keys, built, done⟩ := bind_eq_ok.mp done
  cases done
  obtain ⟨noted, queued, asking, same⟩ := registerAll_eq session requirer keys
  exact ⟨keys, noted, queued, built, asking, rfl, same⟩

theorem curryAll_adds {next : Session} {interface : TypeExpr} {method : Method}
    {params : List QualifiedType} {target : String} {arguments : List Argument}
    (done : session.curryAll interface method params target = .ok (arguments, next)) :
    ∃ offered wanted noted queued, Key.ofParameters method.params = .ok offered ∧
      Key.ofParameters params = .ok wanted ∧
      (curry offered.zipIdx wanted).2 = [] ∧
      Asking session.needed session.bound
        ((curry offered.zipIdx wanted).1.filterMap Source.key?) noted queued ∧
      arguments = (curry offered.zipIdx wanted).1.map Source.argument ∧
      next = session ++ { required := noted, pending := queued } := by
  obtain ⟨offered, offeredBuilt, done⟩ := bind_eq_ok.mp done
  obtain ⟨wanted, wantedBuilt, done⟩ := bind_eq_ok.mp done
  dsimp only at done
  split at done
  next all =>
    cases done
    obtain ⟨noted, queued, asking, same⟩ := registerAll_eq session target
      ((curry offered.zipIdx wanted).1.filterMap Source.key?)
    exact ⟨offered, wanted, noted, queued, offeredBuilt, wantedBuilt, all, asking, rfl, same⟩
  next => cases done

theorem require_adds {next : Session} {requirer : String} {type : QualifiedType} {key : DirectKey}
    (done : session.require requirer type = .ok (key, next)) :
    ∃ full noted queued, Key.ofType type = .ok full ∧ full.base = key ∧ key.qualified = type ∧
      Asking session.needed session.bound [full] noted queued ∧
      next = session ++ { required := noted, pending := queued } := by
  obtain ⟨full, built, done⟩ := bind_eq_ok.mp done
  obtain ⟨direct, isDirect, done⟩ := bind_eq_ok.mp done
  cases done
  obtain ⟨noted, queued, asking, same⟩ := register_eq session requirer full
  have base : full.base = key := by
    cases full <;> cases isDirect <;> rfl
  have asked : key.qualified = type :=
    DirectKey.qualified_of_ofType (bind_eq_ok.mpr ⟨full, built, isDirect⟩)
  exact ⟨full, noted, queued, built, base, asked, asking, same⟩

variable {next : Session} {catalog : Catalog}

/-! ## Bindings -/

/-- Declaring a value binds its key and adds its slot. -/
theorem seedValue_adds {type : QualifiedType} (done : session.seedValue type = .ok next) :
    ∃ key : DirectKey, key.qualified = type ∧ key.descriptor ∉ session.bound ∧
      next = session ++ { satisfied := [(key, .value)], values := [key.value .declared] } := by
  obtain ⟨key, built, done⟩ := bind_eq_ok.mp done
  obtain ⟨marked, satisfied, done⟩ := bind_eq_ok.mp done
  cases done
  obtain ⟨fresh, rfl⟩ := satisfy_adds satisfied
  refine ⟨key, DirectKey.qualified_of_ofType built, fresh, ?_⟩
  rw [addValue_adds]
  ext1 <;> simp

/-- A constructor binds its type, registers its parameters and adds a cached slot. -/
theorem bindConstructor_adds {type : TypeExpr}
    (done : bindConstructor catalog session type = .ok next) :
    ∃ info constructor key keys noted queued, catalog.find? type.name = some info ∧
      info.selectConstructor = .ok constructor ∧ key.qualified = .plain type ∧
      key.descriptor ∉ session.bound ∧ Key.ofParameters constructor.params = .ok keys ∧
      Asking session.needed (session.bound ++ [key.descriptor]) keys noted queued ∧
      next = session ++
        { satisfied := [(key, .constructor)], required := noted, pending := queued
          cached := [key.cached session.cached.length (.constructor type) (keys.map Key.argument)
            (catalog.isCloseable type)] } := by
  obtain ⟨info, found, done⟩ := bind_eq_ok.mp done
  obtain ⟨constructor, selected, done⟩ := bind_eq_ok.mp done
  obtain ⟨key, built, done⟩ := bind_eq_ok.mp done
  obtain ⟨marked, satisfied, done⟩ := bind_eq_ok.mp done
  obtain ⟨⟨arguments, read⟩, readAll, done⟩ := bind_eq_ok.mp done
  cases done
  obtain ⟨fresh, rfl⟩ := satisfy_adds satisfied
  obtain ⟨keys, noted, queued, params, asking, rfl, rfl⟩ := readAll_adds readAll
  refine ⟨info, constructor, key, keys, noted, queued, Catalog.find?_of_require found, selected,
    DirectKey.qualified_of_ofType built, fresh, params, by simpa using asking, ?_⟩
  rw [addCached_adds]
  ext1 <;> simp

/-- A method that provides binds what it returns, registers its parameters and adds a cached slot;
others add nothing. -/
theorem bindProvided_adds {holderType : TypeExpr} {holder : DirectKey} {method : Method}
    (done : bindProvided catalog holderType holder session method = .ok next) :
    (method.provides = false ∧ next = session) ∨
      ∃ product key keys noted queued, method.provides = true ∧ method.returns = some product ∧
        key.qualified = ⟨product, method.qualifiers⟩ ∧ key.descriptor ∉ session.bound ∧
        Key.ofParameters method.params = .ok keys ∧
        Asking session.needed (session.bound ++ [key.descriptor]) keys noted queued ∧
        next = session ++
          { satisfied := [(key, .provider)], required := noted, pending := queued
            cached := [key.cached session.cached.length
              (.provider holder.identifier holderType method.name) (keys.map Key.argument)
              (catalog.isCloseable product)] } := by
  unfold bindProvided at done
  split at done
  next unprovided =>
    cases done
    exact .inl ⟨by simpa using unprovided, rfl⟩
  next provided =>
    refine .inr ?_
    split at done
    · dsimp only at done
      split at done <;> cases done
    next product returns =>
      dsimp only at done
      split at done
      · cases done
      · obtain ⟨key, built, done⟩ := bind_eq_ok.mp done
        obtain ⟨marked, satisfied, done⟩ := bind_eq_ok.mp done
        obtain ⟨⟨arguments, read⟩, readAll, done⟩ := bind_eq_ok.mp done
        cases done
        obtain ⟨fresh, rfl⟩ := satisfy_adds satisfied
        obtain ⟨keys, noted, queued, params, asking, rfl, rfl⟩ := readAll_adds readAll
        refine ⟨product, key, keys, noted, queued, by simpa using provided, returns,
          DirectKey.qualified_of_ofType built, fresh, params, by simpa using asking, ?_⟩
        rw [addCached_adds]
        ext1 <;> simp

/-- A provider registers its holder and binds what its methods provide. -/
theorem bindProvider_adds {holderType : TypeExpr}
    (done : bindProvider catalog session holderType = .ok next) :
    ∃ full holder noted queued info, Key.ofType (.plain holderType) = .ok full ∧
      full.base = holder ∧ holder.qualified = .plain holderType ∧
      Asking session.needed session.bound [full] noted queued ∧ catalog.find? holderType.name = some info ∧
      info.sortedMethods.foldlM (bindProvided catalog holderType holder)
        (session ++ { required := noted, pending := queued }) = .ok next := by
  obtain ⟨⟨holder, asked⟩, required, done⟩ := bind_eq_ok.mp done
  obtain ⟨info, found, done⟩ := bind_eq_ok.mp done
  obtain ⟨full, noted, queued, built, base, same, asking, rfl⟩ := require_adds required
  exact ⟨full, holder, noted, queued, info, built, base, same, asking,
    Catalog.find?_of_require found, done⟩

/-- A method that is injected curries its parameters and adds an injector; others add nothing. -/
theorem bindInjector_adds {receiverType : TypeExpr} {receiver : DirectKey} {method : Method}
    (done : bindInjector catalog receiverType receiver session method = .ok next) :
    (injectorInterface? method = none ∧ next = session) ∨
      ∃ interface implemented offered wanted noted queued,
        injectorInterface? method = some interface ∧
        catalog.singleMethod interface = .ok implemented ∧
        Key.ofParameters implemented.params = .ok offered ∧
        Key.ofParameters method.params = .ok wanted ∧ (curry offered.zipIdx wanted).2 = [] ∧
        Asking session.needed session.bound
          ((curry offered.zipIdx wanted).1.filterMap Source.key?) noted queued ∧
        next = session ++
          { required := noted, pending := queued
            injectors := [{
              identifier := receiverType.name ++ "_" ++ method.name
              interface
              method := implemented.name
              parameters := implemented.parameters
              receiver := receiver.identifier
              receiverType
              targetMethod := method.name
              arguments := (curry offered.zipIdx wanted).1.map Source.argument
              returnsUnit := method.returns.isNone }] } := by
  unfold bindInjector at done
  split at done
  next none =>
    cases done
    exact .inl ⟨none, rfl⟩
  next interface some =>
    refine .inr ?_
    obtain ⟨implemented, single, done⟩ := bind_eq_ok.mp done
    obtain ⟨⟨arguments, curried⟩, curryAll, done⟩ := bind_eq_ok.mp done
    cases done
    obtain ⟨offered, wanted, noted, queued, offeredBuilt, wantedBuilt, all, asking, rfl, rfl⟩ :=
      curryAll_adds curryAll
    refine ⟨interface, implemented, offered, wanted, noted, queued, some, single, offeredBuilt,
      wantedBuilt, all, asking, ?_⟩
    ext1 <;> simp

/-- A receiver is registered, and its methods that are injected add their injectors. -/
theorem bindInjectors_adds {receiverType : QualifiedType}
    (done : bindInjectors catalog session receiverType = .ok next) :
    ∃ full receiver noted queued info, Key.ofType receiverType = .ok full ∧
      full.base = receiver ∧ receiver.qualified = receiverType ∧
      Asking session.needed session.bound [full] noted queued ∧
      catalog.find? receiverType.type.name = some info ∧
      info.sortedMethods.foldlM (bindInjector catalog receiverType.type receiver)
        (session ++ { required := noted, pending := queued }) = .ok next := by
  obtain ⟨⟨receiver, asked⟩, required, done⟩ := bind_eq_ok.mp done
  obtain ⟨info, found, done⟩ := bind_eq_ok.mp done
  obtain ⟨full, noted, queued, built, base, same, asking, rfl⟩ := require_adds required
  exact ⟨full, receiver, noted, queued, info, built, base, same, asking,
    Catalog.find?_of_require found, done⟩

/-- An alias registers what satisfies it and adds its slot. -/
theorem addAlias_adds {declared : Alias} (done : session.addAlias declared = .ok next) :
    ∃ full noted queued, Key.ofType declared.satisfiedBy.qualified = .ok full ∧
      full.base = declared.satisfiedBy ∧
      Asking session.needed session.bound [full] noted queued ∧
      next = session ++ { required := noted, pending := queued, aliases := [declared.slot] } := by
  obtain ⟨full, built, done⟩ := bind_eq_ok.mp done
  cases done
  obtain ⟨noted, queued, asking, same⟩ := register_eq session declared.dependency.descriptor full
  refine ⟨full, noted, queued, built, ?_, asking, ?_⟩
  · rcases Key.ofType_eq_ok built with ⟨inner, _, deferred, _⟩ | ⟨_, _, base⟩
    · have notLazy := declared.satisfiedBy.notLazy
      rw [deferred] at notLazy
      cases notLazy
    · exact DirectKey.eq_of_qualified base
  · rw [same]
    ext1 <;> simp [Alias.slot]

/-- A factory that is not bound yet is bound, curries the parameters of its product and adds its slot.
-/
theorem bindFactory_adds {interface : QualifiedType}
    (done : session.bindFactory catalog interface = .ok next) :
    (interface.descriptor ∈ session.bound ∧ next = session) ∨
      ∃ key method product info constructor offered wanted noted queued,
        key.qualified = interface ∧ key.descriptor ∉ session.bound ∧
        catalog.singleMethod interface.type = .ok method ∧ method.returns = some product ∧
        catalog.find? product.name = some info ∧ info.selectConstructor = .ok constructor ∧
        Key.ofParameters method.params = .ok offered ∧
        Key.ofParameters constructor.params = .ok wanted ∧ (curry offered.zipIdx wanted).2 = [] ∧
        Asking session.needed (session.bound ++ [key.descriptor])
          ((curry offered.zipIdx wanted).1.filterMap Source.key?) noted queued ∧
        next = session ++
          { satisfied := [(key, .factory)], required := noted, pending := queued
            factories := [{
              identifier := key.identifier
              declared := key.type.simpleName
              descriptor := key.descriptor
              method := method.name
              parameters := method.parameters
              product
              arguments := (curry offered.zipIdx wanted).1.map Source.argument }] } := by
  obtain ⟨key, built, done⟩ := bind_eq_ok.mp done
  have asked := DirectKey.qualified_of_ofType built
  have text : key.descriptor = interface.descriptor := congrArg QualifiedType.descriptor asked
  dsimp only at done
  split at done
  next satisfied =>
    cases done
    exact .inl ⟨text ▸ isSatisfied_iff.mp satisfied, rfl⟩
  next =>
    refine .inr ?_
    obtain ⟨marked, satisfied, done⟩ := bind_eq_ok.mp done
    obtain ⟨fresh, rfl⟩ := satisfy_adds satisfied
    obtain ⟨method, single, done⟩ := bind_eq_ok.mp done
    split at done
    · cases done
    next product returns =>
      obtain ⟨info, found, done⟩ := bind_eq_ok.mp done
      obtain ⟨constructor, selected, done⟩ := bind_eq_ok.mp done
      obtain ⟨⟨arguments, curried⟩, curryAll, done⟩ := bind_eq_ok.mp done
      cases done
      obtain ⟨offered, wanted, noted, queued, offeredBuilt, wantedBuilt, all, asking, rfl, rfl⟩ :=
        curryAll_adds curryAll
      refine ⟨key, method, product, info, constructor, offered, wanted, noted, queued, asked, fresh,
        single, returns, Catalog.find?_of_require found, selected, offeredBuilt, wantedBuilt, all,
        by simpa using asking, ?_⟩
      ext1 <;> simp

/-- A key that is needed but not bound becomes an implicit value, unless values must be declared. -/
theorem addImplicit_adds {explicitValues : Bool} {needed : DirectKey × String}
    (done : session.addImplicit explicitValues needed = .ok next) :
    (needed.1.descriptor ∈ session.bound ∧ next = session) ∨
      (needed.1.descriptor ∉ session.bound ∧ explicitValues = false ∧
        next = session ++ { values := [needed.1.value .implicit] }) := by
  unfold addImplicit at done
  dsimp only at done
  split at done
  next satisfied =>
    cases done
    exact .inl ⟨isSatisfied_iff.mp satisfied, rfl⟩
  next unsatisfied =>
    refine .inr ⟨fun bound => unsatisfied (isSatisfied_iff.mpr bound), ?_⟩
    split at done
    · cases done
    next implicit =>
      cases done
      exact ⟨by simpa using implicit, addValue_adds ..⟩

end Session

end Wiring
