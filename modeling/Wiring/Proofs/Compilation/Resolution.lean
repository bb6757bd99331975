import Mathlib
import Wiring.Proofs.Compilation.References

/-! # Resolution keeps references sound

Each phase of a compilation keeps the invariant of `Session.Sound`, by what the phase adds. The
slots of aliases are planned by the time the factories are drained, and from then on every
satisfied key has its slot. Surfacing gives each other needed key a value slot of its own.

The library is imported as a whole for the example at the end: to compile a builder by evaluation takes
the equations of functions on texts, lists and bytes, and these are spread over all of it.
-/

namespace Wiring

theorem TypeInfo.mem_sortedMethods {info : TypeInfo} {method : Method} :
    method ∈ info.sortedMethods ↔ method ∈ info.methods :=
  (List.mergeSort_perm info.methods Method.precedes).mem_iff

/-- A plain type without tags is plain as a qualified type. -/
theorem QualifiedType.plain_of_type {type : TypeExpr} (plain : type.Plain) :
    (QualifiedType.plain type).Plain :=
  ⟨plain, List.forall_mem_nil _⟩

theorem Key.plain_of_ofParameters {params : List QualifiedType} {keys : List Key}
    (built : Key.ofParameters params = .ok keys) (plain : ∀ param ∈ params, param.Plain) :
    ∀ key ∈ keys, key.base.qualified.Plain := by
  intro key member
  obtain ⟨param, listed, same⟩ := Key.mem_ofParameters built member
  exact Key.plain_of_ofType same (plain param listed)

/-- Currying asks the scope for plain keys if the parameters are plain. -/
theorem Key.plain_of_curry (offers : Offers) {params : List QualifiedType} {wanted : List Key}
    (built : Key.ofParameters params = .ok wanted) (plain : ∀ param ∈ params, param.Plain) :
    ∀ key ∈ (curry offers wanted).1.filterMap Source.key?, key.base.qualified.Plain :=
  fun key member => Key.plain_of_ofParameters built plain key (curry_scope_mem member)

namespace Session

variable {builder : Builder} {session next : Session} {keys : List Key}
  {noted : List (DirectKey × String)} {queued : List QualifiedType} {bound : List String}

theorem Asking.plain_noted (asking : Asking session.needed bound keys noted queued)
    (plain : ∀ key ∈ keys, key.base.qualified.Plain) : ∀ entry ∈ noted, entry.1.qualified.Plain := by
  intro entry member
  obtain ⟨key, asked, same⟩ := asking.noted_base entry member
  exact same ▸ plain key asked

/-- Plain keys queue plain types. -/
theorem Asking.plain_queued (asking : Asking session.needed bound keys noted queued)
    (plain : ∀ key ∈ keys, key.base.qualified.Plain) : ∀ item ∈ queued, item.Plain := by
  intro item member
  obtain ⟨key, asked, same⟩ := asking.queued_base item member
  exact same ▸ plain key asked

/-- Whatever else is added along with them, the keys asked for are needed from then on. -/
theorem Asking.asks (asking : Asking session.needed bound keys noted queued)
    (plain : ∀ key ∈ keys, key.base.qualified.Plain) (added : Session) (adds : added.required = noted) :
    ∀ key ∈ keys, (session ++ added).Asks key.base.qualified key.identifier := by
  intro key member
  refine ⟨key.base, rfl, plain key member, ?_, rfl⟩
  rw [needed_append, show added.needed = noted.map (·.1.descriptor) from congrArg _ adds]
  exact asking.covers key member

theorem Sound.asking (sound : session.Sound builder)
    (asking : Asking session.needed bound keys noted queued)
    (plain : ∀ key ∈ keys, key.base.qualified.Plain) :
    (session ++ { required := noted, pending := queued }).Sound builder :=
  sound.append (asking.plain_noted plain) (asking.plain_queued plain) (List.forall_mem_nil _)
    (by constructor <;> simp [plan])

/-! ## Bindings -/

private theorem sound_start (plain : builder.Plain) :
    Sound builder { pending := builder.declarations.factories } := by
  refine ⟨List.forall_mem_nil _, List.forall_mem_nil _, plain.declarations.factories,
    List.forall_mem_nil _, ?_⟩
  constructor <;> simp [plan]

private theorem sound_seedValue {type : QualifiedType} (plain : type.Plain)
    (done : session.seedValue type = .ok next) (sound : session.Sound builder) :
    next.Sound builder := by
  obtain ⟨key, rfl, _, rfl⟩ := seedValue_adds done
  refine sound.append (List.forall_mem_nil _) (List.forall_mem_nil _) ?_ (by constructor <;> simp [plan])
  exact List.forall_mem_singleton.mpr
    ⟨plain, .inr (holds_of_value (List.mem_append_right _ List.mem_cons_self))⟩

private theorem sound_seedAlias (plain : builder.Plain) {declared : Alias}
    (member : declared ∈ builder.declarations.aliases) (done : session.seedAlias declared = .ok next)
    (sound : session.Sound builder) : next.Sound builder := by
  obtain ⟨_, rfl⟩ := satisfy_adds done
  refine sound.append (List.forall_mem_nil _) (List.forall_mem_nil _) ?_ (by constructor <;> simp [plan])
  exact List.forall_mem_singleton.mpr
    ⟨(plain.declarations.aliases declared member).1, .inl ⟨declared, member, rfl⟩⟩

private theorem sound_bindConstructor (plain : builder.Plain) {type : TypeExpr}
    (member : type ∈ builder.declarations.constructors)
    (done : bindConstructor builder.catalog session type = .ok next) (sound : session.Sound builder) :
    next.Sound builder := by
  obtain ⟨info, constructor, key, keys, noted, queued, found, selected, same, _, built, asking, rfl⟩ :=
    bindConstructor_adds done
  have params := plain.catalog info (Catalog.find?_mem found)
    |>.constructors constructor (TypeInfo.mem_of_selectConstructor selected)
  have plainKeys := Key.plain_of_ofParameters built params
  refine sound.append (asking.plain_noted plainKeys) (asking.plain_queued plainKeys) ?_
    ⟨by simp [plan], ?_, by simp [plan], by simp [plan]⟩
  · refine List.forall_mem_singleton.mpr ⟨?_, .inr ?_⟩
    · exact same ▸ QualifiedType.plain_of_type (plain.declarations.constructors type member)
    · exact holds_of_cached (List.mem_append_right _ List.mem_cons_self)
  · refine List.forall_mem_singleton.mpr ⟨member, congrArg QualifiedType.descriptor same, info,
      constructor, found, selected, ?_⟩
    exact meeting_arguments (Key.forall₂_ofParameters built) (asking.asks plainKeys _ rfl)

/-- A holder is needed before its methods are bound. -/
theorem sound_bindProvided (plain : builder.Plain) {holderType : TypeExpr} {holder : DirectKey}
    {info : TypeInfo} {method : Method} (declared : holderType ∈ builder.declarations.providers)
    (found : builder.catalog.find? holderType.name = some info) (member : method ∈ info.methods)
    (done : bindProvided builder.catalog holderType holder session method = .ok next)
    (holds : session.Sound builder ∧ session.Asks (.plain holderType) holder.identifier) :
    next.Sound builder ∧ next.Asks (.plain holderType) holder.identifier := by
  obtain ⟨sound, asks⟩ := holds
  rcases bindProvided_adds done with ⟨_, rfl⟩ |
    ⟨product, key, keys, noted, queued, provides, returns, same, _, built, asking, rfl⟩
  · exact ⟨sound, asks⟩
  have signature := (plain.catalog info (Catalog.find?_mem found)).methods method member
  have plainKeys := Key.plain_of_ofParameters built signature.params
  refine ⟨?_, asks.append _⟩
  refine sound.append (asking.plain_noted plainKeys) (asking.plain_queued plainKeys) ?_
    ⟨by simp [plan], ?_, by simp [plan], by simp [plan]⟩
  · refine List.forall_mem_singleton.mpr ⟨?_, .inr ?_⟩
    · exact same ▸ ⟨signature.returns product returns, signature.qualifiers⟩
    · exact holds_of_cached (List.mem_append_right _ List.mem_cons_self)
  · refine List.forall_mem_singleton.mpr ⟨declared, asks.append _, info, method, product, found,
      member, provides, rfl, returns, congrArg QualifiedType.descriptor same, ?_⟩
    exact meeting_arguments (Key.forall₂_ofParameters built) (asking.asks plainKeys _ rfl)

private theorem sound_bindProvider (plain : builder.Plain) {holderType : TypeExpr}
    (member : holderType ∈ builder.declarations.providers)
    (done : bindProvider builder.catalog session holderType = .ok next) (sound : session.Sound builder) :
    next.Sound builder := by
  obtain ⟨full, holder, noted, queued, info, built, rfl, same, asking, found, bound⟩ :=
    bindProvider_adds done
  have plainKeys : ∀ key ∈ [full], key.base.qualified.Plain :=
    List.forall_mem_singleton.mpr
      (same ▸ QualifiedType.plain_of_type (plain.declarations.providers holderType member))
  have asks := asking.asks plainKeys { required := noted, pending := queued } rfl full List.mem_cons_self
  rw [same] at asks
  exact (foldlM_keeps bound
    (fun method listed _ _ =>
      sound_bindProvided plain member found (TypeInfo.mem_sortedMethods.mp listed))
    ⟨sound.asking asking plainKeys, asks⟩).1

/-- A receiver is needed before its methods get injectors. -/
theorem sound_bindInjector (plain : builder.Plain) {receiverType : QualifiedType} {receiver : DirectKey}
    {info : TypeInfo} {method : Method} (declared : receiverType ∈ builder.declarations.injected)
    (found : builder.catalog.find? receiverType.type.name = some info) (member : method ∈ info.methods)
    (done : bindInjector builder.catalog receiverType.type receiver session method = .ok next)
    (holds : session.Sound builder ∧ session.Asks receiverType receiver.identifier) :
    next.Sound builder ∧ next.Asks receiverType receiver.identifier := by
  obtain ⟨sound, asks⟩ := holds
  rcases bindInjector_adds done with ⟨_, rfl⟩ |
    ⟨interface, implemented, offered, wanted, noted, queued, marked, single, offers, built, _, asking,
      rfl⟩
  · exact ⟨sound, asks⟩
  have signature := (plain.catalog info (Catalog.find?_mem found)).methods method member
  have plainKeys := Key.plain_of_curry offered.zipIdx built signature.params
  refine ⟨?_, asks.append _⟩
  refine sound.append (asking.plain_noted plainKeys) (asking.plain_queued plainKeys)
    (List.forall_mem_nil _) ⟨by simp [plan], by simp [plan], by simp [plan], ?_⟩
  refine List.forall_mem_singleton.mpr ⟨receiverType, declared, rfl, asks.append _, info, method,
    implemented, found, member, rfl, marked, single, rfl, ?_⟩
  exact meeting_curry offers built (asking.asks plainKeys _ rfl)

private theorem sound_bindInjectors (plain : builder.Plain) {receiverType : QualifiedType}
    (member : receiverType ∈ builder.declarations.injected)
    (done : bindInjectors builder.catalog session receiverType = .ok next)
    (sound : session.Sound builder) : next.Sound builder := by
  obtain ⟨full, receiver, noted, queued, info, built, rfl, same, asking, found, bound⟩ :=
    bindInjectors_adds done
  have plainKeys : ∀ key ∈ [full], key.base.qualified.Plain :=
    List.forall_mem_singleton.mpr (same ▸ plain.declarations.injected receiverType member)
  have asks := asking.asks plainKeys { required := noted, pending := queued } rfl full List.mem_cons_self
  rw [same] at asks
  exact (foldlM_keeps bound
    (fun method listed _ _ =>
      sound_bindInjector plain member found (TypeInfo.mem_sortedMethods.mp listed))
    ⟨sound.asking asking plainKeys, asks⟩).1

private theorem sound_addAlias (plain : builder.Plain) {declared : Alias}
    (member : declared ∈ builder.declarations.aliases) (done : session.addAlias declared = .ok next)
    (sound : session.Sound builder) : next.Sound builder := by
  obtain ⟨full, noted, queued, _, same, asking, rfl⟩ := addAlias_adds done
  have plainKeys : ∀ key ∈ [full], key.base.qualified.Plain :=
    List.forall_mem_singleton.mpr (same ▸ (plain.declarations.aliases declared member).2)
  refine sound.append (asking.plain_noted plainKeys) (asking.plain_queued plainKeys)
    (List.forall_mem_nil _) ⟨?_, by simp [plan], by simp [plan], by simp [plan]⟩
  refine List.forall_mem_singleton.mpr ⟨declared, member, rfl, rfl, ?_⟩
  have asks := asking.asks plainKeys
    { required := noted, pending := queued, aliases := [declared.slot] } rfl full List.mem_cons_self
  rw [same, Key.identifier, same] at asks
  exact asks

private theorem sound_bindFactory (plain : builder.Plain) {interface : QualifiedType}
    (plainInterface : interface.Plain)
    (done : session.bindFactory builder.catalog interface = .ok next) (sound : session.Sound builder) :
    next.Sound builder := by
  rcases bindFactory_adds done with ⟨_, rfl⟩ | ⟨key, method, product, info, constructor, offered,
    wanted, noted, queued, rfl, _, single, returns, found, selected, offers, built, _, asking, rfl⟩
  · exact sound
  have params := plain.catalog info (Catalog.find?_mem found)
    |>.constructors constructor (TypeInfo.mem_of_selectConstructor selected)
  have plainKeys := Key.plain_of_curry offered.zipIdx built params
  refine sound.append (asking.plain_noted plainKeys) (asking.plain_queued plainKeys) ?_
    ⟨by simp [plan], by simp [plan], ?_, by simp [plan]⟩
  · exact List.forall_mem_singleton.mpr ⟨plainInterface, .inr
      (holds_of_factory (List.mem_append_right _ List.mem_cons_self) rfl rfl)⟩
  · refine List.forall_mem_singleton.mpr ⟨key.qualified, method, info, constructor, rfl, single, rfl,
      rfl, returns, found, selected, ?_⟩
    exact meeting_curry offers built (asking.asks plainKeys _ rfl)

/-! ## Phases -/

private theorem sound_seed (plain : builder.Plain) (done : builder.declarations.seed = .ok session) :
    session.Sound builder := by
  obtain ⟨seeded, values, aliases⟩ := bind_eq_ok.mp done
  have sound := foldlM_keeps values
    (fun type member _ _ => sound_seedValue (plain.declarations.values type member)) (sound_start plain)
  exact foldlM_keeps aliases (fun declared member _ _ => sound_seedAlias plain member) sound

/-- After the declarations of plain names a session is sound. -/
theorem sound_bind (plain : builder.Plain)
    (done : builder.declarations.bind builder.catalog = .ok session) :
    session.Sound builder := by
  obtain ⟨_, _, _, _, _, values, sources, constructors, providers, injectors, aliases⟩ :=
    Declarations.phases_of_bind done
  have sound := sound_seed plain (bind_eq_ok.mpr ⟨_, values, sources⟩)
  have sound :=
    foldlM_keeps constructors (fun type member _ _ => sound_bindConstructor plain member) sound
  have sound := foldlM_keeps providers (fun holder member _ _ => sound_bindProvider plain member) sound
  have sound := foldlM_keeps injectors (fun receiver member _ _ => sound_bindInjectors plain member) sound
  exact foldlM_keeps aliases (fun declared member _ _ => sound_addAlias plain member) sound

/-- The slot of every declared alias is planned. -/
theorem holds_of_bind (done : builder.declarations.bind builder.catalog = .ok session) :
    ∀ declared ∈ builder.declarations.aliases, session.Holds declared.dependency := by
  obtain ⟨_, _, _, _, _, _, _, _, _, _, aliases⟩ := Declarations.phases_of_bind done
  intro declared member
  refine foldlM_reaches (fun declared session => session.Holds declared.dependency) aliases
    ?_ ?_ member
  · intro declared _ before after added
    obtain ⟨_, _, _, _, _, _, rfl⟩ := addAlias_adds added
    exact holds_of_alias (List.mem_append_right _ List.mem_cons_self)
  · intro other _ declared before after added holds
    obtain ⟨_, _, _, _, _, _, rfl⟩ := addAlias_adds added
    exact holds.append _

/-- Draining the queue keeps the invariant and every slot. -/
theorem sound_drain (plain : builder.Plain) (done : session.drain builder.catalog = .ok next)
    (sound : session.Sound builder) : next.Sound builder ∧ ∀ key, session.Holds key → next.Holds key := by
  fun_induction drain builder.catalog session with
  | case1 session empty =>
    cases done
    exact ⟨sound, fun _ holds => holds⟩
  | case2 session interface rest queue error failed => cases done
  | case3 session interface rest queue middle bound ih =>
    have plainInterface : interface.Plain := sound.pending interface (queue ▸ List.mem_cons_self)
    have dequeued : session.dequeued.Sound builder :=
      { sound with pending := fun item member => sound.pending item (List.mem_of_mem_tail member) }
    obtain ⟨last, kept⟩ := ih done (sound_bindFactory plain plainInterface bound dequeued)
    refine ⟨last, fun key holds => kept key ?_⟩
    have holds : session.dequeued.Holds key := holds
    rcases bindFactory_adds bound with
      ⟨_, rfl⟩ | ⟨_, _, _, _, _, _, _, _, _, _, _, _, _, _, _, _, _, _, _, rfl⟩
    · exact holds
    · exact holds.append _

/-- It is sound after all of the resolution, too, and then every satisfied key has its slot. -/
theorem sound_resolve (plain : builder.Plain)
    (done : builder.declarations.resolve builder.catalog = .ok session) :
    session.Sound builder ∧ ∀ entry ∈ session.satisfied, session.Holds entry.1 := by
  obtain ⟨bound, bind, drain⟩ := bind_eq_ok.mp done
  obtain ⟨sound, kept⟩ := sound_drain plain drain (sound_bind plain bind)
  refine ⟨sound, fun entry member => ?_⟩
  rcases sound.held entry member with ⟨declared, listed, same⟩ | holds
  · exact same ▸ kept _ (holds_of_bind bind declared listed)
  · exact holds

/-- The books are the same, and no slot is lost. -/
structure Extends (session next : Session) : Prop where
  required : next.required = session.required
  satisfied : next.satisfied = session.satisfied
  holds : ∀ key, session.Holds key → next.Holds key

private theorem extends_addImplicit {explicitValues : Bool} {needed : DirectKey × String}
    (done : session.addImplicit explicitValues needed = .ok next) : session.Extends next := by
  rcases addImplicit_adds done with ⟨_, rfl⟩ | ⟨_, _, rfl⟩
  · exact ⟨rfl, rfl, fun _ holds => holds⟩
  · exact ⟨by simp, by simp, fun _ holds => holds.append _⟩

/-- A needed key that nothing satisfies becomes a value. -/
theorem holds_of_addImplicit {explicitValues : Bool} {needed : DirectKey × String}
    (done : session.addImplicit explicitValues needed = .ok next) :
    needed.1.descriptor ∈ next.bound ∨ next.Holds needed.1 := by
  rcases addImplicit_adds done with ⟨bound, rfl⟩ | ⟨_, _, rfl⟩
  · exact .inl bound
  · exact .inr (holds_of_value (List.mem_append_right _ List.mem_cons_self))

private theorem sound_addImplicit {explicitValues : Bool} {needed : DirectKey × String}
    (done : session.addImplicit explicitValues needed = .ok next) (sound : session.Sound builder) :
    next.Sound builder := by
  rcases addImplicit_adds done with ⟨_, rfl⟩ | ⟨_, _, rfl⟩
  · exact sound
  · exact sound.append (List.forall_mem_nil _) (List.forall_mem_nil _) (List.forall_mem_nil _)
      (by constructor <;> simp [plan])

/-- After the last phase every needed key has its slot. -/
theorem sound_surface {explicitValues : Bool} (done : session.surface explicitValues = .ok next)
    (sound : session.Sound builder) (held : ∀ entry ∈ session.satisfied, session.Holds entry.1) :
    next.Sound builder ∧ ∀ entry ∈ next.required, next.Holds entry.1 := by
  refine ⟨foldlM_keeps done (fun _ _ _ _ => sound_addImplicit) sound, fun entry member => ?_⟩
  have extended : session.Extends next := by
    have start : session.Extends session := ⟨rfl, rfl, fun _ holds => holds⟩
    refine foldlM_keeps done (fun needed _ before after added grown => ?_) start
    have further := extends_addImplicit added
    exact ⟨further.required.trans grown.required, further.satisfied.trans grown.satisfied,
      fun key holds => further.holds key (grown.holds key holds)⟩
  rw [extended.required] at member
  have covered : entry.1.descriptor ∈ next.bound ∨ next.Holds entry.1 := by
    refine foldlM_reaches (fun needed s => needed.1.descriptor ∈ s.bound ∨ s.Holds needed.1)
      done (fun _ _ _ _ => holds_of_addImplicit) (fun _ _ needed before after added known => ?_) member
    have further := extends_addImplicit added
    exact known.imp (fun bound => by rwa [Session.bound, further.satisfied]) (further.holds _)
  rcases covered with bound | holds
  · obtain ⟨other, listed, same⟩ := List.mem_map.mp bound
    rw [extended.satisfied] at listed
    have key := DirectKey.descriptor_inj (sound.satisfied other listed) (sound.required entry member) same
    exact key ▸ extended.holds _ (held other listed)
  · exact holds

end Session

/-! ## Identifiers of a plan -/

private theorem Plan.firstCollision_eq_none {earlier slots : List Slot}
    (none : firstCollision earlier slots = none) :
    (slots.map (·.identifier)).Nodup ∧
      ∀ slot ∈ slots, ∀ other ∈ earlier, other.identifier ≠ slot.identifier := by
  induction slots generalizing earlier with
  | nil => exact ⟨List.nodup_nil, List.forall_mem_nil _⟩
  | cons head rest ih =>
    rw [firstCollision] at none
    split at none
    · cases none
    next fresh =>
      obtain ⟨nodup, apart⟩ := ih none
      have new : ∀ other ∈ earlier, other.identifier ≠ head.identifier := by simpa using fresh
      refine ⟨List.nodup_cons.mpr ⟨fun again => ?_, nodup⟩, List.forall_mem_cons.mpr ⟨new, ?_⟩⟩
      · obtain ⟨slot, member, same⟩ := List.mem_map.mp again
        exact apart slot member head List.mem_cons_self same.symm
      · exact fun slot member other before => apart slot member other (List.mem_cons_of_mem _ before)

/-- A plan whose identifiers pass their check repeats none. -/
theorem Plan.nodup_of_checkIdentifiers {plan : Plan} (checked : plan.checkIdentifiers = .ok ()) :
    plan.identifiers.Nodup := by
  unfold checkIdentifiers at checked
  split at checked
  · cases checked
  next none => exact (firstCollision_eq_none none).1

/-- Where identifiers differ, an identifier filters out its slot. -/
theorem Plan.filter_identifier {slots : List Slot} (nodup : (slots.map (·.identifier)).Nodup)
    {slot : Slot} (member : slot ∈ slots) :
    slots.filter (·.identifier = slot.identifier) = [slot] := by
  induction slots with
  | nil => cases member
  | cons head rest ih =>
    obtain ⟨fresh, nodup⟩ := List.nodup_cons.mp nodup
    rcases List.mem_cons.mp member with rfl | later
    · rw [List.filter_cons_of_pos (by simp), List.filter_eq_nil_iff.mpr fun other member same => ?_]
      exact fresh (List.mem_map.mpr ⟨other, member, of_decide_eq_true same⟩)
    · rw [List.filter_cons_of_neg ?_, ih nodup later]
      exact fun same => fresh (List.mem_map.mpr ⟨slot, later, (of_decide_eq_true same).symm⟩)

/-! ## Compiled plans -/

/-- A compiled plan is that of a sound session in which every needed key has its slot. -/
theorem Builder.sound_of_compile {builder : Builder} {plan : Plan} (plain : builder.Plain)
    (compiled : builder.compile = .ok plan) :
    ∃ session : Session, plan = session.plan builder.package builder.scopeName ∧
      session.Sound builder ∧ (∀ entry ∈ session.required, session.Holds entry.1) ∧
      plan.identifiers.Nodup ∧ plan.checkCycles = .ok () := by
  obtain ⟨resolved, session, resolve, surface, rfl, checked⟩ := compile_iff_surface.mp compiled
  obtain ⟨identifiers, cycles⟩ := check_bind_eq_ok.mp checked
  obtain ⟨sound, held⟩ := Session.sound_resolve plain resolve
  obtain ⟨sound, covered⟩ := Session.sound_surface surface sound held
  exact ⟨session, rfl, sound, covered, Plan.nodup_of_checkIdentifiers identifiers, cycles⟩

/-- What a needed key is asked for is served by its slot alone. -/
theorem Session.serves_of_asks {builder : Builder} {session : Session} (sound : session.Sound builder)
    (covered : ∀ entry ∈ session.required, session.Holds entry.1)
    (nodup : (session.slots.map (·.identifier)).Nodup) {asked : QualifiedType} {identifier : String}
    (asks : session.Asks asked identifier) (package scopeName : String) :
    (session.plan package scopeName).Serves asked identifier := by
  obtain ⟨key, rfl, plain, needed, rfl⟩ := asks
  obtain ⟨entry, required, same⟩ := List.mem_map.mp needed
  obtain rfl : entry.1 = key := DirectKey.descriptor_inj (sound.required entry required) plain same
  obtain ⟨slot, member, identifier, text⟩ := covered entry required
  exact ⟨slot, identifier ▸ Plan.filter_identifier nodup member, text⟩

/-- Among plain names, every reference of a compiled plan names exactly one slot, that of the very
key that it was made for. -/
theorem Builder.wired_of_compile {builder : Builder} {plan : Plan} (plain : builder.Plain)
    (compiled : builder.compile = .ok plan) : plan.Wired builder plan.Serves := by
  obtain ⟨session, rfl, sound, covered, nodup, _⟩ := sound_of_compile plain compiled
  have wired := sound.wired.mono fun asked identifier asks =>
    Session.serves_of_asks sound covered nodup asks builder.package builder.scopeName
  exact ⟨wired.aliases, wired.cached, wired.factories, wired.injectors⟩

/-- A garage provides the radio of a car and parks vehicles, and cars are vehicles. The engine is
supplied by whoever opens the scope or asks for one more car. -/
def Builder.garage : Builder where
  catalog := ⟨[
    { name := "Car"
      constructors := [{ params := [.plain (.named "Engine"), .plain (.lazy (.named "Radio"))] }] },
    { name := "CarFactory"
      methods := [
        { name := "build", params := [.plain (.named "Engine")], returns := some (.named "Car") }] },
    { name := "Garage"
      constructors := [{}]
      methods := [
        { name := "park", params := [.plain (.named "Vehicle")], injected := true },
        { name := "tune", returns := some (.named "Radio"), provides := true }] }], by decide⟩
  package := "demo"
  scopeName := "City"
  declarations := {
    constructors := [.named "Car", .named "Garage"]
    aliases := [⟨⟨.plain (.named "Vehicle"), rfl⟩, ⟨.plain (.named "Car"), rfl⟩⟩]
    providers := [.named "Garage"]
    factories := [.plain (.named "CarFactory")]
    injected := [.plain (.named "Garage")] }

theorem Builder.garage_plain : garage.Plain := by decide +kernel

theorem Builder.wired_garage : garage.Plain ∧ ∃ plan, garage.compile = .ok plan ∧
    plan.identifiers = ["engine", "vehicle", "car", "garage", "radio", "carFactory", "Garage_park"] ∧
      plan.Wired garage plan.Serves := by
  have plain : garage.Plain := garage_plain
  have compiled : ∃ plan, garage.compile = .ok plan ∧ plan.identifiers =
      ["engine", "vehicle", "car", "garage", "radio", "carFactory", "Garage_park"] := ⟨_, by cbv, rfl⟩
  obtain ⟨plan, compiled, identifiers⟩ := compiled
  exact ⟨plain, plan, compiled, identifiers, wired_of_compile plain compiled⟩

end Wiring
