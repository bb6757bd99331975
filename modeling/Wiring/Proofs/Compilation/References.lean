import Wiring.Proofs.Compilation.Growth
import Wiring.Proofs.PlainNames

/-! # References of a compiled plan

Slots refer to each other by identifier, while a compilation keeps its books by descriptor. A slot
may be referred to long before it is planned: by an argument whose factory is still queued, or
whose key nothing satisfies, so that it becomes a value in the end. What links the two is an
invariant of the session: a reference is made only to a needed key, and a satisfied key has its
slot, that of an alias excepted, which is planned after the bindings. With plain names a
descriptor determines its key, and with it the identifier.

Main statement: every reference of a compiled plan names exactly one slot, that of the very key it
was made for.
-/

namespace Wiring

/-- The descriptor of the key that the slot answers; an injector answers none. -/
def Slot.keyText? : Slot → Option String
  | value slot => some slot.descriptor
  | aliased slot => some slot.descriptor
  | cached slot => some slot.descriptor
  | factory slot => some slot.descriptor
  | injector _ => none

/-- Exactly one slot carries the identifier, and it is the slot of what is asked for. -/
def Plan.Serves (plan : Plan) (asked : QualifiedType) (identifier : String) : Prop :=
  ∃ slot, plan.slots.filter (·.identifier = identifier) = [slot] ∧
    slot.keyText? = some asked.descriptor

/-- Which identifiers may stand for what is asked for. -/
abbrev Refers := QualifiedType → String → Prop

/-- The argument is a handle exactly for a parameter that is one, and refers to the instance behind
the parameter; the caller passes it at one of so many positions otherwise. -/
def Argument.Meets (refers : Refers) (callers : Nat) (param : QualifiedType) : Argument → Prop
  | slot identifier => param.type.isLazy = false ∧ refers param identifier
  | lazy identifier =>
    ∃ inner, param.type = .lazy inner ∧ refers ⟨inner, param.qualifiers⟩ identifier
  | curried index => index.toNat < callers

/-- Arguments meet parameters position by position. -/
abbrev Meeting (refers : Refers) (callers : Nat) (params : List QualifiedType)
    (arguments : List Argument) : Prop :=
  List.Forall₂ (Argument.Meets refers callers) params arguments

section Wired

variable (builder : Builder) (refers : Refers)

/-- The slot is that of a declared alias and refers to its satisfier. -/
def AliasSlot.Wired (slot : AliasSlot) : Prop :=
  ∃ declared ∈ builder.declarations.aliases, slot.identifier = declared.dependency.identifier ∧
    slot.descriptor = declared.dependency.descriptor ∧
    refers declared.satisfiedBy.qualified slot.target

/-- The arguments of a bound type meet the parameters of its selected constructor; those of a
provided method, which also refers to its holder, meet its parameters. -/
def CachedSlot.Wired (slot : CachedSlot) : Prop :=
  match slot.recipe with
  | .constructor type =>
    type ∈ builder.declarations.constructors ∧
      slot.descriptor = (QualifiedType.plain type).descriptor ∧
      ∃ info constructor, builder.catalog.find? type.name = some info ∧
        info.selectConstructor = .ok constructor ∧
        Meeting refers 0 constructor.params slot.arguments
  | .provider holder holderType name =>
    holderType ∈ builder.declarations.providers ∧ refers (.plain holderType) holder ∧
      ∃ info method product, builder.catalog.find? holderType.name = some info ∧
        method ∈ info.methods ∧ method.provides = true ∧ method.name = name ∧
        method.returns = some product ∧
        slot.descriptor = (QualifiedType.mk product method.qualifiers).descriptor ∧
        Meeting refers 0 method.params slot.arguments

/-- The slot implements the one method of its interface, and its arguments meet the parameters of
the selected constructor of the product. -/
def FactorySlot.Wired (slot : FactorySlot) : Prop :=
  ∃ (interface : QualifiedType) (method : Method) (info : TypeInfo) (constructor : Constructor),
    slot.descriptor = interface.descriptor ∧
    builder.catalog.singleMethod interface.type = .ok method ∧
    slot.method = method.name ∧ slot.parameters = method.parameters ∧
    method.returns = some slot.product ∧
    builder.catalog.find? slot.product.name = some info ∧
    info.selectConstructor = .ok constructor ∧
    Meeting refers slot.parameters.length constructor.params slot.arguments

/-- The slot implements the one method of its interface for a method of a declared receiver, to
which it refers, and its arguments meet the parameters of that method. -/
def InjectorSlot.Wired (slot : InjectorSlot) : Prop :=
  ∃ receiver ∈ builder.declarations.injected, receiver.type = slot.receiverType ∧
    refers receiver slot.receiver ∧
    ∃ info method implemented, builder.catalog.find? slot.receiverType.name = some info ∧
      method ∈ info.methods ∧ method.name = slot.targetMethod ∧
      Session.injectorInterface? method = some slot.interface ∧
      builder.catalog.singleMethod slot.interface = .ok implemented ∧
      slot.parameters = implemented.parameters ∧
      Meeting refers slot.parameters.length method.params slot.arguments

/-- Every slot that refers to others is wired. -/
structure Plan.Wired (plan : Plan) : Prop where
  aliases : ∀ slot ∈ plan.aliases, slot.Wired builder refers
  cached : ∀ slot ∈ plan.cached, slot.Wired builder refers
  factories : ∀ slot ∈ plan.factories, slot.Wired builder refers
  injectors : ∀ slot ∈ plan.injectors, slot.Wired builder refers

end Wired

section Monotone

variable {builder : Builder} {refers refers' : Refers}

/-- An argument that meets a parameter still does where more is referred to. -/
theorem Argument.Meets.mono
    (weaker : ∀ asked identifier, refers asked identifier → refers' asked identifier)
    {callers : Nat} {param : QualifiedType} {argument : Argument}
    (meets : argument.Meets refers callers param) : argument.Meets refers' callers param := by
  cases argument with
  | slot identifier => exact ⟨meets.1, weaker _ _ meets.2⟩
  | lazy identifier =>
    obtain ⟨inner, deferred, refers⟩ := meets
    exact ⟨inner, deferred, weaker _ _ refers⟩
  | curried index => exact meets

/-- A plan that is wired stays wired where more is referred to. -/
theorem Plan.Wired.mono (weaker : ∀ asked identifier, refers asked identifier → refers' asked identifier)
    {plan : Plan} (wired : plan.Wired builder refers) : plan.Wired builder refers' := by
  have meeting {callers params arguments} (meets : Meeting refers callers params arguments) :
      Meeting refers' callers params arguments := meets.imp fun _ _ => Argument.Meets.mono weaker
  refine ⟨fun slot member => ?_, fun slot member => ?_, fun slot member => ?_, fun slot member => ?_⟩
  · obtain ⟨declared, member, identifier, descriptor, target⟩ := wired.aliases slot member
    exact ⟨declared, member, identifier, descriptor, weaker _ _ target⟩
  · have cached := wired.cached slot member
    unfold CachedSlot.Wired at cached ⊢
    split at cached
    · obtain ⟨declared, text, info, constructor, found, selected, meets⟩ := cached
      exact ⟨declared, text, info, constructor, found, selected, meeting meets⟩
    · obtain ⟨declared, holder, info, method, product, found, listed, provides, name, returns, text,
        meets⟩ := cached
      exact ⟨declared, weaker _ _ holder, info, method, product, found, listed, provides, name,
        returns, text, meeting meets⟩
  · obtain ⟨interface, method, info, constructor, text, single, name, parameters, returns, found,
      selected, meets⟩ := wired.factories slot member
    exact ⟨interface, method, info, constructor, text, single, name, parameters, returns, found,
      selected, meeting meets⟩
  · obtain ⟨receiver, declared, type, reference, info, method, implemented, found, listed, name,
      interface, single, parameters, meets⟩ := wired.injectors slot member
    exact ⟨receiver, declared, type, weaker _ _ reference, info, method, implemented, found, listed,
      name, interface, single, parameters, meeting meets⟩

end Monotone

section Arguments

/-! ## Arguments of planned slots -/

variable {refers : Refers} {callers : Nat} {param : QualifiedType} {params : List QualifiedType}
  {key : Key} {keys : List Key} {sources : List Source}

/-- The key of a parameter with plain names has plain names. -/
theorem Key.plain_of_ofType (built : Key.ofType param = .ok key) (plain : param.Plain) :
    key.base.qualified.Plain := by
  rcases Key.ofType_eq_ok built with ⟨inner, notLazy, deferred, rfl⟩ | ⟨_, _, same⟩
  · have inside : ∀ name ∈ inner.allNames, IsPlain name := fun name member =>
      plain.type name (by simp [deferred, TypeExpr.lazy, TypeExpr.allNames, TypeExpr.allNamesOf, member])
    exact ⟨inside, plain.qualifiers⟩
  · exact same ▸ plain

theorem Key.argument_meets (built : Key.ofType param = .ok key)
    (refersKey : refers key.base.qualified key.identifier) :
    key.argument.Meets refers callers param := by
  rcases Key.ofType_eq_ok built with ⟨inner, notLazy, deferred, rfl⟩ | ⟨direct, notLazy, same⟩
  · exact ⟨inner, deferred, refersKey⟩
  · rw [Key.argument, notLazy]
    exact ⟨direct, same ▸ refersKey⟩

/-- The arguments of keys meet the parameters that these are the keys of. -/
theorem meeting_arguments (built : List.Forall₂ (fun param key => Key.ofType param = .ok key) params keys)
    (refersKeys : ∀ key ∈ keys, refers key.base.qualified key.identifier) :
    Meeting refers callers params (keys.map Key.argument) := by
  induction built with
  | nil => exact .nil
  | cons first _ ih =>
    exact .cons (Key.argument_meets first (refersKeys _ List.mem_cons_self))
      (ih fun key member => refersKeys key (List.mem_cons_of_mem _ member))

private theorem meeting_sources
    (built : List.Forall₂ (fun param key => Key.ofType param = .ok key) params keys)
    (origins : List.Forall₂ (fun key source => source = .scope key ∨
      ∃ position < callers, source = .caller position) keys sources)
    (refersKeys : ∀ key ∈ sources.filterMap Source.key?, refers key.base.qualified key.identifier) :
    Meeting refers callers params (sources.map Source.argument) := by
  induction built generalizing sources with
  | nil =>
    cases origins
    exact .nil
  | cons first _ ih =>
    cases origins with
    | cons origin others =>
      rcases origin with rfl | ⟨position, bounded, rfl⟩
      · refine .cons (Key.argument_meets first (refersKeys _ List.mem_cons_self)) (ih others ?_)
        exact fun key member => refersKeys key (List.mem_cons_of_mem _ member)
      · refine .cons (lt_of_le_of_lt ?_ bounded) (ih others refersKeys)
        rw [UInt64.toNat_ofNat']
        exact Nat.mod_le _ _

/-- Curried arguments meet the parameters of the target: a position is one of the interface. -/
theorem meeting_curry {implemented : Method} {offered wanted : List Key}
    (offers : Key.ofParameters implemented.params = .ok offered)
    (built : Key.ofParameters params = .ok wanted)
    (refersKeys : ∀ key ∈ (curry offered.zipIdx wanted).1.filterMap Source.key?,
      refers key.base.qualified key.identifier) :
    Meeting refers implemented.parameters.length params
      ((curry offered.zipIdx wanted).1.map Source.argument) := by
  refine meeting_sources (Key.forall₂_ofParameters built) ?_ refersKeys
  refine (forall₂_curry offered.zipIdx wanted).imp fun key source origin => origin.imp_right ?_
  rintro ⟨⟨offer, position⟩, listed, _, rfl⟩
  have bounded := List.snd_lt_of_mem_zipIdx listed
  have counted := (Key.forall₂_ofParameters offers).length_eq
  exact ⟨_, by simp only [Method.parameters, List.length_map]; omega, rfl⟩

end Arguments

namespace Session

variable {builder : Builder} {session added next : Session}

def slots (session : Session) : List Slot := (session.plan "" "").slots

/-- The identifier is that of a needed key with plain names. -/
def Asks (session : Session) : Refers := fun asked identifier =>
  ∃ key : DirectKey, key.qualified = asked ∧ asked.Plain ∧ key.descriptor ∈ session.needed ∧
    identifier = key.identifier

/-- The slot of the key is planned. -/
def Holds (session : Session) (key : DirectKey) : Prop :=
  ∃ slot ∈ session.slots, slot.identifier = key.identifier ∧ slot.keyText? = some key.descriptor

/-- Every key that the session knows has plain names, every satisfied key has its slot or is that of
a declared alias, and every reference is made to a needed key. -/
structure Sound (builder : Builder) (session : Session) : Prop where
  required : ∀ entry ∈ session.required, entry.1.qualified.Plain
  satisfied : ∀ entry ∈ session.satisfied, entry.1.qualified.Plain
  pending : ∀ item ∈ session.pending, item.Plain
  held : ∀ entry ∈ session.satisfied,
    (∃ declared ∈ builder.declarations.aliases, declared.dependency = entry.1) ∨ session.Holds entry.1
  wired : (session.plan "" "").Wired builder session.Asks

/-- A planned slot is of one of the five kinds. -/
theorem mem_slots {slot : Slot} : slot ∈ session.slots ↔
    (∃ value ∈ session.values, .value value = slot) ∨
    (∃ «alias» ∈ session.aliases, .aliased «alias» = slot) ∨
    (∃ cached ∈ session.cached, .cached cached = slot) ∨
    (∃ factory ∈ session.factories, .factory factory = slot) ∨
    ∃ injector ∈ session.injectors, .injector injector = slot := by
  simp [slots, Plan.slots, plan]

section Holding

variable {key : DirectKey}

theorem holds_of_value {origin : ValueOrigin} (member : key.value origin ∈ session.values) :
    session.Holds key :=
  ⟨_, mem_slots.mpr (.inl ⟨_, member, rfl⟩), rfl, rfl⟩

theorem holds_of_alias {declared : Alias} (member : declared.slot ∈ session.aliases) :
    session.Holds declared.dependency :=
  ⟨_, mem_slots.mpr (.inr (.inl ⟨_, member, rfl⟩)), rfl, rfl⟩

theorem holds_of_cached {position : Nat} {recipe : Recipe} {arguments : List Argument} {closes : Bool}
    (member : key.cached position recipe arguments closes ∈ session.cached) : session.Holds key :=
  ⟨_, mem_slots.mpr (.inr (.inr (.inl ⟨_, member, rfl⟩))), rfl, rfl⟩

theorem holds_of_factory {slot : FactorySlot} (member : slot ∈ session.factories)
    (identifier : slot.identifier = key.identifier) (descriptor : slot.descriptor = key.descriptor) :
    session.Holds key :=
  ⟨_, mem_slots.mpr (.inr (.inr (.inr (.inl ⟨_, member, rfl⟩)))), identifier, congrArg some descriptor⟩

end Holding

/-- What is asked for stays asked for. -/
theorem Asks.append {asked : QualifiedType} {identifier : String} (asks : session.Asks asked identifier)
    (added : Session) : (session ++ added).Asks asked identifier := by
  obtain ⟨key, same, plain, needed, text⟩ := asks
  exact ⟨key, same, plain, by rw [needed_append]; exact List.mem_append_left _ needed, text⟩

/-- The slots of an addition join those that are there, list by list. -/
theorem slots_append (session added : Session) :
    (session ++ added).slots.Perm (session.slots ++ added.slots) := by
  refine List.perm_iff_count.mpr fun slot => ?_
  simp only [slots, Plan.slots, plan, append_values, append_aliases, append_cached, append_factories,
    append_injectors, List.map_append, List.count_append]
  omega

private theorem slots_append_left {slot : Slot} (member : slot ∈ session.slots) (added : Session) :
    slot ∈ (session ++ added).slots :=
  (slots_append session added).mem_iff.mpr (List.mem_append_left _ member)

/-- What is planned stays planned. -/
theorem Holds.append {key : DirectKey} (holds : session.Holds key) (added : Session) :
    (session ++ added).Holds key := by
  obtain ⟨slot, member, identifier, text⟩ := holds
  exact ⟨slot, slots_append_left member added, identifier, text⟩

/-- An addition keeps the invariant if it is made of plain keys, of satisfied keys with their slots
and of slots that refer to needed keys. -/
theorem Sound.append (sound : session.Sound builder)
    (required : ∀ entry ∈ added.required, entry.1.qualified.Plain)
    (pending : ∀ item ∈ added.pending, item.Plain)
    (satisfied : ∀ entry ∈ added.satisfied, entry.1.qualified.Plain ∧
      ((∃ declared ∈ builder.declarations.aliases, declared.dependency = entry.1) ∨
        (session ++ added).Holds entry.1))
    (wired : (added.plan "" "").Wired builder (session ++ added).Asks) :
    (session ++ added).Sound builder := by
  have old := sound.wired.mono fun _ _ asks => Asks.append asks added
  refine ⟨?_, ?_, ?_, ?_, ?_⟩
  · exact List.forall_mem_append.mpr ⟨sound.required, required⟩
  · exact List.forall_mem_append.mpr ⟨sound.satisfied, fun entry member => (satisfied entry member).1⟩
  · exact List.forall_mem_append.mpr ⟨sound.pending, pending⟩
  · exact List.forall_mem_append.mpr
      ⟨fun entry member => (sound.held entry member).imp_right (·.append added),
        fun entry member => (satisfied entry member).2⟩
  · exact ⟨List.forall_mem_append.mpr ⟨old.aliases, wired.aliases⟩,
      List.forall_mem_append.mpr ⟨old.cached, wired.cached⟩,
      List.forall_mem_append.mpr ⟨old.factories, wired.factories⟩,
      List.forall_mem_append.mpr ⟨old.injectors, wired.injectors⟩⟩

end Session

end Wiring
