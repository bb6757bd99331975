import Wiring.Proofs.Compilation.Resolution

/-! # What is brought into a plan

Whatever is declared satisfies some keys and reads others from the scope, and so does a generated
factory. A compilation gathers these contributions, in the order of its phases and of the
declarations: the satisfied keys are those that are bound, the keys read from the scope are needed,
each from its first reading on, and those among them that ask for factories are queued. A key that is
bound when it is read is not queued, and one that is bound later is skipped, so queues are compared
up to what is bound in the end.
-/

namespace Wiring

/-- The slot of a generated factory. -/
def DirectKey.generated (key : DirectKey) (method : Method) (product : TypeExpr)
    (arguments : List Argument) : FactorySlot :=
  { identifier := key.identifier
    declared := key.type.simpleName
    descriptor := key.descriptor
    method := method.name
    parameters := method.parameters
    product, arguments }

/-- What a declaration or a generated factory brings into a plan. -/
@[ext] structure Contribution where
  /-- Keys that it satisfies. -/
  binds : List DirectKey := []
  /-- Keys that it reads from the scope, each as often as it is read. -/
  asks : List Key := []
  values : List ValueSlot := []
  factories : List FactorySlot := []

/-- No such descriptor is bound. -/
def QualifiedType.isUnbound (bound : List String) (item : QualifiedType) : Bool :=
  !bound.contains item.descriptor

/-- A type is unbound if its descriptor is not among those that are bound. -/
theorem QualifiedType.isUnbound_iff {bound : List String} {item : QualifiedType} :
    item.isUnbound bound = true ↔ item.descriptor ∉ bound := by
  simp [isUnbound]

/-- Among plain names, binding one more item leaves all others as they are. -/
theorem QualifiedType.isUnbound_concat {bound : List String} {item other : QualifiedType}
    (plain : item.Plain) (plainOther : other.Plain) :
    item.isUnbound (bound ++ [other.descriptor]) = (!(item == other) && item.isUnbound bound) := by
  have same : item.descriptor = other.descriptor ↔ item = other :=
    ⟨QualifiedType.descriptor_inj plain plainOther, congrArg _⟩
  rw [Bool.eq_iff_iff, isUnbound_iff]
  simp [isUnbound_iff, same, and_comm]

namespace Contribution

/-- What the first one brings, followed by what the second one brings. -/
instance : Append Contribution where
  append part other :=
    { binds := part.binds ++ other.binds
      asks := part.asks ++ other.asks
      values := part.values ++ other.values
      factories := part.factories ++ other.factories }

def join (parts : List Contribution) : Contribution := parts.foldr (· ++ ·) {}

def bound (part : Contribution) : List String := part.binds.map (·.descriptor)

/-- The instances behind the keys that are read. -/
def needs (part : Contribution) : List DirectKey := part.asks.map (·.base)

/-- The factories among the keys that are read. -/
def queue (part : Contribution) : List QualifiedType :=
  (part.asks.filter (·.isAutoFactory)).map (·.base.qualified)

variable (part other : Contribution) (parts : List Contribution)

@[simp] theorem append_binds : (part ++ other).binds = part.binds ++ other.binds := rfl
@[simp] theorem append_asks : (part ++ other).asks = part.asks ++ other.asks := rfl
@[simp] theorem append_values : (part ++ other).values = part.values ++ other.values := rfl
@[simp] theorem append_factories : (part ++ other).factories = part.factories ++ other.factories := rfl

@[simp] theorem append_bound : (part ++ other).bound = part.bound ++ other.bound :=
  List.map_append
@[simp] theorem append_needs : (part ++ other).needs = part.needs ++ other.needs :=
  List.map_append
@[simp] theorem append_queue : (part ++ other).queue = part.queue ++ other.queue := by
  simp [queue]

@[simp] theorem empty_append : ({} : Contribution) ++ part = part := by ext1 <;> simp

@[simp] theorem join_nil : join [] = {} := rfl
@[simp] theorem join_cons : join (part :: parts) = part ++ join parts := rfl

private theorem append_assoc (third : Contribution) :
    part ++ other ++ third = part ++ (other ++ third) := by
  ext1 <;> simp

/-- Contributions can be joined in parts. -/
theorem join_append (others : List Contribution) : join (parts ++ others) = join parts ++ join others := by
  induction parts with
  | nil => simp
  | cons part rest ih => simp [ih, append_assoc]

variable {part other parts}

/-- What every item brings and what is kept by appending holds of all that they bring. -/
theorem join_keeps {α : Type} {of : α → Contribution → Prop} {items : List α} {kept : Contribution → Prop}
    (related : List.Forall₂ of items parts) (empty : kept {})
    (append : ∀ part other, kept part → kept other → kept (part ++ other))
    (each : ∀ item ∈ items, ∀ part, of item part → kept part) : kept (join parts) := by
  induction related with
  | nil => exact empty
  | cons first _ ih =>
    obtain ⟨head, others⟩ := List.forall_mem_cons.mp each
    exact append _ _ (head _ first) (ih others)

/-- What a part queues is queued by the whole. -/
theorem queue_subset_join (member : part ∈ parts) : part.queue ⊆ (join parts).queue := by
  induction parts with
  | nil => cases member
  | cons head rest ih =>
    rw [join_cons, append_queue]
    rcases List.mem_cons.mp member with rfl | later
    · exact List.subset_append_left _ _
    · exact List.subset_append_of_subset_right _ (ih later)

section Kinds

/-! ## Kinds of contributions -/

def OfValue (type : QualifiedType) (part : Contribution) : Prop :=
  ∃ key : DirectKey, key.qualified = type ∧
    part = { binds := [key], values := [key.value .declared] }

/-- An alias satisfies its dependency. -/
def OfSource (declared : Alias) (part : Contribution) : Prop :=
  part = { binds := [declared.dependency] }

/-- A constructed type satisfies its key and reads the parameters of its selected constructor. -/
def OfConstructor (catalog : Catalog) (type : TypeExpr) (part : Contribution) : Prop :=
  ∃ (info : TypeInfo) (constructor : Constructor) (key : DirectKey) (keys : List Key),
    catalog.find? type.name = some info ∧ info.selectConstructor = .ok constructor ∧
    key.qualified = .plain type ∧ Key.ofParameters constructor.params = .ok keys ∧
    part = { binds := [key], asks := keys }

/-- A method that provides something satisfies the key of its product and reads its parameters. -/
def OfProvided (method : Method) (part : Contribution) : Prop :=
  (method.provides = false ∧ part = {}) ∨
    ∃ (product : TypeExpr) (key : DirectKey) (keys : List Key),
      method.provides = true ∧ method.returns = some product ∧
      key.qualified = ⟨product, method.qualifiers⟩ ∧ Key.ofParameters method.params = .ok keys ∧
      part = { binds := [key], asks := keys }

/-- A holder is read, and then come the methods that it has. -/
def OfProvider (catalog : Catalog) (holderType : TypeExpr) (part : Contribution) : Prop :=
  ∃ (holder : Key) (info : TypeInfo) (parts : List Contribution),
    Key.ofType (.plain holderType) = .ok holder ∧ catalog.find? holderType.name = some info ∧
    List.Forall₂ OfProvided info.sortedMethods parts ∧
    part = { asks := [holder] } ++ join parts

/-- Where the arguments for the target parameters come from, when the interface is called. -/
def Curried (interface target : List QualifiedType) (sources : List Source) : Prop :=
  ∃ offered wanted, Key.ofParameters interface = .ok offered ∧ Key.ofParameters target = .ok wanted ∧
    sources = (curry offered.zipIdx wanted).1

/-- A method with an injector reads the parameters that its interface does not pass on. -/
def OfInjected (catalog : Catalog) (method : Method) (part : Contribution) : Prop :=
  (Session.injectorInterface? method = none ∧ part = {}) ∨
    ∃ (interface : TypeExpr) (implemented : Method) (sources : List Source),
      Session.injectorInterface? method = some interface ∧
      catalog.singleMethod interface = .ok implemented ∧
      Curried implemented.params method.params sources ∧
      part = { asks := sources.filterMap Source.key? }

/-- A receiver is read, and then come the methods that it has. -/
def OfReceiver (catalog : Catalog) (receiverType : QualifiedType) (part : Contribution) : Prop :=
  ∃ (receiver : Key) (info : TypeInfo) (parts : List Contribution),
    Key.ofType receiverType = .ok receiver ∧ catalog.find? receiverType.type.name = some info ∧
    List.Forall₂ (OfInjected catalog) info.sortedMethods parts ∧
    part = { asks := [receiver] } ++ join parts

def OfAlias (declared : Alias) (part : Contribution) : Prop :=
  ∃ target, Key.ofType declared.satisfiedBy.qualified = .ok target ∧ part = { asks := [target] }

/-- A generated factory satisfies the key of its interface and reads the constructor parameters of
its product that the interface does not pass on. -/
def OfFactory (catalog : Catalog) (interface : QualifiedType) (part : Contribution) : Prop :=
  ∃ (key : DirectKey) (method : Method) (product : TypeExpr) (info : TypeInfo)
    (constructor : Constructor) (sources : List Source),
    key.qualified = interface ∧ catalog.singleMethod interface.type = .ok method ∧
    method.returns = some product ∧ catalog.find? product.name = some info ∧
    info.selectConstructor = .ok constructor ∧ Curried method.params constructor.params sources ∧
    part = { binds := [key], asks := sources.filterMap Source.key?
             factories := [key.generated method product (sources.map Source.argument)] }

end Kinds

section Plain

/-! ## Contributions with plain names -/

/-- Satisfied keys have plain names, and so has whatever is read. -/
structure Plain (part : Contribution) : Prop where
  binds : ∀ key ∈ part.binds, key.qualified.Plain
  asks : ∀ key ∈ part.asks, ∃ asked : QualifiedType, asked.Plain ∧ Key.ofType asked = .ok key

variable {catalog : Catalog}

theorem plain_empty : Plain {} := ⟨List.forall_mem_nil _, List.forall_mem_nil _⟩

/-- Two plain contributions are plain together. -/
theorem Plain.append (plain : part.Plain) (plain' : other.Plain) : (part ++ other).Plain :=
  ⟨List.forall_mem_append.mpr ⟨plain.binds, plain'.binds⟩,
    List.forall_mem_append.mpr ⟨plain.asks, plain'.asks⟩⟩

/-- Contributions that are plain each are plain when joined. -/
theorem plain_join {α : Type} {of : α → Contribution → Prop} {items : List α}
    (related : List.Forall₂ of items parts)
    (each : ∀ item ∈ items, ∀ part, of item part → part.Plain) : (join parts).Plain :=
  join_keeps related plain_empty (fun _ _ => Plain.append) each

theorem Plain.needs (plain : part.Plain) : ∀ key ∈ part.needs, key.qualified.Plain := by
  intro key member
  obtain ⟨ask, asks, rfl⟩ := List.mem_map.mp member
  obtain ⟨asked, plainAsked, built⟩ := plain.asks ask asks
  exact Key.plain_of_ofType built plainAsked

theorem Plain.queue (plain : part.Plain) : ∀ item ∈ part.queue, item.Plain := by
  intro item member
  obtain ⟨ask, asks, rfl⟩ := List.mem_map.mp member
  exact plain.needs ask.base (List.mem_map_of_mem (List.mem_of_mem_filter asks))

theorem plain_of_asks {keys : List Key}
    (asks : ∀ key ∈ keys, ∃ asked : QualifiedType, asked.Plain ∧ Key.ofType asked = .ok key) :
    Plain { asks := keys } :=
  ⟨List.forall_mem_nil _, asks⟩

theorem asks_of_ofParameters {params : List QualifiedType} {keys : List Key}
    (built : Key.ofParameters params = .ok keys) (plain : ∀ param ∈ params, param.Plain) :
    ∀ key ∈ keys, ∃ asked : QualifiedType, asked.Plain ∧ Key.ofType asked = .ok key := by
  intro key member
  obtain ⟨param, listed, same⟩ := Key.mem_ofParameters built member
  exact ⟨param, plain param listed, same⟩

theorem Curried.asks {interface target : List QualifiedType} {sources : List Source}
    (curried : Curried interface target sources) (plain : ∀ param ∈ target, param.Plain) :
    ∀ key ∈ sources.filterMap Source.key?,
      ∃ asked : QualifiedType, asked.Plain ∧ Key.ofType asked = .ok key := by
  obtain ⟨offered, wanted, _, built, rfl⟩ := curried
  exact fun key member => asks_of_ofParameters built plain key (curry_scope_mem member)

private theorem OfValue.plain {type : QualifiedType} (of : OfValue type part) (plain : type.Plain) :
    part.Plain := by
  obtain ⟨key, rfl, rfl⟩ := of
  exact ⟨List.forall_mem_singleton.mpr plain, List.forall_mem_nil _⟩

private theorem OfSource.plain {declared : Alias} (of : OfSource declared part)
    (plain : declared.dependency.qualified.Plain) : part.Plain := by
  obtain rfl := of
  exact ⟨List.forall_mem_singleton.mpr plain, List.forall_mem_nil _⟩

private theorem OfConstructor.plain {type : TypeExpr} (of : OfConstructor catalog type part)
    (plainCatalog : catalog.Plain) (plain : type.Plain) : part.Plain := by
  obtain ⟨info, constructor, key, keys, found, selected, same, built, rfl⟩ := of
  have params := plainCatalog info (Catalog.find?_mem found)
    |>.constructors constructor (TypeInfo.mem_of_selectConstructor selected)
  exact ⟨List.forall_mem_singleton.mpr (same ▸ QualifiedType.plain_of_type plain),
    asks_of_ofParameters built params⟩

private theorem OfProvided.plain {method : Method} (of : OfProvided method part) (plain : method.Plain) :
    part.Plain := by
  rcases of with ⟨_, rfl⟩ | ⟨product, key, keys, _, returns, same, built, rfl⟩
  · exact plain_empty
  · exact ⟨List.forall_mem_singleton.mpr (same ▸ ⟨plain.returns product returns, plain.qualifiers⟩),
      asks_of_ofParameters built plain.params⟩

private theorem OfProvider.plain {holderType : TypeExpr} (of : OfProvider catalog holderType part)
    (plainCatalog : catalog.Plain) (plain : holderType.Plain) : part.Plain := by
  obtain ⟨holder, info, parts, built, found, provided, rfl⟩ := of
  have methods := (plainCatalog info (Catalog.find?_mem found)).methods
  apply Plain.append
  · exact plain_of_asks (List.forall_mem_singleton.mpr ⟨_, QualifiedType.plain_of_type plain, built⟩)
  · exact plain_join provided fun method member part of =>
      of.plain (methods method (TypeInfo.mem_sortedMethods.mp member))

private theorem OfInjected.plain {method : Method} (of : OfInjected catalog method part)
    (plain : method.Plain) :
    part.Plain := by
  rcases of with ⟨_, rfl⟩ | ⟨interface, implemented, sources, _, _, curried, rfl⟩
  · exact plain_empty
  · exact plain_of_asks (curried.asks plain.params)

private theorem OfReceiver.plain {receiverType : QualifiedType} (of : OfReceiver catalog receiverType part)
    (plainCatalog : catalog.Plain) (plain : receiverType.Plain) : part.Plain := by
  obtain ⟨receiver, info, parts, built, found, injected, rfl⟩ := of
  have methods := (plainCatalog info (Catalog.find?_mem found)).methods
  apply Plain.append
  · exact plain_of_asks (List.forall_mem_singleton.mpr ⟨_, plain, built⟩)
  · exact plain_join injected fun method member part of =>
      of.plain (methods method (TypeInfo.mem_sortedMethods.mp member))

private theorem OfAlias.plain {declared : Alias} (of : OfAlias declared part)
    (plain : declared.satisfiedBy.qualified.Plain) : part.Plain := by
  obtain ⟨target, built, rfl⟩ := of
  exact plain_of_asks (List.forall_mem_singleton.mpr ⟨_, plain, built⟩)

theorem OfFactory.plain {interface : QualifiedType} (of : OfFactory catalog interface part)
    (plainCatalog : catalog.Plain) (plain : interface.Plain) : part.Plain := by
  obtain ⟨key, method, product, info, constructor, sources, rfl, _, _, found, selected, curried, rfl⟩ :=
    of
  have params := plainCatalog info (Catalog.find?_mem found)
    |>.constructors constructor (TypeInfo.mem_of_selectConstructor selected)
  exact ⟨List.forall_mem_singleton.mpr plain, curried.asks params⟩

end Plain

section Slots

/-! ## Slots that are brought along -/

/-- It brings no slot of a value or of a factory. -/
def Slotless (part : Contribution) : Prop := part.values = [] ∧ part.factories = []

variable {catalog : Catalog}

theorem slotless_empty : Slotless {} := ⟨rfl, rfl⟩

theorem Slotless.append (slotless : part.Slotless) (slotless' : other.Slotless) :
    (part ++ other).Slotless :=
  ⟨by simp [slotless.1, slotless'.1], by simp [slotless.2, slotless'.2]⟩

theorem slotless_join {α : Type} {of : α → Contribution → Prop} {items : List α}
    (related : List.Forall₂ of items parts)
    (each : ∀ item ∈ items, ∀ part, of item part → part.Slotless) : (join parts).Slotless :=
  join_keeps related slotless_empty (fun _ _ => Slotless.append) each

private theorem OfSource.slotless {declared : Alias} (of : OfSource declared part) : part.Slotless := by
  obtain rfl := of
  exact ⟨rfl, rfl⟩

private theorem OfConstructor.slotless {type : TypeExpr} (of : OfConstructor catalog type part) :
    part.Slotless := by
  obtain ⟨_, _, _, _, _, _, _, _, rfl⟩ := of
  exact ⟨rfl, rfl⟩

private theorem OfProvided.slotless {method : Method} (of : OfProvided method part) : part.Slotless := by
  rcases of with ⟨_, rfl⟩ | ⟨_, _, _, _, _, _, _, rfl⟩
  · exact slotless_empty
  · exact ⟨rfl, rfl⟩

private theorem OfProvider.slotless {holderType : TypeExpr} (of : OfProvider catalog holderType part) :
    part.Slotless := by
  obtain ⟨_, _, _, _, _, provided, rfl⟩ := of
  have methods := slotless_join provided fun _ _ _ of => of.slotless
  exact Slotless.append ⟨rfl, rfl⟩ methods

private theorem OfInjected.slotless {method : Method} (of : OfInjected catalog method part) :
    part.Slotless := by
  rcases of with ⟨_, rfl⟩ | ⟨_, _, _, _, _, _, rfl⟩
  · exact slotless_empty
  · exact ⟨rfl, rfl⟩

private theorem OfReceiver.slotless {receiverType : QualifiedType}
    (of : OfReceiver catalog receiverType part) :
    part.Slotless := by
  obtain ⟨_, _, _, _, _, injected, rfl⟩ := of
  have methods := slotless_join injected fun _ _ _ of => of.slotless
  exact Slotless.append ⟨rfl, rfl⟩ methods

private theorem OfAlias.slotless {declared : Alias} (of : OfAlias declared part) : part.Slotless := by
  obtain ⟨_, _, rfl⟩ := of
  exact ⟨rfl, rfl⟩

/-- Declared values have their slots, in order, and no others come with them. -/
theorem slots_of_values {types : List QualifiedType} (related : List.Forall₂ OfValue types parts) :
    ∃ declared : List DirectKey, declared.map (·.qualified) = types ∧
      (join parts).values = declared.map (·.value .declared) ∧ (join parts).factories = [] := by
  induction related with
  | nil => exact ⟨[], rfl, rfl, rfl⟩
  | cons first _ ih =>
    obtain ⟨key, same, rfl⟩ := first
    obtain ⟨declared, types, values, factories⟩ := ih
    exact ⟨key :: declared, by simp [same, types], by simp [values], by simp [factories]⟩

/-- Generated factories have their slots, in order, and no others come with them. -/
theorem slots_of_factories {made : List QualifiedType}
    (related : List.Forall₂ (OfFactory catalog) made parts) :
    (join parts).factories.map (·.descriptor) = made.map (·.descriptor) ∧ (join parts).values = [] := by
  induction related with
  | nil => exact ⟨rfl, rfl⟩
  | cons first _ ih =>
    obtain ⟨key, _, _, _, _, _, rfl, _, _, _, _, _, rfl⟩ := first
    obtain ⟨descriptors, values⟩ := ih
    refine ⟨?_, by simp [values]⟩
    rw [join_cons, append_factories, List.map_append, descriptors]
    rfl

end Slots

section Generated

/-! ## Contributions of generated factories -/

variable {catalog : Catalog} {interface : QualifiedType}

private theorem Curried.unique {interface target : List QualifiedType} {sources sources' : List Source}
    (curried : Curried interface target sources) (curried' : Curried interface target sources') :
    sources = sources' := by
  obtain ⟨offered, wanted, offers, wants, rfl⟩ := curried
  obtain ⟨offered', wanted', offers', wants', rfl⟩ := curried'
  cases offers.symm.trans offers'
  cases wants.symm.trans wants'
  rfl

/-- The interface and the catalog determine what a generated factory brings. -/
theorem OfFactory.unique (of : OfFactory catalog interface part)
    (of' : OfFactory catalog interface other) : part = other := by
  obtain ⟨key, method, product, info, constructor, sources, same, single, returns, found, selected,
    curried, rfl⟩ := of
  obtain ⟨key', method', product', info', constructor', sources', same', single', returns', found',
    selected', curried', rfl⟩ := of'
  obtain rfl : key = key' := DirectKey.eq_of_qualified (same.trans same'.symm)
  cases single.symm.trans single'
  cases returns.symm.trans returns'
  cases found.symm.trans found'
  cases selected.symm.trans selected'
  rw [curried.unique curried']

/-- A factory binds its interface and nothing else. -/
theorem OfFactory.bound (of : OfFactory catalog interface part) : part.bound = [interface.descriptor] := by
  obtain ⟨key, method, product, info, constructor, sources, rfl, _, _, _, _, _, rfl⟩ := of
  rfl

end Generated

end Contribution

/-- What everything declared brings, in the order in which it is bound. -/
def Declarations.Contribute (catalog : Catalog) (declarations : Declarations) (whole : Contribution) :
    Prop :=
  ∃ values sources constructors providers receivers aliases : List Contribution,
    List.Forall₂ Contribution.OfValue declarations.values values ∧
    List.Forall₂ Contribution.OfSource declarations.aliases sources ∧
    List.Forall₂ (Contribution.OfConstructor catalog) declarations.constructors constructors ∧
    List.Forall₂ (Contribution.OfProvider catalog) declarations.providers providers ∧
    List.Forall₂ (Contribution.OfReceiver catalog) declarations.injected receivers ∧
    List.Forall₂ Contribution.OfAlias declarations.aliases aliases ∧
    whole = .join (values ++ sources ++ constructors ++ providers ++ receivers ++ aliases)

namespace Declarations

open Contribution

variable {builder : Builder} {bindings : Contribution}

/-- Declarations of plain names have plain contributions. -/
theorem Contribute.plain (contribute : builder.declarations.Contribute builder.catalog bindings)
    (plain : builder.Plain) : bindings.Plain := by
  obtain ⟨values, sources, constructors, providers, receivers, aliases, ofValues, ofSources,
    ofConstructors, ofProviders, ofReceivers, ofAliases, rfl⟩ := contribute
  have declared := plain.declarations
  simp only [join_append]
  refine ((((Plain.append ?_ ?_).append ?_).append ?_).append ?_).append ?_
  · exact plain_join ofValues fun type member _ of => of.plain (declared.values type member)
  · exact plain_join ofSources fun source member _ of => of.plain (declared.aliases source member).1
  · exact plain_join ofConstructors fun type member _ of =>
      of.plain plain.catalog (declared.constructors type member)
  · exact plain_join ofProviders fun holder member _ of =>
      of.plain plain.catalog (declared.providers holder member)
  · exact plain_join ofReceivers fun receiver member _ of =>
      of.plain plain.catalog (declared.injected receiver member)
  · exact plain_join ofAliases fun target member _ of => of.plain (declared.aliases target member).2

/-- Of all declarations only the values have slots yet. -/
theorem Contribute.slots {catalog : Catalog} {declarations : Declarations}
    (contribute : declarations.Contribute catalog bindings) :
    ∃ declared : List DirectKey, declared.map (·.qualified) = declarations.values ∧
      bindings.values = declared.map (·.value .declared) ∧ bindings.factories = [] := by
  obtain ⟨values, sources, constructors, providers, receivers, aliases, ofValues, ofSources,
    ofConstructors, ofProviders, ofReceivers, ofAliases, rfl⟩ := contribute
  obtain ⟨declared, types, valueSlots, factorySlots⟩ := slots_of_values ofValues
  have sourceSlots := slotless_join ofSources fun _ _ _ of => of.slotless
  have constructorSlots := slotless_join ofConstructors fun _ _ _ of => of.slotless
  have providerSlots := slotless_join ofProviders fun _ _ _ of => of.slotless
  have receiverSlots := slotless_join ofReceivers fun _ _ _ of => of.slotless
  have aliasSlots := slotless_join ofAliases fun _ _ _ of => of.slotless
  have others := (((sourceSlots.append constructorSlots).append providerSlots).append receiverSlots)
    |>.append aliasSlots
  refine ⟨declared, types, ?_, ?_⟩
  · simpa [join_append, valueSlots] using others.1
  · simpa [join_append, factorySlots] using others.2

end Declarations

end Wiring
