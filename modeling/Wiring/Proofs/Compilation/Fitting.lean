import Wiring.Proofs.Compilation.Resolution
import Wiring.Scope.Opening

/-! # Arguments that fit their parameters

Every slot that calls something has been planned from the parameters of what it calls. Whatever the
names are, its arguments fit these position by position: what is read from the scope is read as a
handle exactly for a parameter that is one, and what is not read is passed on by a caller, for a
parameter of the interface that asks for the same key. This needs no link between references and
slots, so nothing has to be known of the names. Only that keys which are read are served takes plain
names.

Main statement: `Builder.fits_of_compile`.
-/

namespace Wiring

/-- These are the parameters of the constructor that is selected for the type. -/
def Catalog.Constructs (catalog : Catalog) (type : TypeExpr) (params : List QualifiedType) : Prop :=
  ∃ info constructor, catalog.find? type.name = some info ∧
    info.selectConstructor = .ok constructor ∧ constructor.params = params

/-- These are the parameters of a method of the type that has the name and is chosen. -/
def Catalog.Offers (catalog : Catalog) (type : TypeExpr) (name : String) (chosen : Method → Prop)
    (params : List QualifiedType) : Prop :=
  ∃ info method, catalog.find? type.name = some info ∧
    method ∈ info.methods ∧ method.name = name ∧ chosen method ∧ method.params = params

/-- The method provides the instance with the descriptor. -/
def Method.Provides (method : Method) (descriptor : String) : Prop :=
  method.provides = true ∧ ∃ product, method.returns = some product ∧
    (QualifiedType.mk product method.qualifiers).descriptor = descriptor

/-- These are the parameters of what the slot calls: of the constructor of what it makes, of the method
that provides its instance, or of the method that it implements its interface for. -/
def Slot.Takes (catalog : Catalog) (params : List QualifiedType) : Slot → Prop
  | value _ => False
  | aliased _ => False
  | cached slot =>
    match slot.recipe with
    | .constructor type => catalog.Constructs type params
    | .provider _ holderType name => catalog.Offers holderType name (·.Provides slot.descriptor) params
  | factory slot => catalog.Constructs slot.product params
  | injector slot =>
    catalog.Offers slot.receiverType slot.targetMethod
      (Session.injectorInterface? · = some slot.interface) params

/-- These are the parameters for which the caller of the slot gives instances: those of the one method of
its interface. A slot that is read has no caller. -/
def Slot.Receives (catalog : Catalog) (offered : List QualifiedType) : Slot → Prop
  | value _ => offered = []
  | aliased _ => offered = []
  | cached _ => offered = []
  | factory slot => ∃ interface method, slot.descriptor = QualifiedType.descriptor interface ∧
      catalog.singleMethod interface.type = .ok method ∧ slot.method = method.name ∧
      method.params = offered
  | injector slot => ∃ method, catalog.singleMethod slot.interface = .ok method ∧
      slot.method = method.name ∧ method.params = offered

/-- Both ask for the same key. -/
def QualifiedType.SameKey (a b : QualifiedType) : Prop :=
  ∃ key other, Key.ofType a = .ok key ∧ Key.ofType b = .ok other ∧ key.sameAs other = true

/-- What is read from the scope is a handle exactly for a parameter that is one; what is passed on has
been given for an offered parameter with the key of this one. -/
def Argument.Matches (offered : List QualifiedType) (param : QualifiedType) : Argument → Prop
  | slot _ => param.type.isLazy = false
  | lazy _ => param.type.isLazy = true
  | curried index => ∃ position offer, index = .ofNat position ∧ offered[position]? = some offer ∧
      offer.SameKey param

/-- Arguments match parameters position by position. -/
abbrev Matching (offered params : List QualifiedType) (arguments : List Argument) : Prop :=
  List.Forall₂ (Argument.Matches offered) params arguments

/-- The arguments are those of a matching that leaves nothing of what is offered, and what is read from
the scope for the others is known. -/
def Currying (known : Key → Prop) (offered params : List QualifiedType) (arguments : List Argument) :
    Prop :=
  ∃ offers wanted, Key.ofParameters offered = .ok offers ∧ Key.ofParameters params = .ok wanted ∧
    (curry offers.zipIdx wanted).2 = [] ∧
    arguments = (curry offers.zipIdx wanted).1.map Source.argument ∧
    ∀ key ∈ (curry offers.zipIdx wanted).1.filterMap Source.key?, known key

/-- The arguments of the slot fit the parameters of what it calls, if it calls anything, and those for
which its caller gives instances, one for each. -/
def Slot.Fits (catalog : Catalog) (known : Key → Prop) (slot : Slot) : Prop :=
  match slot with
  | value _ => True
  | aliased _ => True
  | cached called => ∃ params offered, slot.Takes catalog params ∧ slot.Receives catalog offered ∧
      Matching offered params called.arguments
  | factory called => ∃ params offered, slot.Takes catalog params ∧ slot.Receives catalog offered ∧
      called.parameters.length = offered.length ∧ Currying known offered params called.arguments
  | injector called => ∃ params offered, slot.Takes catalog params ∧ slot.Receives catalog offered ∧
      called.parameters.length = offered.length ∧ Currying known offered params called.arguments

section Arguments

variable {offered params : List QualifiedType} {param : QualifiedType} {key : Key} {keys : List Key}

theorem Key.argument_matches (built : Key.ofType param = .ok key) :
    key.argument.Matches offered param := by
  rcases Key.ofType_eq_ok built with ⟨inner, _, deferred, rfl⟩ | ⟨direct, notLazy, _⟩
  · have handle : param.type.isLazy = true := by rw [deferred]; rfl
    exact handle
  · rw [Key.argument, notLazy]
    exact direct

/-- Arguments that are all read from the scope match the parameters. -/
theorem matching_arguments (built : Key.ofParameters params = .ok keys) :
    Matching offered params (keys.map Key.argument) :=
  List.forall₂_map_right_iff.mpr
    ((Key.forall₂_ofParameters built).imp fun _ _ => Key.argument_matches)

/-- Curried arguments match the parameters, given those of the interface. -/
theorem matching_curry {offers : List Key} (given : Key.ofParameters offered = .ok offers)
    (built : Key.ofParameters params = .ok keys) :
    Matching offered params ((curry offers.zipIdx keys).1.map Source.argument) := by
  refine List.forall₂_map_right_iff.mpr
    (forall₂_trans (Key.forall₂_ofParameters built) (forall₂_curry offers.zipIdx keys) ?_)
  rintro param key source asks (rfl | ⟨⟨offer, position⟩, listed, alike, rfl⟩)
  · exact Key.argument_matches asks
  · have asked : offers[position]? = some offer := List.mk_mem_zipIdx_iff_getElem?.mp listed
    obtain ⟨type, declared, same⟩ := exists_getElem?_of_forall₂ (Key.forall₂_ofParameters given).flip asked
    exact ⟨position, type, rfl, declared, offer, key, same, asks, alike⟩

/-- Curried arguments match the parameters. -/
theorem Currying.matching {known : Key → Prop} {arguments : List Argument}
    (currying : Currying known offered params arguments) : Matching offered params arguments := by
  obtain ⟨offers, wanted, given, built, _, rfl, _⟩ := currying
  exact matching_curry given built

/-- Arguments that are curried against some keys are curried against more. -/
theorem Currying.mono {known known' : Key → Prop} {arguments : List Argument}
    (weaker : ∀ key, known key → known' key) (currying : Currying known offered params arguments) :
    Currying known' offered params arguments := by
  obtain ⟨offers, wanted, given, built, none, same, knows⟩ := currying
  exact ⟨offers, wanted, given, built, none, same, fun key member => weaker key (knows key member)⟩

end Arguments

/-- A slot that fits among some keys fits among more. -/
theorem Slot.Fits.mono {catalog : Catalog} {known known' : Key → Prop} {slot : Slot}
    (weaker : ∀ key, known key → known' key) (fits : slot.Fits catalog known) :
    slot.Fits catalog known' := by
  cases slot with
  | value _ => trivial
  | aliased _ => trivial
  | cached called => exact fits
  | factory called =>
    obtain ⟨params, offered, takes, receives, counted, currying⟩ := fits
    exact ⟨params, offered, takes, receives, counted, currying.mono weaker⟩
  | injector called =>
    obtain ⟨params, offered, takes, receives, counted, currying⟩ := fits
    exact ⟨params, offered, takes, receives, counted, currying.mono weaker⟩

namespace Session

variable {session added next : Session} {catalog : Catalog}

/-- The key is needed by some binding. -/
def Needs (session : Session) (key : Key) : Prop := key.base.descriptor ∈ session.needed

/-- All slots planned so far fit what they call, and what they read is needed. -/
def Fits (catalog : Catalog) (session : Session) : Prop :=
  ∀ slot ∈ session.slots, slot.Fits catalog session.Needs

/-- A slot is added together with what it needs. -/
theorem Fits.append (fits : session.Fits catalog)
    (also : ∀ slot ∈ added.slots, slot.Fits catalog (session ++ added).Needs) :
    (session ++ added).Fits catalog := by
  intro slot member
  rcases List.mem_append.mp ((slots_append session added).mem_iff.mp member) with old | new
  · refine (fits slot old).mono fun key needs => ?_
    rw [Needs, needed_append]
    exact List.mem_append_left _ needs
  · exact also slot new

theorem Fits.append_slot {slot : Slot} (fits : session.Fits catalog) (slots : added.slots = [slot])
    (also : slot.Fits catalog (session ++ added).Needs) : (session ++ added).Fits catalog :=
  fits.append (by rwa [slots, List.forall_mem_singleton])

theorem Fits.append_nothing (fits : session.Fits catalog) (slots : added.slots = []) :
    (session ++ added).Fits catalog :=
  fits.append (by rw [slots]; exact List.forall_mem_nil _)

private theorem fits_of_no_slots (slots : session.slots = []) : session.Fits catalog := by
  rw [Fits, slots]
  exact List.forall_mem_nil _

/-- Whatever else is added along with them, the keys asked for are needed from then on. -/
theorem Asking.needs {keys : List Key} {bound : List String} {noted : List (DirectKey × String)}
    {queued : List QualifiedType} (asking : Asking session.needed bound keys noted queued)
    (added : Session) (adds : added.required = noted) : ∀ key ∈ keys, (session ++ added).Needs key := by
  intro key member
  rw [Needs, needed_append, show added.needed = noted.map (·.1.descriptor) from congrArg _ adds]
  exact asking.covers key member

/-! ## Steps -/

private theorem fits_seedValue {type : QualifiedType} (done : session.seedValue type = .ok next)
    (fits : session.Fits catalog) : next.Fits catalog := by
  obtain ⟨key, _, _, rfl⟩ := seedValue_adds done
  exact fits.append_slot rfl trivial

private theorem fits_seedAlias {declared : Alias} (done : session.seedAlias declared = .ok next)
    (fits : session.Fits catalog) : next.Fits catalog := by
  obtain ⟨_, rfl⟩ := satisfy_adds done
  exact fits.append_nothing rfl

private theorem fits_bindConstructor {type : TypeExpr}
    (done : bindConstructor catalog session type = .ok next)
    (fits : session.Fits catalog) : next.Fits catalog := by
  obtain ⟨info, constructor, key, keys, noted, queued, found, selected, _, _, built, _, rfl⟩ :=
    bindConstructor_adds done
  refine fits.append_slot rfl ⟨_, [], ⟨info, constructor, found, selected, rfl⟩, rfl, ?_⟩
  exact matching_arguments built

private theorem fits_bindProvided {holderType : TypeExpr} {holder : DirectKey} {info : TypeInfo}
    {method : Method} (found : catalog.find? holderType.name = some info)
    (member : method ∈ info.sortedMethods)
    (done : bindProvided catalog holderType holder session method = .ok next)
    (fits : session.Fits catalog) : next.Fits catalog := by
  rcases bindProvided_adds done with ⟨_, rfl⟩ |
    ⟨product, key, keys, noted, queued, provides, returns, same, _, built, _, rfl⟩
  · exact fits
  · have provided : method.Provides key.descriptor := ⟨provides, product, returns, by rw [← same]; rfl⟩
    have offers : catalog.Offers holderType method.name (·.Provides key.descriptor) method.params :=
      ⟨info, method, found, TypeInfo.mem_sortedMethods.mp member, rfl, provided, rfl⟩
    exact fits.append_slot rfl ⟨method.params, [], offers, rfl, matching_arguments built⟩

private theorem fits_bindProvider {holderType : TypeExpr}
    (done : bindProvider catalog session holderType = .ok next) (fits : session.Fits catalog) :
    next.Fits catalog := by
  obtain ⟨_, holder, noted, queued, info, _, _, _, _, found, bound⟩ := bindProvider_adds done
  exact foldlM_keeps bound (fun method member _ _ => fits_bindProvided found member)
    (fits.append_nothing rfl)

private theorem fits_bindInjector {receiverType : TypeExpr} {receiver : DirectKey} {info : TypeInfo}
    {method : Method} (found : catalog.find? receiverType.name = some info)
    (member : method ∈ info.sortedMethods)
    (done : bindInjector catalog receiverType receiver session method = .ok next)
    (fits : session.Fits catalog) : next.Fits catalog := by
  rcases bindInjector_adds done with ⟨_, rfl⟩ | ⟨interface, implemented, offered, wanted, noted, queued,
    injects, single, given, built, none, asking, rfl⟩
  · exact fits
  · have taken : catalog.Offers receiverType method.name (injectorInterface? · = some interface)
        method.params := ⟨info, method, found, TypeInfo.mem_sortedMethods.mp member, rfl, injects, rfl⟩
    exact fits.append_slot rfl ⟨method.params, implemented.params, taken, ⟨implemented, single, rfl, rfl⟩,
      List.length_map _, offered, wanted, given, built, none, rfl, asking.needs _ rfl⟩

private theorem fits_bindInjectors {receiverType : QualifiedType}
    (done : bindInjectors catalog session receiverType = .ok next) (fits : session.Fits catalog) :
    next.Fits catalog := by
  obtain ⟨_, _, _, _, info, _, _, _, _, found, bound⟩ := bindInjectors_adds done
  exact foldlM_keeps bound (fun method member _ _ => fits_bindInjector found member)
    (fits.append_nothing rfl)

private theorem fits_addAlias {declared : Alias} (done : session.addAlias declared = .ok next)
    (fits : session.Fits catalog) : next.Fits catalog := by
  obtain ⟨_, _, _, _, _, _, rfl⟩ := addAlias_adds done
  exact fits.append_slot rfl trivial

private theorem fits_bindFactory {interface : QualifiedType}
    (done : session.bindFactory catalog interface = .ok next) (fits : session.Fits catalog) :
    next.Fits catalog := by
  rcases bindFactory_adds done with ⟨_, rfl⟩ | ⟨key, method, product, info, constructor, offered, wanted,
    noted, queued, same, _, single, _, found, selected, given, built, none, asking, rfl⟩
  · exact fits
  · have text : key.descriptor = interface.descriptor := congrArg QualifiedType.descriptor same
    exact fits.append_slot rfl ⟨constructor.params, method.params,
      ⟨info, constructor, found, selected, rfl⟩, ⟨interface, method, text, single, rfl, rfl⟩,
      List.length_map _, offered, wanted, given, built, none, rfl, asking.needs _ rfl⟩

private theorem fits_drain (done : session.drain catalog = .ok next) (fits : session.Fits catalog) :
    next.Fits catalog := by
  fun_induction drain catalog session with
  | case1 session empty =>
    cases done
    exact fits
  | case2 session interface rest queue error failed => cases done
  | case3 session interface rest queue middle made ih => exact ih done (fits_bindFactory made fits)

private theorem fits_addImplicit {explicitValues : Bool} {needed : DirectKey × String}
    (done : session.addImplicit explicitValues needed = .ok next) (fits : session.Fits catalog) :
    next.Fits catalog := by
  rcases addImplicit_adds done with ⟨_, rfl⟩ | ⟨_, _, rfl⟩
  · exact fits
  · exact fits.append_slot rfl trivial

/-! ## Phases -/

private theorem fits_bind {declarations : Declarations} (done : declarations.bind catalog = .ok session) :
    session.Fits catalog := by
  obtain ⟨_, _, _, _, _, values, sources, constructors, providers, receivers, aliases⟩ :=
    Declarations.phases_of_bind done
  have seeding (type : QualifiedType) (_ : type ∈ declarations.values) (before after : Session)
      (step : before.seedValue type = .ok after) : before.Fits catalog → after.Fits catalog :=
    fits_seedValue step
  have fits := foldlM_keeps values seeding (fits_of_no_slots rfl)
  have fits := foldlM_keeps sources (fun _ _ _ _ => fits_seedAlias) fits
  have fits := foldlM_keeps constructors (fun _ _ _ _ => fits_bindConstructor) fits
  have fits := foldlM_keeps providers (fun _ _ _ _ => fits_bindProvider) fits
  have fits := foldlM_keeps receivers (fun _ _ _ _ => fits_bindInjectors) fits
  exact foldlM_keeps aliases (fun _ _ _ _ => fits_addAlias) fits

end Session

section Plain

/-! ## Plain names -/

variable {catalog : Catalog} {type : TypeExpr} {params : List QualifiedType}

private theorem Catalog.Plain.constructs (plain : catalog.Plain)
    (constructs : catalog.Constructs type params) :
    ∀ param ∈ params, param.Plain := by
  obtain ⟨info, constructor, found, selected, rfl⟩ := constructs
  exact (plain info (Catalog.find?_mem found)).constructors constructor
    (TypeInfo.mem_of_selectConstructor selected)

private theorem Catalog.Plain.offers (plain : catalog.Plain) {name : String} {chosen : Method → Prop}
    (offers : catalog.Offers type name chosen params) : ∀ param ∈ params, param.Plain := by
  obtain ⟨info, method, found, member, _, _, rfl⟩ := offers
  exact ((plain info (Catalog.find?_mem found)).methods method member).params

/-- What is read from the scope for plain parameters, and needed, is served. -/
theorem Currying.serves {builder : Builder} {session : Session} {offered : List QualifiedType}
    {arguments : List Argument} (sound : session.Sound builder)
    (covered : ∀ entry ∈ session.required, session.Holds entry.1)
    (nodup : (session.slots.map (·.identifier)).Nodup) (plain : ∀ param ∈ params, param.Plain)
    (package scopeName : String) (currying : Currying session.Needs offered params arguments) :
    Currying (fun key => (session.plan package scopeName).Serves key.base.qualified key.identifier)
      offered params arguments := by
  obtain ⟨offers, wanted, given, built, none, same, needs⟩ := currying
  refine ⟨offers, wanted, given, built, none, same, fun key member => ?_⟩
  exact Session.serves_of_asks sound covered nodup
    ⟨key.base, rfl, Key.plain_of_curry _ built plain key member, needs key member, rfl⟩ package scopeName

end Plain

namespace Builder

variable {builder : Builder} {plan : Plan}

/-- The arguments of every slot of a compiled plan fit the parameters of what the slot calls. Among
plain names, what is read for a caller is served by the slot of the key. -/
theorem fits_of_compile (compiled : builder.compile = .ok plan) :
    ∀ slot ∈ plan.slots, slot.Fits builder.catalog fun key =>
      builder.Plain → plan.Serves key.base.qualified key.identifier := by
  obtain ⟨resolved, session, resolve, surface, rfl, checked⟩ := compile_iff_surface.mp compiled
  obtain ⟨identifiers, _⟩ := check_bind_eq_ok.mp checked
  obtain ⟨bound, bind, drain⟩ := bind_eq_ok.mp resolve
  have fits : session.Fits builder.catalog :=
    foldlM_keeps surface (fun _ _ _ _ => Session.fits_addImplicit)
      (Session.fits_drain drain (Session.fits_bind bind))
  intro slot member
  by_cases plain : builder.Plain
  · obtain ⟨sound, held⟩ := Session.sound_resolve plain resolve
    obtain ⟨sound, covered⟩ := Session.sound_surface surface sound held
    have nodup := Plan.nodup_of_checkIdentifiers identifiers
    cases slot with
    | value _ => trivial
    | aliased _ => trivial
    | cached called => exact fits _ member
    | factory called =>
      obtain ⟨params, offered, takes, receives, counted, currying⟩ := fits _ member
      exact ⟨params, offered, takes, receives, counted,
        (currying.serves sound covered nodup (plain.catalog.constructs takes) _ _).mono
          fun _ serves _ => serves⟩
    | injector called =>
      obtain ⟨params, offered, takes, receives, counted, currying⟩ := fits _ member
      exact ⟨params, offered, takes, receives, counted,
        (currying.serves sound covered nodup (plain.catalog.offers takes) _ _).mono fun _ serves _ => serves⟩
  · exact (fits slot member).mono fun key _ names => (plain names).elim

end Builder

end Wiring
