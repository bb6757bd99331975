import Wiring.Proofs.Catalog.Rearrangement
import Wiring.Proofs.DeclarationOrder

/-! # The order of a catalog

Everything that a compilation reads from its catalog it reads through queries that do not depend on
the order in which the catalog lists things. So catalogs that are alike make every step of a
declaration and of a compilation do the same, down to the error that is reported first.

Main statement: `Builder.compile_rearranged`.
-/

namespace Wiring

variable {a b : Catalog}

namespace Session

/-! ## Steps of a compilation -/

private theorem bindConstructor_eq (alike : a.Alike b) : bindConstructor a = bindConstructor b := by
  funext session type
  refine alike.require_bind fun info info' _ rearranged => ?_
  rw [rearranged.selectConstructor_eq, alike.isCloseable_eq]

private theorem bindProvided_eq (alike : a.Alike b) : bindProvided a = bindProvided b := by
  funext holderType holder session method
  unfold bindProvided
  simp only [alike.isCloseable_eq]

private theorem bindProvider_eq (alike : a.Alike b) : bindProvider a = bindProvider b := by
  funext session holderType
  refine bind_congr fun (holder, session) => ?_
  refine alike.require_bind fun info info' _ rearranged => ?_
  rw [rearranged.sortedMethods_eq, bindProvided_eq alike]

private theorem bindInjector_eq (alike : a.Alike b) : bindInjector a = bindInjector b := by
  funext receiverType receiver session method
  unfold bindInjector
  simp only [alike.singleMethod_eq]

private theorem bindInjectors_eq (alike : a.Alike b) : bindInjectors a = bindInjectors b := by
  funext session receiverType
  refine bind_congr fun (receiver, session) => ?_
  refine alike.require_bind fun info info' _ rearranged => ?_
  rw [rearranged.sortedMethods_eq, bindInjector_eq alike]

private theorem bindFactory_eq (alike : a.Alike b) : bindFactory a = bindFactory b := by
  funext session interface
  unfold bindFactory
  refine bind_congr fun key => ?_
  split
  · rfl
  refine bind_congr fun session => ?_
  rw [alike.singleMethod_eq]
  refine bind_congr fun method => ?_
  split
  · rfl
  refine alike.require_bind fun info info' _ rearranged => ?_
  rw [rearranged.selectConstructor_eq]

/-- Draining one round at a time. -/
theorem drain_cons {catalog : Catalog} {session : Session} {interface : QualifiedType}
    {rest : List QualifiedType} (queue : session.pending = interface :: rest) :
    session.drain catalog = session.dequeued.bindFactory catalog interface >>= drain catalog := by
  rw [drain]
  split
  next empty =>
    rw [queue] at empty
    cases empty
  next head others same =>
    obtain rfl : interface = head := (List.cons.inj (queue.symm.trans same)).1
    split
    next error failed => rw [failed]; rfl
    next next made => rw [made]; rfl

private theorem drain_eq (alike : a.Alike b) (session : Session) : session.drain a = session.drain b := by
  fun_induction drain a session with
  | case1 session empty =>
    rw [drain]
    split
    · rfl
    next queue =>
      rw [empty] at queue
      cases queue
  | case2 session interface rest queue error failed =>
    rw [drain_cons queue, ← bindFactory_eq alike, failed]
    rfl
  | case3 session interface rest queue middle made ih =>
    rw [drain_cons queue, ← bindFactory_eq alike, made]
    exact ih

end Session

private theorem Declarations.resolve_eq (alike : a.Alike b) (declarations : Declarations) :
    declarations.resolve a = declarations.resolve b := by
  unfold resolve bind
  rw [Session.bindConstructor_eq alike, Session.bindProvider_eq alike, Session.bindInjectors_eq alike]
  exact bind_congr fun session => Session.drain_eq alike session

namespace Builder

variable {builder : Builder}

def withCatalog (builder : Builder) (catalog : Catalog) : Builder := { builder with catalog }

private theorem compile_withCatalog (alike : builder.catalog.Alike b) :
    (builder.withCatalog b).compile = builder.compile := by
  unfold compile
  change (builder.declarations.resolve b >>= _) = _
  rw [← Declarations.resolve_eq alike]
  rfl

/-! ## Steps of a declaration -/

private theorem declareAlias_withCatalog (alike : builder.catalog.Alike b)
    (dependency satisfiedBy : QualifiedType) :
    (builder.withCatalog b).declareAlias dependency satisfiedBy =
      (·.withCatalog b) <$> builder.declareAlias dependency satisfiedBy := by
  unfold declareAlias
  simp only [map_bind]
  refine bind_congr fun dependencyKey => bind_congr fun satisfierKey => ?_
  have assignable : (builder.withCatalog b).catalog.isAssignable dependency.type satisfiedBy.type =
      builder.catalog.isAssignable dependency.type satisfiedBy.type := (alike.isAssignable_eq _ _).symm
  have declared : (builder.withCatalog b).findAlias? dependencyKey =
      builder.findAlias? dependencyKey := rfl
  rw [assignable, declared]
  split
  · rfl
  split
  · split <;> rfl
  · rfl

private theorem applyPart_withCatalog (alike : builder.catalog.Alike b) (part : Part) :
    (builder.withCatalog b).applyPart part = (·.withCatalog b) <$> builder.applyPart part := by
  cases part with
  | satisfies dependency satisfiedBy => exact declareAlias_withCatalog alike dependency satisfiedBy
  | _ => rfl

theorem catalog_of_applyPart {part : Part} {next : Builder} (done : builder.applyPart part = .ok next) :
    next.catalog = builder.catalog := by
  cases part with
  | satisfies dependency satisfiedBy => exact catalog_of_declareAlias done
  | _ =>
    cases done
    rfl

private theorem catalog_of_applyAll {steps : List Step} {next : Builder}
    (done : builder.applyAll steps = .ok next) : next.catalog = builder.catalog := by
  rw [applyAll_eq_foldlM] at done
  have keeps : ∀ part ∈ Step.allParts steps, ∀ before after : Builder, before.applyPart part = .ok after →
      before.catalog = builder.catalog → after.catalog = builder.catalog :=
    fun _ _ _ _ applied same => (catalog_of_applyPart applied).trans same
  have same := foldlM_keeps done keeps rfl
  exact same

private theorem applyAll_withCatalog (alike : builder.catalog.Alike b) (steps : List Step) :
    (builder.withCatalog b).applyAll steps = (·.withCatalog b) <$> builder.applyAll steps := by
  rw [applyAll_eq_foldlM, applyAll_eq_foldlM]
  generalize Step.allParts steps = parts
  induction parts generalizing builder with
  | nil => rfl
  | cons part rest ih =>
    rw [List.foldlM_cons, List.foldlM_cons, applyPart_withCatalog alike]
    cases applied : builder.applyPart part with
    | error error => rfl
    | ok next => exact ih (catalog_of_applyPart applied ▸ alike)

variable {types middle types' : List TypeInfo}

/-- Listing types in another order, and within each type its supertypes, constructors or methods, changes
neither what is declared nor what is compiled: the plan is the same to the last ordinal, and so is the
first error. Types have different names, and methods that change places different signatures. -/
theorem compile_rearranged (distinct : (types.map (·.name)).Nodup) (perm : types.Perm middle)
    (rearranged : List.Forall₂ TypeInfo.Rearranged middle types') (package scopeName : String)
    (steps : List Step) :
    let builder := create (.ofList types) package scopeName
    let builder' := create (.ofList types') package scopeName
    (·.declarations) <$> builder.applyAll steps = (·.declarations) <$> builder'.applyAll steps ∧
      (builder.applyAll steps >>= compile) = (builder'.applyAll steps >>= compile) := by
  intro builder builder'
  have alike : builder.catalog.Alike (.ofList types') := Catalog.alike_ofList distinct perm rearranged
  have applied : builder'.applyAll steps = (·.withCatalog (.ofList types')) <$> builder.applyAll steps :=
    applyAll_withCatalog alike steps
  rw [applied]
  cases declared : builder.applyAll steps with
  | error error => exact ⟨rfl, rfl⟩
  | ok next =>
    refine ⟨rfl, (compile_withCatalog ?_).symm⟩
    exact catalog_of_applyAll declared ▸ alike

/-- What a garage is made of. -/
def workshop : List TypeInfo := [
  { name := "Car", supertypes := ["Vehicle", "Asset"]
    constructors := [{ params := [.plain (.named "Engine")] }, { isPublic := false }] },
  { name := "Garage"
    constructors := [{}]
    methods := [
      { name := "tune", params := [.plain (.named "Car")], returns := some (.named "Radio")
        provides := true },
      { name := "tune", returns := some (.named "Clock"), provides := true }] }]

/-- The same, listed in another order. -/
def workshop' : List TypeInfo := [
  { name := "Garage"
    constructors := [{}]
    methods := [
      { name := "tune", returns := some (.named "Clock"), provides := true },
      { name := "tune", params := [.plain (.named "Car")], returns := some (.named "Radio")
        provides := true }] },
  { name := "Car", supertypes := ["Asset", "Vehicle"]
    constructors := [{ isPublic := false }, { params := [.plain (.named "Engine")] }] }]

theorem compile_workshop :
    let steps : List Step := [.constructors [.named "Car", .named "Garage"],
      .satisfy (.plain (.named "Vehicle")) (.bound (.plain (.named "Car"))), .provider (.named "Garage")]
    (∃ plan, ((create (.ofList workshop) "demo" "City").applyAll steps >>= compile) = .ok plan ∧
      plan.identifiers = ["engine", "vehicle", "car", "garage", "clock", "radio"]) ∧
    ((create (.ofList workshop) "demo" "City").applyAll steps >>= compile) =
      ((create (.ofList workshop') "demo" "City").applyAll steps >>= compile) := by
  have distinct : (workshop.map (·.name)).Nodup := by decide
  have perm : workshop.Perm workshop.reverse := by decide
  have signatures : (workshop[1].methods.map (·.signature)).Nodup := by decide
  have rearranged : List.Forall₂ TypeInfo.Rearranged workshop.reverse workshop' :=
    .cons ⟨rfl, rfl, .refl _, .refl _, .swap .., .inr signatures⟩
      (.cons ⟨rfl, rfl, .swap .., .swap .., .refl _, .inl rfl⟩ .nil)
  exact ⟨⟨_, by cbv, rfl⟩, (compile_rearranged distinct perm rearranged "demo" "City" _).2⟩

end Builder

end Wiring
