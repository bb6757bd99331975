import Wiring.Proofs.Compilation.Reordering
import Wiring.Proofs.DeclaredAlias

/-! # The order of declaration steps

A step of a declaration comes down to parts: declarations that are only taken down, aliases, and the
setting for values. An alias is the one thing that is looked at when it is declared, and what is
looked at are the aliases before it: a sequence is accepted exactly when each of its aliases is
acceptable by itself and no key gets two satisfiers. Neither depends on the order, and what is taken
down is the same up to order. With that, two sequences of the same steps compile to the same slots.

Names have to be plain: a key is told from others by its descriptor.
-/

namespace Wiring

/-! ## Steps and their parts -/

/-- What a step comes down to. -/
inductive Part where
  | value (type : QualifiedType)
  | constructor (type : TypeExpr)
  /-- An alias, whatever brings its satisfier. -/
  | satisfies (dependency satisfiedBy : QualifiedType)
  | provider (holder : TypeExpr)
  | factory (interface : QualifiedType)
  | injectMethods (receiver : QualifiedType)
  | explicitValues (required : Bool)

namespace Part

/-- The parts of an alias with its satisfier. -/
def satisfy (dependency : QualifiedType) : Satisfier → List Part
  | .bound type => [satisfies dependency type]
  | .value type => [satisfies dependency type, value type]
  | .constructed type => [satisfies dependency (.plain type), constructor type]

/-- What the part takes down, aliases aside. -/
def added : Part → Declarations
  | value type => { values := [type] }
  | constructor type => { constructors := [type] }
  | satisfies _ _ => {}
  | provider holder => { providers := [holder] }
  | factory interface => { factories := [interface] }
  | injectMethods receiver => { injected := [receiver] }
  | explicitValues _ => {}

/-- What the part names has plain names. -/
def Plain : Part → Prop
  | value type => type.Plain
  | constructor type => type.Plain
  | satisfies dependency satisfiedBy => dependency.Plain ∧ satisfiedBy.Plain
  | provider holder => holder.Plain
  | factory interface => interface.Plain
  | injectMethods receiver => receiver.Plain
  | explicitValues _ => True

instance : (part : Part) → Decidable part.Plain
  | value type => inferInstanceAs (Decidable type.Plain)
  | constructor type => inferInstanceAs (Decidable type.Plain)
  | satisfies dependency satisfiedBy => inferInstanceAs (Decidable (dependency.Plain ∧ satisfiedBy.Plain))
  | provider holder => inferInstanceAs (Decidable holder.Plain)
  | factory interface => inferInstanceAs (Decidable interface.Plain)
  | injectMethods receiver => inferInstanceAs (Decidable receiver.Plain)
  | explicitValues _ => inferInstanceAs (Decidable True)

private theorem Plain.added {part : Part} (plain : part.Plain) : part.added.Plain := by
  cases part <;> constructor <;>
    first | exact List.forall_mem_nil _ | exact List.forall_mem_singleton.mpr plain

/-- The part declares the alias. -/
def Declares (part : Part) (declared : Alias) : Prop :=
  part = satisfies declared.dependency.qualified declared.satisfiedBy.qualified

private theorem declares_satisfies_iff {declared other : Alias} :
    (satisfies declared.dependency.qualified declared.satisfiedBy.qualified).Declares other ↔
      other = declared := by
  refine ⟨fun same => ?_, fun same => same ▸ rfl⟩
  injection same with dependency satisfiedBy
  exact (congrArg₂ Alias.mk (DirectKey.eq_of_qualified dependency)
    (DirectKey.eq_of_qualified satisfiedBy)).symm

/-- The part declares no alias, or one between instances of which the second may stand in for the
first. -/
def Acceptable (catalog : Catalog) : Part → Prop
  | satisfies dependency satisfiedBy => dependency.type.isLazy = false ∧
      satisfiedBy.type.isLazy = false ∧ catalog.isAssignable dependency.type satisfiedBy.type = true
  | _ => True

end Part

mutual
def Step.parts : Step → List Part
  | .value type => [.value type]
  | .values types => types.map .value
  | .constructor type => [.constructor type]
  | .constructors types => types.map .constructor
  | .satisfy dependency satisfier => Part.satisfy dependency satisfier
  | .provider holder => [.provider holder]
  | .providers holders => holders.map .provider
  | .factory interface => [.factory interface]
  | .injectMethods receiver => [.injectMethods receiver]
  | .constructorAndInjectMethods type => [.constructor type, .injectMethods (.plain type)]
  | .explicitValues required => [.explicitValues required]
  | .install steps => Step.allParts steps

def Step.allParts : List Step → List Part
  | [] => []
  | step :: rest => step.parts ++ Step.allParts rest
end

namespace Step

/-- Everything that the step names has plain names. -/
def Plain (step : Step) : Prop := ∀ part ∈ step.parts, part.Plain

instance (step : Step) : Decidable step.Plain :=
  inferInstanceAs (Decidable (∀ part ∈ step.parts, part.Plain))

private theorem allParts_eq_flatMap (steps : List Step) : allParts steps = steps.flatMap parts := by
  induction steps with
  | nil => rfl
  | cons step rest ih => rw [allParts, ih, List.flatMap_cons]

end Step

namespace Builder

def applyPart (builder : Builder) : Part → Except CompileError Builder
  | .value type => .ok (builder.value type)
  | .constructor type => .ok (builder.constructor type)
  | .satisfies dependency satisfiedBy => builder.declareAlias dependency satisfiedBy
  | .provider holder => .ok (builder.provider holder)
  | .factory interface => .ok (builder.factory interface)
  | .injectMethods receiver => .ok (builder.injectMethods receiver)
  | .explicitValues required => .ok { builder with explicitValues := required }

private theorem foldlM_applyPart_map {α : Type} {part : α → Part} {next : Builder → α → Builder}
    (each : ∀ builder item, applyPart builder (part item) = .ok (next builder item)) (builder : Builder)
    (items : List α) : (items.map part).foldlM applyPart builder = .ok (items.foldl next builder) := by
  induction items generalizing builder with
  | nil => rfl
  | cons item rest ih =>
    rw [List.map_cons, List.foldlM_cons, each]
    exact ih (next builder item)

private theorem satisfy_eq_foldlM (builder : Builder) (dependency : QualifiedType) (satisfier : Satisfier) :
    builder.satisfy dependency satisfier =
      (Part.satisfy dependency satisfier).foldlM applyPart builder := by
  cases satisfier with
  | bound type => simp [satisfy, Part.satisfy, applyPart]
  | value type =>
    simp only [satisfy, Part.satisfy, List.foldlM_cons, applyPart]
    cases builder.declareAlias dependency type <;> rfl
  | constructed type =>
    simp only [satisfy, Part.satisfy, List.foldlM_cons, applyPart]
    cases builder.declareAlias dependency (.plain type) <;> rfl

mutual
/-- A step does what its parts do. -/
theorem apply_eq_foldlM (builder : Builder) :
    (step : Step) → builder.apply step = step.parts.foldlM applyPart builder
  | .value type => by rw [apply, Step.parts]; rfl
  | .values types => by rw [apply, Step.parts, foldlM_applyPart_map fun _ _ => rfl]
  | .constructor type => by rw [apply, Step.parts]; rfl
  | .constructors types => by rw [apply, Step.parts, foldlM_applyPart_map fun _ _ => rfl]
  | .satisfy dependency satisfier => by rw [apply, Step.parts, satisfy_eq_foldlM]
  | .provider holder => by rw [apply, Step.parts]; rfl
  | .providers holders => by rw [apply, Step.parts, foldlM_applyPart_map fun _ _ => rfl]
  | .factory interface => by rw [apply, Step.parts]; rfl
  | .injectMethods receiver => by rw [apply, Step.parts]; rfl
  | .constructorAndInjectMethods type => by rw [apply, Step.parts]; rfl
  | .explicitValues required => by rw [apply, Step.parts]; rfl
  | .install steps => by rw [apply, Step.parts, applyAll_eq_foldlM]

/-- Steps do what their parts do. -/
theorem applyAll_eq_foldlM (builder : Builder) :
    (steps : List Step) → builder.applyAll steps = (Step.allParts steps).foldlM applyPart builder
  | [] => by rw [applyAll, Step.allParts]; rfl
  | step :: rest => by
    rw [applyAll, Step.allParts, List.foldlM_append, ← apply_eq_foldlM builder step]
    cases builder.apply step with
    | error error => rfl
    | ok next => exact applyAll_eq_foldlM next rest
end

/-! ## What is accepted -/

variable {builder middle next : Builder} {part : Part} {parts parts' rest : List Part}

/-- Aliases have plain names, and no key has two satisfiers. -/
structure Coherent (builder : Builder) : Prop where
  plain : ∀ declared ∈ builder.declarations.aliases,
    declared.dependency.qualified.Plain ∧ declared.satisfiedBy.qualified.Plain
  distinct : (builder.declarations.aliases.map (·.dependency)).Nodup

theorem Coherent.eq_of_mem (coherent : builder.Coherent) {declared other : Alias}
    (member : declared ∈ builder.declarations.aliases) (member' : other ∈ builder.declarations.aliases)
    (same : declared.dependency = other.dependency) : declared = other :=
  List.inj_on_of_nodup_map coherent.distinct member member' same

/-- Keys of plain names are told apart by their descriptors. -/
theorem Coherent.single (coherent : builder.Coherent) :
    (builder.declarations.aliases.map (·.dependency.descriptor)).Nodup :=
  (List.nodup_map_iff_inj_on (coherent.distinct.of_map _)).mpr fun declared member other member' same =>
    coherent.eq_of_mem member member'
      (DirectKey.descriptor_inj (coherent.plain declared member).1 (coherent.plain other member').1 same)

theorem findAlias?_eq_some (coherent : builder.Coherent) {key : DirectKey} (plain : key.qualified.Plain)
    {existing : Alias} : builder.findAlias? key = some existing ↔
      existing ∈ builder.declarations.aliases ∧ existing.dependency = key := by
  rw [findAlias?_eq_some_iff coherent.single]
  refine and_congr_right fun member => ⟨fun taken => ?_, fun same => same ▸ rfl⟩
  exact DirectKey.descriptor_inj (coherent.plain existing member).1 plain taken

private theorem findAlias?_eq_none (coherent : builder.Coherent) {key : DirectKey}
    (plain : key.qualified.Plain) :
    builder.findAlias? key = none ↔ ∀ other ∈ builder.declarations.aliases, other.dependency ≠ key := by
  rw [Option.eq_none_iff_forall_ne_some]
  simp only [ne_eq, findAlias?_eq_some coherent plain, not_and]

/-- An alias is declared unless it is there already; another satisfier of its dependency is
refused. -/
theorem declareAlias_eq_ok (coherent : builder.Coherent) {dependency satisfiedBy : QualifiedType}
    (plain : dependency.Plain ∧ satisfiedBy.Plain) :
    builder.declareAlias dependency satisfiedBy = .ok next ↔
      ∃ declared : Alias, declared.dependency.qualified = dependency ∧
        declared.satisfiedBy.qualified = satisfiedBy ∧
        builder.catalog.isAssignable dependency.type satisfiedBy.type = true ∧
        (declared ∈ builder.declarations.aliases ∧ next = builder ∨
          (∀ other ∈ builder.declarations.aliases, other.dependency ≠ declared.dependency) ∧
            next = builder.declare fun d => { d with aliases := d.aliases ++ [declared] }) := by
  constructor
  · intro done
    obtain ⟨key, other, rfl, rfl⟩ := exists_keys_of_declareAlias done
    obtain ⟨assignable, outcome⟩ := declareAlias_keys_eq_ok.mp done
    refine ⟨⟨key, other⟩, rfl, rfl, assignable, outcome.imp ?_ ?_⟩
    · rintro ⟨existing, found, repeated, rfl⟩
      obtain ⟨member, rfl⟩ := (findAlias?_eq_some coherent plain.1).mp found
      obtain rfl := DirectKey.descriptor_inj (coherent.plain existing member).2 plain.2 repeated
      exact ⟨member, rfl⟩
    · exact And.imp_left (findAlias?_eq_none coherent plain.1).mp
  · rintro ⟨declared, rfl, rfl, assignable, outcome⟩
    refine declareAlias_keys_eq_ok.mpr ⟨assignable, outcome.imp ?_ ?_⟩
    · rintro ⟨member, rfl⟩
      exact ⟨declared, (findAlias?_eq_some coherent plain.1).mpr ⟨member, rfl⟩, rfl, rfl⟩
    · exact And.imp_left (findAlias?_eq_none coherent plain.1).mpr

/-- The next builder holds what was there and what the parts take down, aliases aside. -/
structure Takes (builder : Builder) (parts : List Part) (next : Builder) : Prop where
  catalog : next.catalog = builder.catalog
  package : next.package = builder.package
  scopeName : next.scopeName = builder.scopeName
  values : next.declarations.values =
    builder.declarations.values ++ parts.flatMap (·.added.values)
  constructors : next.declarations.constructors =
    builder.declarations.constructors ++ parts.flatMap (·.added.constructors)
  providers : next.declarations.providers =
    builder.declarations.providers ++ parts.flatMap (·.added.providers)
  factories : next.declarations.factories =
    builder.declarations.factories ++ parts.flatMap (·.added.factories)
  injected : next.declarations.injected =
    builder.declarations.injected ++ parts.flatMap (·.added.injected)

/-- The parts are acceptable, and the next builder holds what was there and what they declare. -/
structure Accepts (builder : Builder) (parts : List Part) (next : Builder) : Prop
    extends Takes builder parts next where
  coherent : next.Coherent
  acceptable : ∀ part ∈ parts, part.Acceptable builder.catalog
  aliases : ∀ declared : Alias, declared ∈ next.declarations.aliases ↔
    declared ∈ builder.declarations.aliases ∨ ∃ part ∈ parts, part.Declares declared

private theorem Coherent.of_aliases (coherent : builder.Coherent)
    (aliases : next.declarations.aliases = builder.declarations.aliases) : next.Coherent :=
  ⟨aliases ▸ coherent.plain, aliases ▸ coherent.distinct⟩

theorem accepts_of_applyPart (coherent : builder.Coherent) (plain : part.Plain)
    (done : builder.applyPart part = .ok next) : builder.Accepts [part] next := by
  have accepts (takes : Takes builder [part] next)
      (aliases : next.declarations.aliases = builder.declarations.aliases)
      (acceptable : part.Acceptable builder.catalog) (none : ∀ declared, ¬ part.Declares declared) :
      builder.Accepts [part] next :=
    ⟨takes, coherent.of_aliases aliases, List.forall_mem_singleton.mpr acceptable,
      fun declared => by simp [aliases, none]⟩
  cases part with
  | satisfies dependency satisfiedBy =>
    obtain ⟨declared, rfl, rfl, assignable, outcome⟩ := (declareAlias_eq_ok coherent plain).mp done
    refine ⟨?_, ?_, List.forall_mem_singleton.mpr
      ⟨declared.dependency.notLazy, declared.satisfiedBy.notLazy, assignable⟩, fun other => ?_⟩
    · rcases outcome with ⟨_, rfl⟩ | ⟨_, rfl⟩ <;> constructor <;> simp [declare, Part.added]
    · rcases outcome with ⟨_, rfl⟩ | ⟨fresh, rfl⟩
      · exact coherent
      · refine ⟨List.forall_mem_append.mpr ⟨coherent.plain, List.forall_mem_singleton.mpr plain⟩, ?_⟩
        have unlisted : declared.dependency ∉ builder.declarations.aliases.map (·.dependency) := fun old =>
          (List.mem_map.mp old).elim fun other ⟨member, same⟩ => fresh other member same
        simpa [declare] using List.Nodup.concat unlisted coherent.distinct
    · simp only [List.mem_singleton, exists_eq_left, Part.declares_satisfies_iff]
      rcases outcome with ⟨already, rfl⟩ | ⟨_, rfl⟩
      · exact ⟨.inl, fun either => either.elim id fun same => same ▸ already⟩
      · simp [declare]
  | value type | constructor type | provider holder | factory interface | injectMethods receiver =>
    cases done
    exact accepts (by constructor <;> simp [value, constructor, provider, factory, injectMethods, declare,
      Part.added]) rfl trivial fun declared => by simp [Part.Declares]
  | explicitValues required =>
    cases done
    exact accepts (by constructor <;> simp [Part.added]) rfl trivial
      fun declared => by simp [Part.Declares]

theorem Takes.cons (first : builder.Takes [part] middle) (others : middle.Takes rest next) :
    builder.Takes (part :: rest) next where
  catalog := others.catalog.trans first.catalog
  package := others.package.trans first.package
  scopeName := others.scopeName.trans first.scopeName
  values := by simpa [first.values] using others.values
  constructors := by simpa [first.constructors] using others.constructors
  providers := by simpa [first.providers] using others.providers
  factories := by simpa [first.factories] using others.factories
  injected := by simpa [first.injected] using others.injected

theorem Accepts.cons (first : builder.Accepts [part] middle) (others : middle.Accepts rest next) :
    builder.Accepts (part :: rest) next where
  toTakes := first.toTakes.cons others.toTakes
  coherent := others.coherent
  acceptable := List.forall_mem_cons.mpr
    ⟨first.acceptable part List.mem_cons_self, first.catalog ▸ others.acceptable⟩
  aliases declared := by
    simp [others.aliases, first.aliases, or_assoc]

theorem accepts_of_foldlM (coherent : builder.Coherent) (plain : ∀ part ∈ parts, part.Plain)
    (done : parts.foldlM applyPart builder = .ok next) : builder.Accepts parts next := by
  induction parts generalizing builder with
  | nil =>
    cases done
    exact ⟨by constructor <;> simp, coherent, List.forall_mem_nil _, by simp⟩
  | cons part rest ih =>
    obtain ⟨middle, first, done⟩ := foldlM_cons_eq_ok.mp done
    obtain ⟨plainPart, plainRest⟩ := List.forall_mem_cons.mp plain
    have accepts := accepts_of_applyPart coherent plainPart first
    exact accepts.cons (ih accepts.coherent plainRest done)

/-- Acceptable parts are accepted unless a key gets two satisfiers. -/
theorem foldlM_applyPart_eq_ok (coherent : builder.Coherent) (plain : ∀ part ∈ parts, part.Plain)
    (acceptable : ∀ part ∈ parts, part.Acceptable builder.catalog)
    (single : ∀ declared other : Alias,
      (declared ∈ builder.declarations.aliases ∨ ∃ part ∈ parts, part.Declares declared) →
      (other ∈ builder.declarations.aliases ∨ ∃ part ∈ parts, part.Declares other) →
      declared.dependency = other.dependency → declared = other) :
    ∃ next, parts.foldlM applyPart builder = .ok next := by
  induction parts generalizing builder with
  | nil => exact ⟨builder, rfl⟩
  | cons part rest ih =>
    obtain ⟨plainPart, plainRest⟩ := List.forall_mem_cons.mp plain
    obtain ⟨acceptablePart, acceptableRest⟩ := List.forall_mem_cons.mp acceptable
    have first : ∃ middle, builder.applyPart part = .ok middle := by
      cases part with
      | satisfies dependency satisfiedBy =>
        obtain ⟨notLazy, notLazy', assignable⟩ := acceptablePart
        obtain ⟨declared, rfl, rfl⟩ : ∃ declared : Alias, declared.dependency.qualified = dependency ∧
            declared.satisfiedBy.qualified = satisfiedBy :=
          ⟨⟨⟨dependency, notLazy⟩, ⟨satisfiedBy, notLazy'⟩⟩, rfl, rfl⟩
        by_cases already : declared ∈ builder.declarations.aliases
        · exact ⟨_, (declareAlias_eq_ok coherent plainPart).mpr
            ⟨declared, rfl, rfl, assignable, .inl ⟨already, rfl⟩⟩⟩
        · refine ⟨_, (declareAlias_eq_ok coherent plainPart).mpr
            ⟨declared, rfl, rfl, assignable, .inr ⟨fun other member same => already ?_, rfl⟩⟩⟩
          exact single other declared (.inl member) (.inr ⟨_, List.mem_cons_self, rfl⟩) same ▸ member
      | value type | constructor type | provider holder | factory interface | injectMethods receiver
      | explicitValues required => exact ⟨_, rfl⟩
    obtain ⟨middle, first⟩ := first
    have accepts := accepts_of_applyPart coherent plainPart first
    have known (declared : Alias) :
        (declared ∈ middle.declarations.aliases ∨ ∃ part ∈ rest, part.Declares declared) ↔
          declared ∈ builder.declarations.aliases ∨ ∃ other ∈ part :: rest, other.Declares declared := by
      simp [accepts.aliases, or_assoc]
    obtain ⟨next, done⟩ := ih accepts.coherent plainRest (accepts.catalog ▸ acceptableRest)
      fun declared other => by simpa only [known] using single declared other
    exact ⟨next, foldlM_cons_eq_ok.mpr ⟨middle, first, done⟩⟩

private theorem Accepts.alike {next' : Builder} (accepts : builder.Accepts parts next)
    (accepts' : builder.Accepts parts' next') (same : parts.Perm parts') : next.Alike next' := by
  have taken {α : Type} (field : Part → List α) : (parts.flatMap field).Perm (parts'.flatMap field) :=
    same.flatMap_right field
  have distinct {builder : Builder} (coherent : builder.Coherent) : builder.declarations.aliases.Nodup :=
    coherent.distinct.of_map _
  refine ⟨accepts.catalog.trans accepts'.catalog.symm, accepts.package.trans accepts'.package.symm,
    accepts.scopeName.trans accepts'.scopeName.symm, ?_, ?_, ?_, ?_, ?_, ?_⟩
  · rw [accepts.values, accepts'.values]
    exact (taken _).append_left _
  · rw [accepts.constructors, accepts'.constructors]
    exact (taken _).append_left _
  · refine (List.perm_ext_iff_of_nodup (distinct accepts.coherent) (distinct accepts'.coherent)).mpr ?_
    intro declared
    simp only [accepts.aliases, accepts'.aliases, same.mem_iff]
  · rw [accepts.providers, accepts'.providers]
    exact (taken _).append_left _
  · rw [accepts.factories, accepts'.factories]
    exact (taken _).append_left _
  · rw [accepts.injected, accepts'.injected]
    exact (taken _).append_left _

/-- The same parts in another order are accepted as well and declare the same. -/
theorem foldlM_applyPart_perm (coherent : builder.Coherent) (plain : ∀ part ∈ parts, part.Plain)
    (same : parts.Perm parts') (done : parts.foldlM applyPart builder = .ok next) :
    ∃ next', parts'.foldlM applyPart builder = .ok next' ∧ next.Alike next' := by
  have accepts := accepts_of_foldlM coherent plain done
  have plain' : ∀ part ∈ parts', part.Plain := fun part member => plain part (same.mem_iff.mpr member)
  have single (declared other : Alias)
      (listed : declared ∈ builder.declarations.aliases ∨ ∃ part ∈ parts', part.Declares declared)
      (listed' : other ∈ builder.declarations.aliases ∨ ∃ part ∈ parts', part.Declares other) :
      declared.dependency = other.dependency → declared = other := by
    simp only [← same.mem_iff, ← accepts.aliases] at listed listed'
    exact accepts.coherent.eq_of_mem listed listed'
  obtain ⟨next', done'⟩ := foldlM_applyPart_eq_ok coherent plain'
    (fun part member => accepts.acceptable part (same.mem_iff.mpr member)) single
  exact ⟨next', done', accepts.alike (accepts_of_foldlM coherent plain' done') same⟩

private theorem coherent_create (catalog : Catalog) (package scopeName : String) :
    (create catalog package scopeName).Coherent :=
  ⟨List.forall_mem_nil _, List.nodup_nil⟩

private theorem Accepts.plain (accepts : builder.Accepts parts next) (plainBuilder : builder.Plain)
    (plain : ∀ part ∈ parts, part.Plain) : next.Plain := by
  have whole {α : Type} {holds : α → Prop} {old : List α} {field : Part → List α}
      (before : ∀ item ∈ old, holds item) (each : ∀ part ∈ parts, ∀ item ∈ field part, holds item) :
      ∀ item ∈ old ++ parts.flatMap field, holds item := by
    refine List.forall_mem_append.mpr ⟨before, fun item member => ?_⟩
    obtain ⟨part, listed, member⟩ := List.mem_flatMap.mp member
    exact each part listed item member
  have added (part : Part) (member : part ∈ parts) := (plain part member).added
  have old := plainBuilder.declarations
  refine ⟨accepts.catalog ▸ plainBuilder.catalog, ?_, ?_, accepts.coherent.plain, ?_, ?_, ?_⟩
  · exact accepts.values ▸ whole old.values fun part member => (added part member).values
  · exact accepts.constructors ▸
      whole old.constructors fun part member => (added part member).constructors
  · exact accepts.providers ▸ whole old.providers fun part member => (added part member).providers
  · exact accepts.factories ▸ whole old.factories fun part member => (added part member).factories
  · exact accepts.injected ▸ whole old.injected fun part member => (added part member).injected

/-! ## Steps in another order -/

/-- The plan that the steps are compiled to. -/
def compileSteps (catalog : Catalog) (package scopeName : String) (steps : List Step) :
    Except CompileError Plan :=
  (create catalog package scopeName).applyAll steps >>= compile

variable {catalog : Catalog} {package scopeName : String} {steps steps' : List Step}

/-- Either of the sequences, applied to an empty builder, leaves the same setting for values. -/
def SameSetting (catalog : Catalog) (package scopeName : String) (steps steps' : List Step) : Prop :=
  ∀ built built', (create catalog package scopeName).applyAll steps = .ok built →
    (create catalog package scopeName).applyAll steps' = .ok built' →
    built.explicitValues = built'.explicitValues

private theorem compileSteps_of_perm (same : steps.Perm steps')
    (setting : SameSetting catalog package scopeName steps steps') (plainCatalog : catalog.Plain)
    (plain : ∀ step ∈ steps, step.Plain) {plan : Plan}
    (compiled : compileSteps catalog package scopeName steps = .ok plan) :
    ∃ plan', compileSteps catalog package scopeName steps' = .ok plan' ∧ plan.Alike plan' := by
  obtain ⟨built, applied, compiled⟩ := bind_eq_ok.mp compiled
  have coherent := coherent_create catalog package scopeName
  have plainParts : ∀ part ∈ Step.allParts steps, part.Plain := by
    rw [Step.allParts_eq_flatMap]
    intro part member
    obtain ⟨step, listed, member⟩ := List.mem_flatMap.mp member
    exact plain step listed part member
  have parts : (Step.allParts steps).Perm (Step.allParts steps') := by
    rw [Step.allParts_eq_flatMap, Step.allParts_eq_flatMap]
    exact same.flatMap_right _
  have done := (applyAll_eq_foldlM _ _).symm.trans applied
  obtain ⟨built', done', alike⟩ := foldlM_applyPart_perm coherent plainParts parts done
  have applied' := (applyAll_eq_foldlM _ _).trans done'
  have plainBuilt := (accepts_of_foldlM coherent plainParts done).plain
    ⟨plainCatalog, by constructor <;> exact List.forall_mem_nil _⟩ plainParts
  obtain ⟨plan', compiled', plans⟩ :=
    compile_alike alike (setting built built' applied applied') plainBuilt compiled
  exact ⟨plan', bind_eq_ok.mpr ⟨built', applied', compiled'⟩, plans⟩

/-- The order of declaration does not matter: with the same setting for values in the end, steps in
another order compile as well, and to the same slots. -/
theorem compileSteps_perm (same : steps.Perm steps')
    (setting : SameSetting catalog package scopeName steps steps') (plainCatalog : catalog.Plain)
    (plain : ∀ step ∈ steps, step.Plain) :
    ((∃ plan, compileSteps catalog package scopeName steps = .ok plan) ↔
        ∃ plan, compileSteps catalog package scopeName steps' = .ok plan) ∧
      ∀ plan plan', compileSteps catalog package scopeName steps = .ok plan →
        compileSteps catalog package scopeName steps' = .ok plan' → plan.Alike plan' := by
  have back : SameSetting catalog package scopeName steps' steps := fun built built' applied applied' =>
    (setting built' built applied' applied).symm
  have plain' : ∀ step ∈ steps', step.Plain := fun step member => plain step (same.mem_iff.mpr member)
  refine ⟨⟨fun ⟨plan, compiled⟩ => ?_, fun ⟨plan, compiled⟩ => ?_⟩,
    fun plan plan' compiled compiled' => ?_⟩
  · obtain ⟨plan', compiled', _⟩ := compileSteps_of_perm same setting plainCatalog plain compiled
    exact ⟨plan', compiled'⟩
  · obtain ⟨plan', compiled', _⟩ := compileSteps_of_perm same.symm back plainCatalog plain' compiled
    exact ⟨plan', compiled'⟩
  · obtain ⟨again, compiledAgain, alike⟩ := compileSteps_of_perm same setting plainCatalog plain compiled
    cases compiledAgain.symm.trans compiled'
    exact alike

end Builder

/-- A depot parks trucks, which are vehicles, and provides the radio that a truck asks for later on. -/
def Catalog.depot : Catalog :=
  ⟨[{ name := "Depot"
      constructors := [{}]
      methods := [
        { name := "park", params := [.plain (.named "Vehicle")], injected := true },
        { name := "tune", returns := some (.named "Radio"), provides := true }] },
    { name := "Truck"
      supertypes := ["Vehicle"]
      constructors := [{ params := [.plain (.named "Engine"), .plain (.lazy (.named "Radio"))] }] },
    { name := "TruckFactory"
      methods := [
        { name := "build", params := [.plain (.named "Engine")], returns := some (.named "Truck") }] }],
    by decide⟩

/-- One step of each kind. -/
def Step.depot : List Step :=
  [.satisfy (.plain (.named "Vehicle")) (.constructed (.named "Truck")), .constructor (.named "Depot"),
    .injectMethods (.plain (.named "Depot")), .provider (.named "Depot"),
    .factory (.plain (.named "TruckFactory")), .value (.plain (.named "Driver"))]

theorem Builder.compileSteps_perm_depot :
    Step.depot.Perm Step.depot.reverse ∧ Catalog.depot.Plain ∧ (∀ step ∈ Step.depot, step.Plain) ∧
      ∃ plan plan', compileSteps .depot "demo" "City" Step.depot = .ok plan ∧
        compileSteps .depot "demo" "City" Step.depot.reverse = .ok plan' ∧
        plan.cached.map (·.identifier) = ["truck", "depot", "radio"] ∧ plan.Alike plan' := by
  have same : Step.depot.Perm Step.depot.reverse := (List.reverse_perm _).symm
  have plainCatalog : Catalog.depot.Plain := by decide +kernel
  have plain : ∀ step ∈ Step.depot, step.Plain := by decide +kernel
  have built : ∃ built, (create .depot "demo" "City").applyAll Step.depot = .ok built ∧
      built.explicitValues = false := ⟨_, by cbv, rfl⟩
  have built' : ∃ built, (create .depot "demo" "City").applyAll Step.depot.reverse = .ok built ∧
      built.explicitValues = false := ⟨_, by cbv, rfl⟩
  have setting : SameSetting .depot "demo" "City" Step.depot Step.depot.reverse := by
    obtain ⟨first, applied, off⟩ := built
    obtain ⟨second, applied', off'⟩ := built'
    intro built built' again again'
    cases applied.symm.trans again
    cases applied'.symm.trans again'
    exact off.trans off'.symm
  have compiled : ∃ plan, compileSteps .depot "demo" "City" Step.depot = .ok plan ∧
      plan.cached.map (·.identifier) = ["truck", "depot", "radio"] := ⟨_, by cbv, rfl⟩
  obtain ⟨plan, compiled, slots⟩ := compiled
  obtain ⟨succeeds, alike⟩ := compileSteps_perm same setting plainCatalog plain
  obtain ⟨plan', compiled'⟩ := succeeds.mp ⟨plan, compiled⟩
  exact ⟨same, plainCatalog, plain, plan, plan', compiled, compiled', slots,
    alike plan plan' compiled compiled'⟩

end Wiring
