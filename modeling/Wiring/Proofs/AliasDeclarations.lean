import Wiring.Proofs.DeclarationOrder

/-! # Which aliases are recorded

An alias is looked at when it is declared, and what is recorded of a sequence of declarations are its
distinct aliases, in order of first declaration. No key has two satisfiers among them, so declaring an
alias again changes nothing, and a compilation never meets two aliases of one key.

Keys are compared by descriptor here, as everywhere, and names may be of any form.

Main statement: `Builder.aliases_of_applyAll`.
-/

namespace Wiring

section Distinct

/-! ## Distinct items -/

variable {α : Type} {same : α → α → Bool}

private theorem eraseDupsBy_loop_concat (items : List α) (item : α) (kept : List α) :
    List.eraseDupsBy.loop same (items ++ [item]) kept =
      List.eraseDupsBy.loop same items kept ++
        if (List.eraseDupsBy.loop same items kept).any (same item) then [] else [item] := by
  induction items generalizing kept with
  | nil =>
    simp only [List.nil_append, List.eraseDupsBy.loop, List.any_reverse]
    cases kept.any (same item) <;> simp
  | cons head rest ih =>
    cases known : kept.any (same head) with
    | true => simpa only [List.cons_append, List.eraseDupsBy.loop, known] using ih kept
    | false => simpa only [List.cons_append, List.eraseDupsBy.loop, known] using ih (head :: kept)

/-- One more item is distinct from the ones before it unless it is like one of them. -/
theorem eraseDupsBy_concat (items : List α) (item : α) :
    (items ++ [item]).eraseDupsBy same =
      items.eraseDupsBy same ++ if (items.eraseDupsBy same).any (same item) then [] else [item] :=
  eraseDupsBy_loop_concat items item []

/-- What is not kept is like something that is. -/
theorem exists_mem_eraseDupsBy (reflexive : ∀ item, same item item = true) {items : List α} {item : α}
    (member : item ∈ items) : ∃ kept ∈ items.eraseDupsBy same, same item kept = true := by
  induction items using List.reverseRecOn with
  | nil => cases member
  | append_singleton items last ih =>
    rw [eraseDupsBy_concat]
    rcases List.mem_append.mp member with earlier | here
    · obtain ⟨kept, listed, like⟩ := ih earlier
      exact ⟨kept, List.mem_append_left _ listed, like⟩
    · obtain rfl := List.mem_singleton.mp here
      cases known : (items.eraseDupsBy same).any (same item) with
      | true =>
        obtain ⟨kept, listed, like⟩ := List.any_eq_true.mp known
        exact ⟨kept, List.mem_append_left _ listed, like⟩
      | false => exact ⟨item, List.mem_append_right _ List.mem_cons_self, reflexive item⟩

end Distinct

section Pairs

/-! ## Declared pairs -/

/-- The dependency and what satisfies it, as they were named. -/
def Alias.pair (declared : Alias) : QualifiedType × QualifiedType :=
  (declared.dependency.qualified, declared.satisfiedBy.qualified)

/-- Pairs are compared by the keys of both sides. -/
def samePair (a b : QualifiedType × QualifiedType) : Bool :=
  a.1.descriptor = b.1.descriptor && a.2.descriptor = b.2.descriptor

private theorem samePair_self (pair : QualifiedType × QualifiedType) : samePair pair pair = true := by
  simp [samePair]

theorem samePair_iff {key other : DirectKey} {recorded : Alias} :
    samePair (key.qualified, other.qualified) recorded.pair = true ↔
      key.descriptor = recorded.dependency.descriptor ∧
        other.descriptor = recorded.satisfiedBy.descriptor := by
  rw [samePair, Bool.and_eq_true, decide_eq_true_iff, decide_eq_true_iff]
  rfl

def Part.pair? : Part → Option (QualifiedType × QualifiedType)
  | satisfies dependency satisfiedBy => some (dependency, satisfiedBy)
  | _ => none

def Step.pairs (steps : List Step) : List (QualifiedType × QualifiedType) :=
  (allParts steps).filterMap Part.pair?

def Satisfier.type : Satisfier → QualifiedType
  | bound type => type
  | value type => type
  | constructed type => .plain type

/-- A type has a key of its own unless it is a deferred handle. -/
theorem DirectKey.exists_ofType_error_iff {type : QualifiedType} :
    (∃ error, ofType type = .error error) ↔ type.type.isLazy = true := by
  constructor
  · rintro ⟨error, refused⟩
    refine Bool.not_eq_false _ |>.mp fun notLazy => ?_
    rw [ofType_of_notLazy notLazy] at refused
    cases refused
  · intro deferred
    cases built : ofType type with
    | error error => exact ⟨error, rfl⟩
    | ok key =>
      obtain rfl := qualified_of_ofType built
      exact absurd deferred (Bool.eq_false_iff.mp key.notLazy)

end Pairs

namespace Builder

variable {builder next : Builder} {dependency satisfiedBy : QualifiedType} {error : CompileError}
  {seen : List (QualifiedType × QualifiedType)} {part : Part} {parts : List Part}

/-- Why an alias is refused. A cause is reported if no earlier one holds. -/
inductive Refuses (builder : Builder) (dependency satisfiedBy : QualifiedType) : CompileError → Prop
  | dependency {error : CompileError} (invalid : DirectKey.ofType dependency = .error error) :
    Refuses builder dependency satisfiedBy error
  | satisfier {error : CompileError} (direct : dependency.type.isLazy = false)
    (invalid : DirectKey.ofType satisfiedBy = .error error) :
    Refuses builder dependency satisfiedBy error
  | unassignable (direct : dependency.type.isLazy = false) (direct' : satisfiedBy.type.isLazy = false)
    (unrelated : builder.catalog.isAssignable dependency.type satisfiedBy.type = false) :
    Refuses builder dependency satisfiedBy
      (.unassignableAlias dependency.descriptor satisfiedBy.descriptor)
  | conflicting {existing : Alias} (direct : dependency.type.isLazy = false)
    (direct' : satisfiedBy.type.isLazy = false)
    (assignable : builder.catalog.isAssignable dependency.type satisfiedBy.type = true)
    (member : existing ∈ builder.declarations.aliases)
    (taken : existing.dependency.descriptor = dependency.descriptor)
    (other : existing.satisfiedBy.descriptor ≠ satisfiedBy.descriptor) :
    Refuses builder dependency satisfiedBy
      (.conflictingAlias dependency.descriptor existing.satisfiedBy.descriptor satisfiedBy.descriptor)

/-- Each of the pairs is acceptable. Recorded are the distinct ones of them, in order, and no key has two
satisfiers. -/
structure Records (builder : Builder) (seen : List (QualifiedType × QualifiedType)) : Prop where
  pairs : builder.declarations.aliases.map Alias.pair = seen.eraseDupsBy samePair
  single : (builder.declarations.aliases.map (·.dependency.descriptor)).Nodup
  acceptable : ∀ pair ∈ seen, (Part.satisfies pair.1 pair.2).Acceptable builder.catalog

section Declaring

/-! ## Declaring one alias -/

/-- Between two instances two causes are left. -/
theorem refuses_keys_iff {key other : DirectKey} :
    builder.Refuses key.qualified other.qualified error ↔
      builder.catalog.isAssignable key.type other.type = false ∧
        error = .unassignableAlias key.descriptor other.descriptor ∨
      builder.catalog.isAssignable key.type other.type = true ∧
        ∃ existing ∈ builder.declarations.aliases, existing.dependency.descriptor = key.descriptor ∧
          existing.satisfiedBy.descriptor ≠ other.descriptor ∧
          error = .conflictingAlias key.descriptor existing.satisfiedBy.descriptor other.descriptor := by
  constructor
  · rintro (invalid | ⟨_, invalid⟩ | ⟨_, _, unrelated⟩ | ⟨_, _, assignable, member, taken, different⟩)
    · simp [DirectKey.ofType_of_notLazy key.notLazy] at invalid
    · simp [DirectKey.ofType_of_notLazy other.notLazy] at invalid
    · exact .inl ⟨unrelated, rfl⟩
    · exact .inr ⟨assignable, _, member, taken, different, rfl⟩
  · rintro (⟨unrelated, rfl⟩ | ⟨assignable, existing, member, taken, different, rfl⟩)
    · exact .unassignable key.notLazy other.notLazy unrelated
    · exact .conflicting key.notLazy other.notLazy assignable member taken different

/-- Between two instances a declaration is refused for just these causes. -/
theorem declareAlias_keys_eq_error
    (single : (builder.declarations.aliases.map (·.dependency.descriptor)).Nodup) {key other : DirectKey} :
    builder.declareAlias key.qualified other.qualified = .error error ↔
      builder.Refuses key.qualified other.qualified error := by
  rw [declareAlias_keys, refuses_keys_iff]
  cases builder.catalog.isAssignable key.type other.type with
  | false => simp [eq_comm]
  | true =>
    cases found : builder.findAlias? key with
    | none => simp +contextual [findAlias?_eq_none_iff.mp found]
    | some existing =>
      -- the alias that is found is the only one there is
      have only (holds : Alias → Prop) : (∃ another ∈ builder.declarations.aliases,
          another.dependency.descriptor = key.descriptor ∧ holds another) ↔ holds existing := by
        simp only [← and_assoc, ← findAlias?_eq_some_iff single, found, Option.some_inj, exists_eq_left']
      rw [only]
      by_cases repeated : existing.satisfiedBy.descriptor = other.descriptor
      · simp [repeated]
      · simp [repeated, @eq_comm _ error]

/-- A declaration is refused for just these causes. -/
theorem declareAlias_eq_error
    (single : (builder.declarations.aliases.map (·.dependency.descriptor)).Nodup) :
    builder.declareAlias dependency satisfiedBy = .error error ↔
      builder.Refuses dependency satisfiedBy error := by
  cases built : DirectKey.ofType dependency with
  | error failure =>
    rw [declareAlias_of_invalid built, Except.error.injEq]
    refine ⟨fun same => same ▸ .dependency built, fun refused => ?_⟩
    have deferred := DirectKey.exists_ofType_error_iff.mp ⟨failure, built⟩
    cases refused with
    | dependency invalid => exact Except.error.inj (built.symm.trans invalid)
    | _ => simp_all
  | ok key =>
    obtain rfl := DirectKey.qualified_of_ofType built
    cases built' : DirectKey.ofType satisfiedBy with
    | error failure =>
      rw [declareAlias_of_invalid_satisfier built built', Except.error.injEq]
      refine ⟨fun same => same ▸ .satisfier key.notLazy built', fun refused => ?_⟩
      have deferred := DirectKey.exists_ofType_error_iff.mp ⟨failure, built'⟩
      cases refused with
      | dependency invalid => simp [built] at invalid
      | satisfier _ invalid => exact Except.error.inj (built'.symm.trans invalid)
      | _ => simp_all
    | ok other =>
      obtain rfl := DirectKey.qualified_of_ofType built'
      exact declareAlias_keys_eq_error single

end Declaring

section Recording

/-! ## What a sequence records -/

/-- An alias that is accepted is recorded unless it is there. -/
theorem Records.declareAlias (records : builder.Records seen)
    (done : builder.declareAlias dependency satisfiedBy = .ok next) :
    next.Records (seen ++ [(dependency, satisfiedBy)]) := by
  obtain ⟨key, other, rfl, rfl⟩ := exists_keys_of_declareAlias done
  obtain ⟨assignable, outcome⟩ := declareAlias_keys_eq_ok.mp done
  have acceptable : ∀ pair ∈ seen ++ [(key.qualified, other.qualified)],
      (Part.satisfies pair.1 pair.2).Acceptable builder.catalog :=
    List.forall_mem_append.mpr ⟨records.acceptable, List.forall_mem_singleton.mpr
      ⟨key.notLazy, other.notLazy, assignable⟩⟩
  have known : (seen.eraseDupsBy samePair).any (samePair (key.qualified, other.qualified)) = true ↔
      ∃ existing ∈ builder.declarations.aliases, key.descriptor = existing.dependency.descriptor ∧
        other.descriptor = existing.satisfiedBy.descriptor := by
    rw [← records.pairs, List.any_map, List.any_eq_true]
    exact exists_congr fun existing => and_congr_right fun _ => samePair_iff
  rcases outcome with ⟨existing, found, repeated, rfl⟩ | ⟨free, rfl⟩
  · refine ⟨?_, records.single, acceptable⟩
    rw [records.pairs, eraseDupsBy_concat, if_pos, List.append_nil]
    exact known.mpr ⟨existing, mem_of_findAlias? found, (findAlias?_descriptor found).symm, repeated.symm⟩
  · have free := findAlias?_eq_none_iff.mp free
    refine ⟨?_, ?_, acceptable⟩
    · rw [eraseDupsBy_concat, if_neg, ← records.pairs]
      · exact List.map_append
      · exact fun taken => (known.mp taken).elim fun existing ⟨member, same, _⟩ => free existing member same.symm
    · have unlisted : key.descriptor ∉ builder.declarations.aliases.map (·.dependency.descriptor) :=
        fun listed => (List.mem_map.mp listed).elim fun existing ⟨member, same⟩ => free existing member same
      simpa [declare] using List.Nodup.concat unlisted records.single

private theorem Records.applyPart (records : builder.Records seen)
    (done : builder.applyPart part = .ok next) :
    next.Records (seen ++ part.pair?.toList) := by
  cases part with
  | satisfies dependency satisfiedBy => exact records.declareAlias done
  | _ =>
    cases done
    change Records _ (seen ++ [])
    rw [List.append_nil]
    exact ⟨records.pairs, records.single, records.acceptable⟩

/-- Parts record the pairs of the aliases among them. -/
theorem Records.foldlM (records : builder.Records seen)
    (done : parts.foldlM Builder.applyPart builder = .ok next) :
    next.Records (seen ++ parts.filterMap Part.pair?) := by
  induction parts generalizing builder seen with
  | nil =>
    cases done
    rwa [List.filterMap_nil, List.append_nil]
  | cons part rest ih =>
    obtain ⟨middle, first, others⟩ := foldlM_cons_eq_ok.mp done
    have whole := ih (records.applyPart first) others
    rw [List.append_assoc] at whole
    have split : (part :: rest).filterMap Part.pair? =
        part.pair?.toList ++ rest.filterMap Part.pair? := by
      cases pair : part.pair? <;> simp [pair]
    rwa [split]

private theorem records_create (catalog : Catalog) (package scopeName : String) :
    (create catalog package scopeName).Records [] :=
  ⟨rfl, List.nodup_nil, List.forall_mem_nil _⟩

/-- An alias that was declared is accepted again, and changes nothing. -/
theorem Records.declareAlias_again (records : builder.Records seen)
    (member : (dependency, satisfiedBy) ∈ seen) :
    builder.declareAlias dependency satisfiedBy = .ok builder := by
  obtain ⟨direct, direct', assignable⟩ := records.acceptable _ member
  obtain ⟨key, rfl⟩ : ∃ key : DirectKey, key.qualified = dependency := ⟨⟨_, direct⟩, rfl⟩
  obtain ⟨other, rfl⟩ : ∃ other : DirectKey, other.qualified = satisfiedBy := ⟨⟨_, direct'⟩, rfl⟩
  obtain ⟨_, listed, same⟩ := exists_mem_eraseDupsBy samePair_self member
  rw [← records.pairs] at listed
  obtain ⟨existing, recorded, rfl⟩ := List.mem_map.mp listed
  obtain ⟨taken, repeated⟩ := samePair_iff.mp same
  have found := (findAlias?_eq_some_iff records.single).mpr ⟨recorded, taken.symm⟩
  have related : ¬ builder.catalog.isAssignable key.type other.type = false :=
    Bool.not_eq_false _ |>.mpr assignable
  rw [declareAlias_keys, if_neg related, found]
  exact if_pos repeated.symm

end Recording

section Forms

/-! ## The three forms -/

/-- Whatever brings the satisfier, it is the alias that may be refused. -/
theorem satisfy_eq_error {satisfier : Satisfier} : builder.satisfy dependency satisfier = .error error ↔
    builder.declareAlias dependency satisfier.type = .error error := by
  cases satisfier <;> simp only [satisfy, Satisfier.type] <;>
    cases builder.declareAlias dependency _ <;> simp

/-- What brings the satisfier leaves aliases alone. -/
theorem aliases_of_satisfy {satisfier : Satisfier}
    (done : builder.declareAlias dependency satisfier.type = .ok next) :
    ∃ last, builder.satisfy dependency satisfier = .ok last ∧
      last.declarations.aliases = next.declarations.aliases := by
  cases satisfier <;> rw [Satisfier.type] at done <;> rw [satisfy, done] <;> exact ⟨_, rfl, rfl⟩

end Forms

end Builder

section Seeding

/-! ## Aliases in a compilation -/

variable {session next : Session} {key : DirectKey} {kind first second : BindingKind} {text : String}

private theorem DirectKey.ofType_ne_duplicateBinding (type : QualifiedType) :
    ofType type ≠ .error (.duplicateBinding text first second) := by
  unfold ofType Key.ofType
  intro refused
  rcases bind_eq_error.mp refused with refused | ⟨full, _, refused⟩
  · split at refused
    · split at refused
      · cases refused
      · split at refused
        · split at refused <;> cases refused
        · cases refused
    · cases refused
  · cases full <;> cases refused

private theorem Session.satisfy_eq_error {error : CompileError}
    (refused : session.satisfy key kind = .error error) :
    ∃ entry ∈ session.satisfied, entry.1.descriptor = key.descriptor ∧
      error = .duplicateBinding key.descriptor entry.2 kind := by
  unfold satisfy at refused
  split at refused
  next first found =>
    cases refused
    obtain ⟨entry, searched, rfl⟩ := Option.map_eq_some_iff.mp found
    refine ⟨entry, List.mem_of_find?_eq_some searched, ?_, rfl⟩
    simpa [DirectKey.sameAs] using List.find?_some searched
  next => cases refused

/-- Whatever is satisfied is a declared value or the dependency of one of the aliases. -/
def Session.Seeded (sources : List Alias) (session : Session) : Prop :=
  ∀ entry ∈ session.satisfied, entry.2 = .value ∨ ∃ declared ∈ sources, declared.dependency = entry.1

private theorem Session.Seeded.seedValue {sources : List Alias} {type : QualifiedType}
    (seeded : session.Seeded sources) (done : session.seedValue type = .ok next) :
    next.Seeded sources := by
  obtain ⟨key, _, _, rfl⟩ := seedValue_adds done
  exact List.forall_mem_append.mpr ⟨seeded, List.forall_mem_singleton.mpr (.inl rfl)⟩

private theorem Session.Seeded.seedAlias {sources : List Alias} {declared : Alias}
    (seeded : session.Seeded sources) (member : declared ∈ sources)
    (done : session.seedAlias declared = .ok next) : next.Seeded sources := by
  obtain ⟨_, rfl⟩ := satisfy_adds done
  exact List.forall_mem_append.mpr
    ⟨seeded, List.forall_mem_singleton.mpr (.inr ⟨declared, member, rfl⟩)⟩

/-- Where no key has two satisfiers, the first of two bindings that meet in the first phase is a
declared value. -/
theorem Declarations.seed_duplicate {declarations : Declarations}
    (single : (declarations.aliases.map (·.dependency.descriptor)).Nodup)
    (refused : declarations.seed = .error (.duplicateBinding text first second)) : first = .value := by
  have valued (sources : List Alias) {values : List QualifiedType} {session : Session}
      (done : values.foldlM Session.seedValue { pending := declarations.factories } = .ok session) :
      session.Seeded sources :=
    foldlM_keeps done (fun _ _ _ _ done seeded => Session.Seeded.seedValue seeded done)
      (List.forall_mem_nil _)
  rcases bind_eq_error.mp refused with refused | ⟨session, values, refused⟩
  · obtain ⟨before, type, after, session, _, values, refused⟩ := foldlM_eq_error.mp refused
    rcases bind_eq_error.mp refused with refused | ⟨key, _, refused⟩
    · exact absurd refused (DirectKey.ofType_ne_duplicateBinding type)
    · rcases bind_eq_error.mp refused with refused | ⟨_, _, refused⟩
      · obtain ⟨entry, member, _, same⟩ := Session.satisfy_eq_error refused
        cases same
        rcases valued [] values entry member with value | ⟨_, none, _⟩
        · exact value
        · cases none
      · cases refused
  · obtain ⟨before, declared, after, middle, split, aliases, refused⟩ := foldlM_eq_error.mp refused
    obtain ⟨entry, member, taken, same⟩ := Session.satisfy_eq_error refused
    cases same
    have seeded : middle.Seeded before :=
      foldlM_keeps aliases (fun _ member _ _ done seeded => seeded.seedAlias member done)
        (valued before values)
    rcases seeded entry member with value | ⟨earlier, listed, dependency⟩
    · exact value
    · rw [split, List.map_append, List.map_cons] at single
      have apart := (List.nodup_append.mp single).2.2 _ (List.mem_map.mpr ⟨earlier, listed, rfl⟩) _
        List.mem_cons_self
      exact absurd (dependency ▸ taken) apart

end Seeding

namespace Builder

/-- Of any steps, the aliases among them are refused for the causes above, the first that is refused
refusing the whole. After steps that were accepted the distinct aliases among them are recorded, in
order of first declaration and with one satisfier for each key. A later alias is refused for the same
causes, one that was declared before is accepted and changes nothing, and no two aliases meet when the
declarations are compiled. -/
theorem aliases_of_applyAll (catalog : Catalog) (package scopeName : String) (steps : List Step) :
    (∀ error, (create catalog package scopeName).applyAll steps = .error error ↔
      ∃ before dependency satisfiedBy after builder,
        Step.allParts steps = before ++ .satisfies dependency satisfiedBy :: after ∧
        before.foldlM applyPart (create catalog package scopeName) = .ok builder ∧
        builder.Records (before.filterMap Part.pair?) ∧
        builder.Refuses dependency satisfiedBy error) ∧
    ∀ builder, (create catalog package scopeName).applyAll steps = .ok builder →
      builder.declarations.aliases.map Alias.pair = (Step.pairs steps).eraseDupsBy samePair ∧
      (builder.declarations.aliases.map (·.dependency.descriptor)).Nodup ∧
      (∀ dependency satisfier error, builder.satisfy dependency satisfier = .error error ↔
        builder.Refuses dependency satisfier.type error) ∧
      (∀ dependency satisfier, (dependency, satisfier.type) ∈ Step.pairs steps →
        ∃ next, builder.satisfy dependency satisfier = .ok next ∧
          next.declarations.aliases = builder.declarations.aliases) ∧
      ∀ key, builder.declarations.seed ≠ .error (.duplicateBinding key .aliased .aliased) := by
  have empty := records_create catalog package scopeName
  refine ⟨fun error => ?_, fun builder done => ?_⟩
  · rw [applyAll_eq_foldlM, foldlM_eq_error]
    constructor
    · rintro ⟨before, part, after, builder, split, done, refused⟩
      have records : builder.Records (before.filterMap Part.pair?) := empty.foldlM done
      cases part with
      | satisfies dependency satisfiedBy =>
        exact ⟨before, dependency, satisfiedBy, after, builder, split, done, records,
          (declareAlias_eq_error records.single).mp refused⟩
      | _ => cases refused
    · rintro ⟨before, dependency, satisfiedBy, after, builder, split, done, records, refused⟩
      exact ⟨before, _, after, builder, split, done, (declareAlias_eq_error records.single).mpr refused⟩
  · rw [applyAll_eq_foldlM] at done
    have records : builder.Records (Step.pairs steps) := empty.foldlM done
    refine ⟨records.pairs, records.single, fun dependency satisfier error => ?_,
      fun dependency satisfier member => ?_, fun key refused => ?_⟩
    · rw [satisfy_eq_error, declareAlias_eq_error records.single]
    · exact aliases_of_satisfy (records.declareAlias_again member)
    · cases Declarations.seed_duplicate records.single refused

end Builder

/-- A disk is a store, and memory is a store and a cache. -/
def Catalog.shelf : Catalog :=
  ⟨[{ name := "Disk", supertypes := ["Store"], constructors := [{}] },
    { name := "Memory", supertypes := ["Cache", "Store"], constructors := [{}] }], by decide⟩

/-- The disk is declared to be the store in each of two groups. -/
def Step.shelf : List Step :=
  [.satisfy (.plain (.named "Store")) (.constructed (.named "Disk")),
    .install [.satisfy (.plain (.named "Cache")) (.value (.plain (.named "Memory"))),
      .satisfy (.plain (.named "Store")) (.bound (.plain (.named "Disk")))]]

theorem Builder.aliases_shelf : ∃ builder,
    (create .shelf "demo" "Shelf").applyAll Step.shelf = .ok builder ∧
    (Step.pairs Step.shelf).length = 3 ∧
    builder.declarations.aliases.map Alias.pair =
      [(.plain (.named "Store"), .plain (.named "Disk")),
        (.plain (.named "Cache"), .plain (.named "Memory"))] ∧
    (∃ next, builder.satisfy (.plain (.named "Store")) (.value (.plain (.named "Disk"))) = .ok next ∧
      next.declarations.aliases = builder.declarations.aliases) ∧
    builder.Refuses (.plain (.named "Store")) (.plain (.named "Memory"))
      (.conflictingAlias "Store" "Disk" "Memory") ∧
    builder.Refuses (.plain (.named "Cache")) (.plain (.named "Disk"))
      (.unassignableAlias "Cache" "Disk") ∧
    builder.Refuses (.plain (.named "Store")) (.plain (.lazy (.named "Disk")))
      (.lazyNotPermitted "Lazy<Disk>") ∧
    ∀ key, builder.declarations.seed ≠ .error (.duplicateBinding key .aliased .aliased) := by
  have applied : ∃ builder, (create .shelf "demo" "Shelf").applyAll Step.shelf = .ok builder ∧
      builder.satisfy (.plain (.named "Store")) (.constructed (.named "Memory")) =
        .error (.conflictingAlias "Store" "Disk" "Memory") ∧
      builder.satisfy (.plain (.named "Cache")) (.bound (.plain (.named "Disk"))) =
        .error (.unassignableAlias "Cache" "Disk") ∧
      builder.satisfy (.plain (.named "Store")) (.value (.plain (.lazy (.named "Disk")))) =
        .error (.lazyNotPermitted "Lazy<Disk>") := ⟨_, by cbv, by cbv, by cbv, by cbv⟩
  obtain ⟨builder, done, taken, unrelated, deferred⟩ := applied
  obtain ⟨pairs, _, refuses, again, seeds⟩ :=
    (aliases_of_applyAll .shelf "demo" "Shelf" Step.shelf).2 builder done
  have distinct : (Step.pairs Step.shelf).eraseDupsBy samePair =
      [(.plain (.named "Store"), .plain (.named "Disk")),
        (.plain (.named "Cache"), .plain (.named "Memory"))] := by decide
  exact ⟨builder, done, rfl, pairs.trans distinct,
    again (.plain (.named "Store")) (.value (.plain (.named "Disk"))) (List.mem_cons_self ..),
    (refuses _ _ _).mp taken, (refuses _ _ _).mp unrelated, (refuses _ _ _).mp deferred, seeds⟩

end Wiring
