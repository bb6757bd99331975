import Wiring.Proofs.Compilation.Draining

/-! # Declaring an alias

An alias is declared between two instances. It is checked against the catalog, and then against the
alias that is found for its dependency: there it is accepted again or refused, and without one it is
recorded. An alias is found by the descriptor of its dependency, so it is the only one that can be
found if no two dependencies share a descriptor.

Main statements: `Builder.declareAlias_keys` and `Builder.declareAlias_keys_eq_ok`.
-/

namespace Wiring.Builder

variable {builder next : Builder} {dependency satisfiedBy : QualifiedType} {key other : DirectKey}
  {existing : Alias} {error : CompileError}

section Lookup

/-! ## Looking an alias up -/

/-- An alias that is found has been declared. -/
theorem mem_of_findAlias? (found : builder.findAlias? key = some existing) :
    existing ∈ builder.declarations.aliases :=
  List.mem_of_find?_eq_some found

/-- An alias that is found stands for the key that was asked for. -/
theorem findAlias?_descriptor (found : builder.findAlias? key = some existing) :
    existing.dependency.descriptor = key.descriptor := by
  simpa [DirectKey.sameAs] using List.find?_some found

/-- No alias is found if none stands for the key. -/
theorem findAlias?_eq_none_iff : builder.findAlias? key = none ↔
    ∀ existing ∈ builder.declarations.aliases, existing.dependency.descriptor ≠ key.descriptor := by
  simp [findAlias?, DirectKey.sameAs]

/-- Where no key has two aliases, the alias of a key is found. -/
theorem findAlias?_eq_some_iff (single : (builder.declarations.aliases.map (·.dependency.descriptor)).Nodup) :
    builder.findAlias? key = some existing ↔
      existing ∈ builder.declarations.aliases ∧ existing.dependency.descriptor = key.descriptor := by
  refine ⟨fun found => ⟨mem_of_findAlias? found, findAlias?_descriptor found⟩, ?_⟩
  rintro ⟨member, taken⟩
  cases found : builder.findAlias? key with
  | none => exact absurd taken (findAlias?_eq_none_iff.mp found existing member)
  | some first =>
    have same := (findAlias?_descriptor found).trans taken.symm
    exact congrArg some (List.inj_on_of_nodup_map single (mem_of_findAlias? found) member same)

end Lookup

section Declaring

/-! ## What a declaration does -/

/-- An alias for what has no key is refused. -/
theorem declareAlias_of_invalid (invalid : DirectKey.ofType dependency = .error error) :
    builder.declareAlias dependency satisfiedBy = .error error := by
  rw [declareAlias, invalid]
  rfl

theorem declareAlias_of_invalid_satisfier (built : DirectKey.ofType dependency = .ok key)
    (invalid : DirectKey.ofType satisfiedBy = .error error) :
    builder.declareAlias dependency satisfiedBy = .error error := by
  rw [declareAlias, built, invalid]
  rfl

/-- Both sides of an alias that is accepted are instances. -/
theorem exists_keys_of_declareAlias (done : builder.declareAlias dependency satisfiedBy = .ok next) :
    ∃ key other : DirectKey, key.qualified = dependency ∧ other.qualified = satisfiedBy := by
  obtain ⟨key, built, done⟩ := bind_eq_ok.mp done
  obtain ⟨other, built', _⟩ := bind_eq_ok.mp done
  exact ⟨key, other, DirectKey.qualified_of_ofType built, DirectKey.qualified_of_ofType built'⟩

/-- Between two instances an alias is checked against the catalog, and then against the one that is
recorded for its dependency. -/
theorem declareAlias_keys (builder : Builder) (key other : DirectKey) :
    builder.declareAlias key.qualified other.qualified =
      if builder.catalog.isAssignable key.type other.type = false then
        .error (.unassignableAlias key.descriptor other.descriptor)
      else match builder.findAlias? key with
        | some existing =>
          if existing.satisfiedBy.descriptor = other.descriptor then .ok builder
          else .error (.conflictingAlias key.descriptor existing.satisfiedBy.descriptor other.descriptor)
        | none =>
          .ok (builder.declare fun d => { d with aliases := d.aliases ++ [⟨key, other⟩] }) := by
  have built : DirectKey.ofType key.qualified = .ok key := DirectKey.ofType_of_notLazy key.notLazy
  have built' : DirectKey.ofType other.qualified = .ok other :=
    DirectKey.ofType_of_notLazy other.notLazy
  rw [declareAlias, built, built']
  simp only [bind, Except.bind, pure, Except.pure, throw, throwThe, MonadExceptOf.throw]
  cases assignable : builder.catalog.isAssignable key.qualified.type other.qualified.type with
  | false => simp [DirectKey.type, assignable]
  | true =>
    simp only [DirectKey.type, assignable]
    cases found : builder.findAlias? key with
    | none => rfl
    | some existing => simp [DirectKey.sameAs]

/-- It is accepted where it has been declared before, and recorded where nothing satisfies its
dependency. -/
theorem declareAlias_keys_eq_ok : builder.declareAlias key.qualified other.qualified = .ok next ↔
    builder.catalog.isAssignable key.type other.type = true ∧
      ((∃ existing, builder.findAlias? key = some existing ∧
          existing.satisfiedBy.descriptor = other.descriptor ∧ next = builder) ∨
        builder.findAlias? key = none ∧
          next = builder.declare fun d => { d with aliases := d.aliases ++ [⟨key, other⟩] }) := by
  rw [declareAlias_keys]
  cases builder.catalog.isAssignable key.type other.type with
  | false => simp
  | true =>
    cases builder.findAlias? key with
    | none => simp [eq_comm]
    | some existing =>
      by_cases repeated : existing.satisfiedBy.descriptor = other.descriptor <;>
        simp [repeated, @eq_comm _ builder]

/-- No alias changes the catalog. -/
theorem catalog_of_declareAlias (done : builder.declareAlias dependency satisfiedBy = .ok next) :
    next.catalog = builder.catalog := by
  obtain ⟨key, other, rfl, rfl⟩ := exists_keys_of_declareAlias done
  obtain ⟨_, ⟨_, _, _, rfl⟩ | ⟨_, rfl⟩⟩ := declareAlias_keys_eq_ok.mp done
  · rfl
  · rfl

end Declaring

end Wiring.Builder
