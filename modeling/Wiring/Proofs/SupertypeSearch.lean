import Mathlib.Data.List.Basic
import Wiring.Proofs.Catalog.Lineage

/-! # Supertypes and what is inherited

A search for supertypes stops at the first type it looks for. It comes to an end in every catalog,
whether declared supertypes lead in circles or out of it, and answers whether there is such a type in the
lineage. Assignability looks for a type that declares the target, so the source itself is not among what
it may stand in for; closeability looks for a type that owns a resource, so it may be the type itself.
Both are read as chains of declared supertypes here, and chains can be put together: whatever stands in
for a closeable type is closeable.

Main statement: `Catalog.ancestry`.
-/

namespace Wiring.Catalog

variable {catalog : Catalog} {wanted : TypeInfo → Bool} {seen queue : List String} {answer : Bool}

/-- The search takes names off the queue until it meets a type that is wanted or no name is left. A name
that was seen is skipped, one that is not catalogued leads nowhere, and the supertypes of a type that is
not wanted join the queue. -/
inductive Searches (catalog : Catalog) (wanted : TypeInfo → Bool) :
    List String → List String → Bool → Prop
  | ends {seen : List String} : Searches catalog wanted seen [] false
  | skips {seen queue : List String} {name : String} {answer : Bool} (known : name ∈ seen)
      (rest : Searches catalog wanted seen queue answer) :
      Searches catalog wanted seen (name :: queue) answer
  | leaves {seen queue : List String} {name : String} {answer : Bool} (fresh : name ∉ seen)
      (missing : catalog.find? name = none) (rest : Searches catalog wanted (name :: seen) queue answer) :
      Searches catalog wanted seen (name :: queue) answer
  | stops {seen queue : List String} {name : String} {info : TypeInfo} (fresh : name ∉ seen)
      (found : catalog.find? name = some info) (hit : wanted info = true) :
      Searches catalog wanted seen (name :: queue) true
  | passes {seen queue : List String} {name : String} {info : TypeInfo} {answer : Bool}
      (fresh : name ∉ seen) (found : catalog.find? name = some info) (miss : wanted info = false)
      (rest : Searches catalog wanted (name :: seen) (queue ++ info.supertypes) answer) :
      Searches catalog wanted seen (name :: queue) answer

section Ending

/-! ## Searches end -/

private theorem searches_lineageFrom (catalog : Catalog) (wanted : TypeInfo → Bool)
    (seen queue : List String) :
    catalog.Searches wanted seen queue ((catalog.lineageFrom seen queue).any wanted) := by
  fun_induction lineageFrom catalog seen queue with
  | case1 seen => exact .ends
  | case2 seen name rest known ih => exact .skips known ih
  | case3 seen name rest fresh missing ih => exact .leaves fresh missing ih
  | case4 seen name rest fresh info found ih =>
    rw [List.any_cons]
    cases asked : wanted info with
    | true => exact .stops fresh found asked
    | false => exact .passes fresh found asked ih

private theorem Searches.unique {other : Bool} (search : catalog.Searches wanted seen queue answer)
    (again : catalog.Searches wanted seen queue other) : answer = other := by
  induction search with
  | ends =>
    cases again
    rfl
  | skips known _ ih =>
    cases again with
    | skips _ rest => exact ih rest
    | leaves fresh _ _ | stops fresh _ _ | passes fresh _ _ _ => exact absurd known fresh
  | leaves fresh missing _ ih =>
    cases again with
    | skips known _ => exact absurd known fresh
    | leaves _ _ rest => exact ih rest
    | stops _ found _ | passes _ found _ _ => cases missing.symm.trans found
  | stops fresh found hit =>
    cases again with
    | skips known _ => exact absurd known fresh
    | leaves _ missing _ => cases missing.symm.trans found
    | stops _ _ _ => rfl
    | passes _ same miss _ =>
      cases found.symm.trans same
      cases hit.symm.trans miss
  | passes fresh found miss _ ih =>
    cases again with
    | skips known _ => exact absurd known fresh
    | leaves _ missing _ => cases missing.symm.trans found
    | stops _ same hit =>
      cases found.symm.trans same
      cases hit.symm.trans miss
    | passes _ same _ rest =>
      cases found.symm.trans same
      exact ih rest

/-- Whatever is wanted, a search ends, and it answers whether the lineage has it. -/
theorem searches_iff {name : String} :
    catalog.Searches wanted [] [name] answer ↔ answer = (catalog.lineage name).any wanted := by
  have ends := searches_lineageFrom catalog wanted [] [name]
  refine ⟨fun search => search.unique ends, ?_⟩
  rintro rfl
  exact ends

end Ending

section Chains

/-! ## Chains of supertypes -/

variable {target source type : TypeExpr}

theorem isAssignable_iff : catalog.isAssignable target source = true ↔
    target = source ∨ Relation.TransGen catalog.Extends source.name target.name := by
  rw [isAssignable, Bool.or_eq_true, decide_eq_true_iff, List.any_eq_true]
  refine or_congr_right ?_
  rw [Relation.TransGen.tail'_iff]
  constructor
  · rintro ⟨info, member, declared⟩
    obtain ⟨known, path⟩ := mem_lineage_iff.mp member
    exact ⟨info.name, path, info, known, List.contains_iff_mem.mp declared⟩
  · rintro ⟨name, path, info, known, declared⟩
    obtain rfl := find?_name known
    exact ⟨info, mem_lineage_iff.mpr ⟨known, path⟩, List.contains_iff_mem.mpr declared⟩

theorem isCloseable_iff : catalog.isCloseable type = true ↔
    ∃ name info, catalog.Reaches type.name name ∧ catalog.find? name = some info ∧
      info.closeable = true := by
  rw [isCloseable, List.any_eq_true]
  constructor
  · rintro ⟨info, member, closeable⟩
    obtain ⟨known, path⟩ := mem_lineage_iff.mp member
    exact ⟨info.name, info, path, known, closeable⟩
  · rintro ⟨name, info, path, known, closeable⟩
    obtain rfl := find?_name known
    exact ⟨info, mem_lineage_iff.mpr ⟨known, path⟩, closeable⟩

/-- What stands in for a closeable type is closeable. -/
theorem isCloseable_of_isAssignable (assignable : catalog.isAssignable target source = true)
    (closeable : catalog.isCloseable target = true) : catalog.isCloseable source = true := by
  rcases isAssignable_iff.mp assignable with rfl | chain
  · exact closeable
  · obtain ⟨name, info, path, known, owns⟩ := isCloseable_iff.mp closeable
    exact isCloseable_iff.mpr ⟨name, info, chain.to_reflTransGen.trans path, known, owns⟩

end Chains

/-- In every catalog and for every two types: a search from a type ends, whatever it looks for, and
answers for the lineage; the source may stand in for the target if they are the same or a chain of one or
more declared supertypes leads from its name to that of the target; a type is closeable if a catalogued
type that is marked so can be reached from its name. So closeability is inherited. -/
theorem ancestry (catalog : Catalog) (target source : TypeExpr) :
    (∀ wanted answer, catalog.Searches wanted [] [source.name] answer ↔
      answer = (catalog.lineage source.name).any wanted) ∧
    (catalog.isAssignable target source = true ↔
      target = source ∨ Relation.TransGen catalog.Extends source.name target.name) ∧
    (catalog.isCloseable source = true ↔
      ∃ name info, catalog.Reaches source.name name ∧ catalog.find? name = some info ∧
        info.closeable = true) ∧
    (catalog.isAssignable target source = true → catalog.isCloseable target = true →
      catalog.isCloseable source = true) :=
  ⟨fun _ _ => searches_iff, isAssignable_iff, isCloseable_iff, isCloseable_of_isAssignable⟩

/-- A tug is a ship, ships and vessels are declared as supertypes of each other, and what a vessel is
beyond that is not catalogued. -/
def harbour : Catalog := .ofList [
  { name := "Tug", supertypes := ["Ship"] },
  { name := "Ship", supertypes := ["Vessel"] },
  { name := "Vessel", supertypes := ["Ship", "Craft"], closeable := true }]

theorem ancestry_harbour :
    harbour.isAssignable (.named "Craft") (.named "Tug") = true ∧
      harbour.isCloseable (.named "Craft") = false ∧
      Relation.TransGen harbour.Extends "Tug" "Ship" ∧
      harbour.isAssignable (.named "Ship") (.named "Tug") = true ∧
      harbour.isCloseable (.named "Ship") = true ∧ harbour.isCloseable (.named "Tug") = true := by
  have assignable : harbour.isAssignable (.named "Ship") (.named "Tug") = true := by cbv
  have closeable : harbour.isCloseable (.named "Ship") = true := by cbv
  obtain ⟨_, chains, _, inherits⟩ := ancestry harbour (.named "Ship") (.named "Tug")
  exact ⟨by cbv, by cbv, (chains.mp assignable).resolve_left (by decide), assignable, closeable,
    inherits assignable closeable⟩

end Wiring.Catalog
