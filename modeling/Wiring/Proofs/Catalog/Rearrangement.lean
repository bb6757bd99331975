import Mathlib.Data.List.Lex
import Mathlib.Data.Prod.Lex
import Mathlib.Data.String.Basic
import Wiring.Proofs.Catalog.Lineage
import Wiring.Proofs.FirstOccurrences
import Wiring.Success

/-! # Catalogs in another order

A compilation reads its catalog through five queries: looking a type up, selecting its constructor,
going through its methods in order of signature, finding the one method of an interface, and following
supertypes. None of them depends on the order in which types, supertypes, constructors or methods are
listed, as long as methods of one type that change places differ in signature; methods with one
signature are considered in the order in which they are listed.

Main statements: `Catalog.alike_ofList`, that rearranged lists make up catalogs that are alike, and one
statement for each query of catalogs that are alike.
-/

namespace Wiring

namespace Method

/-- Name and parameter descriptors; methods are considered in lexicographic order of these. -/
def signature (method : Method) : String ×ₗ List String := toLex (method.name, method.parameters)

private theorem precedes_iff {a b : Method} : a.precedes b = true ↔ a.signature ≤ b.signature := by
  have params : (b.parameters.lex a.parameters fun first second => decide (first < second)) = false ↔
      a.parameters ≤ b.parameters := by
    rw [List.lex_eq_decide_lex, decide_eq_false_iff_not]
    simp only [decide_eq_true_eq]
    show ¬ b.parameters < a.parameters ↔ _
    exact not_lt
  rw [signature, signature, Prod.Lex.toLex_le_toLex, precedes]
  simp only [Bool.or_eq_true, Bool.and_eq_true, decide_eq_true_eq, Bool.not_eq_true', params]

end Method

namespace TypeInfo

/-- Both say the same of one type, with supertypes, constructors and methods in any order; where
methods change places, no two of them have one signature. -/
structure Rearranged (a b : TypeInfo) : Prop where
  name : a.name = b.name
  closeable : a.closeable = b.closeable
  supertypes : a.supertypes.Perm b.supertypes
  constructors : a.constructors.Perm b.constructors
  methods : a.methods.Perm b.methods
  signatures : a.methods = b.methods ∨ (a.methods.map (·.signature)).Nodup

variable {a b : TypeInfo}

theorem Rearranged.symm (rearranged : a.Rearranged b) : b.Rearranged a where
  name := rearranged.name.symm
  closeable := rearranged.closeable.symm
  supertypes := rearranged.supertypes.symm
  constructors := rearranged.constructors.symm
  methods := rearranged.methods.symm
  signatures := rearranged.signatures.imp Eq.symm (rearranged.methods.map _).nodup_iff.mp

/-- Rearranged lists are equal, or both have two items or more. -/
theorem eq_or_several_of_perm {α : Type} {items others : List α} (perm : items.Perm others) :
    items = others ∨ (∃ a b rest, items = a :: b :: rest) ∧ ∃ a b rest, others = a :: b :: rest := by
  match items, others, perm with
  | [], _, perm => exact .inl perm.nil_eq
  | [_], _, perm => exact .inl (List.singleton_perm.mp perm)
  | a :: b :: rest, [], perm => exact absurd perm.length_eq nofun
  | a :: b :: rest, [_], perm => exact absurd perm.length_eq nofun
  | a :: b :: rest, c :: d :: rest', _ => exact .inr ⟨⟨a, b, rest, rfl⟩, c, d, rest', rfl⟩

/-- The selected constructor does not depend on the order of constructors. -/
theorem Rearranged.selectConstructor_eq (rearranged : a.Rearranged b) :
    a.selectConstructor = b.selectConstructor := by
  have public_ := rearranged.constructors.filter (·.isPublic)
  have marked := public_.filter (·.marked)
  unfold selectConstructor
  rw [rearranged.name]
  generalize a.constructors.filter (·.isPublic) = candidates at public_ marked
  generalize b.constructors.filter (·.isPublic) = candidates' at public_ marked
  rcases eq_or_several_of_perm public_ with rfl | ⟨⟨_, _, _, rfl⟩, _, _, _, rfl⟩
  · rfl
  · dsimp only
    rcases eq_or_several_of_perm marked with same | ⟨⟨_, _, _, several⟩, _, _, _, several'⟩
    · rw [same]
    · rw [several, several']

/-- Methods come in the same order of signature. -/
theorem Rearranged.sortedMethods_eq (rearranged : a.Rearranged b) :
    a.sortedMethods = b.sortedMethods := by
  rcases rearranged.signatures with same | distinct
  · rw [sortedMethods, sortedMethods, same]
  have sorted (info : TypeInfo) : info.sortedMethods.Pairwise fun a b => a.signature ≤ b.signature := by
    refine (List.pairwise_mergeSort ?_ ?_ info.methods).imp Method.precedes_iff.mp
    · intro a b c first second
      rw [Method.precedes_iff] at first second ⊢
      exact first.trans second
    · intro a b
      rw [Bool.or_eq_true, Method.precedes_iff, Method.precedes_iff]
      exact le_total _ _
  have perm : a.sortedMethods.Perm b.sortedMethods :=
    ((List.mergeSort_perm _ _).trans rearranged.methods).trans (List.mergeSort_perm _ _).symm
  refine perm.eq_of_pairwise (fun first second memberA memberB less greater => ?_) (sorted a) (sorted b)
  have listed : first ∈ a.methods := List.mem_mergeSort.mp memberA
  have listed' : second ∈ a.methods := rearranged.methods.mem_iff.mpr (List.mem_mergeSort.mp memberB)
  exact List.inj_on_of_nodup_map distinct listed listed' (le_antisymm less greater)

end TypeInfo

namespace Catalog

variable {a b : Catalog} {name : String}

/-- Both know the same names, and rearranged descriptions of the types. -/
def Alike (a b : Catalog) : Prop := ∀ name, Option.Rel TypeInfo.Rearranged (a.find? name) (b.find? name)

section Queries

/-! ## Queries -/

/-- Looking a type up leads on to the same result, if what is done with the type does not depend on the
order in which things are listed. -/
theorem Alike.require_bind {α : Type} (alike : a.Alike b) {next next' : TypeInfo → Except CompileError α}
    (same : ∀ info info', a.find? name = some info → info.Rearranged info' → next info = next' info') :
    (a.require name >>= next) = (b.require name >>= next') := by
  have found := alike name
  unfold require
  revert found same
  cases a.find? name <;> cases b.find? name <;> intro same found
  · rfl
  · cases found
  · cases found
  · cases found with
    | some rearranged => exact same _ _ rfl rearranged

/-- A functional interface has the same single method in rearranged catalogs. -/
theorem Alike.singleMethod_eq (alike : a.Alike b) (interface : TypeExpr) :
    a.singleMethod interface = b.singleMethod interface := by
  unfold singleMethod
  rw [alike.require_bind fun info info' _ rearranged => ?_]
  rcases TypeInfo.eq_or_several_of_perm rearranged.methods with
    same | ⟨⟨_, _, _, several⟩, _, _, _, several'⟩
  · rw [same]
  · have count := rearranged.methods.length_eq
    rw [several, several'] at count ⊢
    dsimp only
    rw [count]

private theorem Alike.extends_iff (alike : a.Alike b) {supertype : String} :
    a.Extends name supertype ↔ b.Extends name supertype := by
  have found := alike name
  unfold Extends
  revert found
  cases a.find? name <;> cases b.find? name <;> intro found
  · rfl
  · cases found
  · cases found
  · cases found with
    | some rearranged => simp [rearranged.supertypes.mem_iff]

theorem Alike.symm (alike : a.Alike b) : b.Alike a := by
  intro name
  have found := alike name
  revert found
  cases a.find? name <;> cases b.find? name <;> intro found <;> cases found
  · exact .none
  next rearranged => exact .some rearranged.symm

private theorem Alike.exists_rearranged (alike : a.Alike b) {info : TypeInfo}
    (found : a.find? name = some info) :
    ∃ info', b.find? name = some info' ∧ info.Rearranged info' := by
  have related := alike name
  rw [found] at related
  cases other : b.find? name with
  | none =>
    rw [other] at related
    cases related
  | some info' =>
    rw [other] at related
    cases related with
    | some rearranged => exact ⟨info', rfl, rearranged⟩

/-- What is found in a lineage is found in the lineage of the other catalog. -/
theorem Alike.exists_lineage (alike : a.Alike b) {info : TypeInfo} (member : info ∈ a.lineage name) :
    ∃ info' ∈ b.lineage name, info.Rearranged info' := by
  obtain ⟨found, path⟩ := mem_lineage_iff.mp member
  obtain ⟨info', found', rearranged⟩ := alike.exists_rearranged found
  refine ⟨info', mem_lineage_iff.mpr ?_, rearranged⟩
  rw [← rearranged.name]
  exact ⟨found', Relation.ReflTransGen.mono (fun _ _ => alike.extends_iff.mp) _ _ path⟩

/-- What is asked of a lineage has the same answer, if that does not depend on the order in which things
are listed. -/
theorem Alike.any_lineage (alike : a.Alike b) {ask : TypeInfo → Bool}
    (same : ∀ info info' : TypeInfo, info.Rearranged info' → ask info = ask info') (name : String) :
    (a.lineage name).any ask = (b.lineage name).any ask := by
  rw [Bool.eq_iff_iff, List.any_eq_true, List.any_eq_true]
  constructor
  · rintro ⟨info, member, asked⟩
    obtain ⟨info', member', rearranged⟩ := alike.exists_lineage member
    exact ⟨info', member', same _ _ rearranged ▸ asked⟩
  · rintro ⟨info, member, asked⟩
    obtain ⟨info', member', rearranged⟩ := alike.symm.exists_lineage member
    exact ⟨info', member', same _ _ rearranged.symm ▸ asked⟩

/-- Rearranged catalogs agree on what can be assigned to what. -/
theorem Alike.isAssignable_eq (alike : a.Alike b) (target source : TypeExpr) :
    a.isAssignable target source = b.isAssignable target source := by
  unfold isAssignable
  rw [alike.any_lineage fun info info' rearranged => ?_]
  rw [Bool.eq_iff_iff, List.contains_iff_mem, List.contains_iff_mem, rearranged.supertypes.mem_iff]

/-- Rearranged catalogs agree on what can be closed. -/
theorem Alike.isCloseable_eq (alike : a.Alike b) (type : TypeExpr) :
    a.isCloseable type = b.isCloseable type :=
  alike.any_lineage (fun _ _ rearranged => rearranged.closeable) type.name

end Queries

section Lists

/-! ## Catalogs of lists -/

private theorem find?_place {α : Type} {key : α → String} (item : α) (items : List α) :
    (place key true item items).find? (key · = name) =
      if key item = name then some item else items.find? (key · = name) := by
  induction items with
  | nil => by_cases here : key item = name <;> simp [place, here]
  | cons head rest ih =>
    rw [place]
    split
    next same =>
      by_cases here : key item = name
      · simp [here]
      · simp [here, same ▸ here]
    next different =>
      split
      · by_cases here : key item = name <;> simp [here]
      · by_cases here : key head = name
        · simp [here, here ▸ different]
        · simp [here, ih]

/-- A type that is put into a catalog is the one that is known by its name. -/
theorem find?_insert (catalog : Catalog) (info : TypeInfo) :
    (catalog.insert info).find? name = if info.name = name then some info else catalog.find? name :=
  find?_place info catalog.types

/-- Where names differ, the types of a catalog are those of the list. -/
theorem find?_ofList {types : List TypeInfo} (distinct : (types.map (·.name)).Nodup) {info : TypeInfo} :
    (ofList types).find? name = some info ↔ info ∈ types ∧ info.name = name := by
  induction types using List.reverseRecOn with
  | nil => simp [ofList, empty, find?]
  | append_singleton types last ih =>
    rw [List.map_append, List.nodup_append] at distinct
    obtain ⟨before, _, apart⟩ := distinct
    have step : ofList (types ++ [last]) = (ofList types).insert last := by simp [ofList]
    rw [step, find?_insert]
    split
    next same =>
      constructor
      · rintro ⟨⟩
        exact ⟨List.mem_append_right _ List.mem_cons_self, same⟩
      · rintro ⟨member, named⟩
        rcases List.mem_append.mp member with earlier | here
        · exact absurd (named.trans same.symm)
            (apart _ (List.mem_map_of_mem earlier) _ List.mem_cons_self)
        · rw [List.mem_singleton.mp here]
    next different =>
      rw [ih before, List.mem_append, List.mem_singleton]
      refine and_congr_left fun named => (or_iff_left fun here => ?_).symm
      exact different (here ▸ named)

/-- Lists of the same types in another order, each with its parts in another order, make up catalogs that
are alike. -/
theorem alike_ofList {types middle types' : List TypeInfo} (distinct : (types.map (·.name)).Nodup)
    (perm : types.Perm middle) (rearranged : List.Forall₂ TypeInfo.Rearranged middle types') :
    (ofList types).Alike (ofList types') := by
  have names : middle.map (·.name) = types'.map (·.name) := by
    clear perm
    induction rearranged with
    | nil => rfl
    | cons first _ ih => rw [List.map_cons, List.map_cons, first.name, ih]
  have distinct' : (types'.map (·.name)).Nodup := names ▸ (perm.map _).nodup_iff.mp distinct
  intro name
  cases found : (ofList types).find? name with
  | some info =>
    obtain ⟨member, named⟩ := (find?_ofList distinct).mp found
    obtain ⟨info', member', same⟩ := exists_of_forall₂ rearranged (perm.mem_iff.mp member)
    rw [(find?_ofList distinct').mpr ⟨member', same.name ▸ named⟩]
    exact .some same
  | none =>
    cases found' : (ofList types').find? name with
    | none => exact .none
    | some info' =>
      obtain ⟨member', named⟩ := (find?_ofList distinct').mp found'
      obtain ⟨info, member, same⟩ := exists_of_forall₂ rearranged.flip member'
      have known := (find?_ofList distinct).mpr ⟨perm.mem_iff.mpr member, same.name.trans named⟩
      rw [found] at known
      cases known

end Lists

end Catalog

end Wiring
