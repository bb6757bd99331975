import Mathlib.Data.List.Destutter
import Wiring.Catalog.Basic
import Wiring.Proofs.CanonicalTags
import Wiring.Proofs.Catalog.Rearrangement

/-! # Canonical lists

Of the items with one key the first, in order of key: the one list that is strictly ordered and holds
just these items. It is what stays of a stable sort by key once neighbours with one key are merged. The
tags of a set are the canonical list of the tags it was made from. A catalog lets the last type of each
name stay, so its types are the canonical list of the types read backwards.

Main statements: `map_canonical`, that maps which keep the keys keep canonical lists, and
`destutter_sorted`, `QualifierSet.tags_eq_canonical`, `Catalog.types_ofList`.
-/

namespace Wiring

section Sorting

/-! ## Stable sorting -/

variable {α : Type} {key : α → String} {items : List α}

/-- The items in order of key, those with one key in the order in which they were given. -/
def sorted (key : α → String) (items : List α) : List α :=
  items.mergeSort fun a b => decide (key a ≤ key b)

theorem key_le_trans (key : α → String) (a b c : α) (ab : decide (key a ≤ key b)) (bc : decide (key b ≤ key c)) :
    decide (key a ≤ key c) :=
  decide_eq_true (String.le_trans (of_decide_eq_true ab) (of_decide_eq_true bc))

theorem key_le_total (key : α → String) (a b : α) : decide (key a ≤ key b) || decide (key b ≤ key a) := by
  simpa using String.le_total (key a) (key b)

theorem sorted_pairwise (key : α → String) (items : List α) :
    (sorted key items).Pairwise fun a b => key a ≤ key b := by
  simpa only [sorted, decide_eq_true_eq] using
    List.pairwise_mergeSort (key_le_trans key) (key_le_total key) items

/-- The items with one key are found in the order in which they were given. -/
theorem filter_sorted (wanted : String) :
    (sorted key items).filter (key · = wanted) = items.filter (key · = wanted) := by
  have has (item : α) (member : item ∈ items.filter (key · = wanted)) : key item = wanted :=
    of_decide_eq_true (List.mem_filter.mp member).2
  have alike : (items.filter (key · = wanted)).Pairwise fun a b => decide (key a ≤ key b) :=
    List.pairwise_of_forall_mem_list fun a memberA b memberB =>
      decide_eq_true ((has a memberA).trans (has b memberB).symm ▸ String.le_refl _)
  have kept : (items.filter (key · = wanted)).Sublist (sorted key items) :=
    List.sublist_mergeSort (key_le_trans key) (key_le_total key) alike List.filter_sublist
  have length : ((sorted key items).filter (key · = wanted)).length =
      (items.filter (key · = wanted)).length :=
    ((List.mergeSort_perm items _).filter _).length_eq
  refine (List.Sublist.eq_of_length ?_ length.symm).symm
  simpa only [List.filter_filter, Bool.and_self] using kept.filter (key · = wanted)

private theorem find?_sorted (wanted : String) :
    (sorted key items).find? (key · = wanted) = items.find? (key · = wanted) := by
  rw [← List.head?_filter, filter_sorted, List.head?_filter]

/-- A list in order is strictly ordered if no two keys in it are the same. -/
theorem ordered_of_apart (inOrder : items.Pairwise fun a b => key a ≤ key b)
    (apart : items.Pairwise fun a b => key a ≠ key b) : OrderedBy key items :=
  (inOrder.and apart).imp fun both =>
    String.not_le.mp fun greater => both.2 (String.le_antisymm both.1 greater)

end Sorting

section Canonical

/-! ## The first items with their keys, in order -/

variable {α β : Type} {key : α → String} {items result : List α} {item head : α}

/-- The items whose key no earlier item has. -/
def firsts (key : α → String) : List α → List α
  | [] => []
  | item :: rest => item :: (firsts key rest).filter (key · ≠ key item)

/-- Of the items with one key the first, in order of key. -/
def canonical (key : α → String) (items : List α) : List α :=
  (firsts key items).mergeSort fun a b => decide (key a ≤ key b)

theorem mem_firsts : item ∈ firsts key items ↔ items.find? (key · = key item) = some item := by
  induction items with
  | nil => simp [firsts]
  | cons head rest ih =>
    rw [firsts, List.mem_cons, List.mem_filter, ih, List.find?_cons]
    by_cases same : key head = key item
    · simp [same, eq_comm]
    · have different : item ≠ head := fun equal => same (congrArg key equal).symm
      simp [same, Ne.symm same, different]

theorem mem_of_mem_firsts (member : item ∈ firsts key items) : item ∈ items :=
  List.mem_of_find?_eq_some (mem_firsts.mp member)

theorem firsts_apart (items : List α) : (firsts key items).Pairwise fun a b => key a ≠ key b := by
  induction items with
  | nil => exact .nil
  | cons head rest ih =>
    refine List.pairwise_cons.mpr ⟨fun later member => ?_, ih.filter _⟩
    exact Ne.symm (by simpa using (List.mem_filter.mp member).2)

private theorem mem_canonical :
    item ∈ canonical key items ↔ items.find? (key · = key item) = some item := by
  rw [canonical, List.mem_mergeSort, mem_firsts]

theorem mem_of_mem_canonical (member : item ∈ canonical key items) : item ∈ items :=
  mem_of_mem_firsts (List.mem_mergeSort.mp member)

private theorem canonical_ordered : OrderedBy key (canonical key items) :=
  ordered_of_apart (sorted_pairwise key _)
    ((List.mergeSort_perm _ _).symm.pairwise (firsts_apart items) Ne.symm)

/-- The one strictly ordered list of the items that come first with their keys. -/
theorem eq_canonical (ordered : OrderedBy key result)
    (holds : ∀ item, item ∈ result ↔ items.find? (key · = key item) = some item) :
    result = canonical key items :=
  ordered.eq_of_mem_iff canonical_ordered fun item => (holds item).trans mem_canonical.symm

theorem eq_canonical_of_perm (ordered : OrderedBy key result)
    (perm : result.Perm (firsts key items)) : result = canonical key items :=
  eq_canonical ordered fun _ => perm.mem_iff.trans mem_firsts

/-- In a strictly ordered list every item comes first with its key. -/
theorem OrderedBy.find?_eq_some_iff (ordered : OrderedBy key items) :
    items.find? (key · = key item) = some item ↔ item ∈ items := by
  refine ⟨List.mem_of_find?_eq_some, fun member => ?_⟩
  induction items with
  | nil => cases member
  | cons head rest ih =>
    obtain ⟨below, restOrdered⟩ := List.pairwise_cons.mp ordered
    rcases List.mem_cons.mp member with rfl | later
    · simp
    · have different : key head ≠ key item := fun same =>
        String.lt_irrefl (key item) (same ▸ below item later)
      rw [List.find?_cons_of_neg (by simpa using different)]
      exact ih restOrdered later

private theorem map_firsts {key' : β → String} {f : α → β}
    (same : ∀ item ∈ items, key' (f item) = key item) :
    (firsts key items).map f = firsts key' (items.map f) := by
  induction items with
  | nil => rfl
  | cons head rest ih =>
    obtain ⟨first, others⟩ := List.forall_mem_cons.mp same
    rw [List.map_cons, firsts, firsts, List.map_cons, ← ih others, List.filter_map]
    refine congrArg _ (congrArg _ (List.filter_congr fun item member => ?_))
    simp [others item (mem_of_mem_firsts member), first]

/-- A map that keeps the keys maps canonical lists to canonical lists. -/
theorem map_canonical {key' : β → String} {f : α → β}
    (same : ∀ item ∈ items, key' (f item) = key item) :
    (canonical key items).map f = canonical key' (items.map f) := by
  rw [canonical, canonical, ← map_firsts same]
  refine List.map_mergeSort fun a memberA b memberB => ?_
  rw [same a (mem_of_mem_firsts memberA), same b (mem_of_mem_firsts memberB)]

/-- In a list that is in order, the items that come first with their keys are those whose key is not
that of the item before. -/
theorem destutter'_eq_firsts (ordered : (head :: items).Pairwise fun a b => key a ≤ key b) :
    items.destutter' (fun a b => key a ≠ key b) head = firsts key (head :: items) := by
  induction items generalizing head with
  | nil => rfl
  | cons next rest ih =>
    obtain ⟨least, later⟩ := List.pairwise_cons.mp ordered
    by_cases same : key head = key next
    · -- The next item goes, and what is behind it is compared with the head.
      rw [List.destutter'_cons_neg _ (not_not_intro same)]
      have skipped : (head :: rest).Pairwise fun a b => key a ≤ key b :=
        ordered.sublist ((List.sublist_cons_self next rest).cons_cons head)
      rw [ih skipped, firsts, firsts, firsts, List.filter_cons_of_neg (by simp [same]), same,
        List.filter_filter]
      simp only [Bool.and_self]
    · -- All keys are greater from here on, so the head takes no item away.
      have greater : key head < key next :=
        String.not_le.mp fun le => same (String.le_antisymm (least next List.mem_cons_self) le)
      have others : ∀ item ∈ firsts key (next :: rest), decide (key item ≠ key head) = true := by
        intro item member
        refine decide_eq_true fun equal => String.not_lt.mpr ?_ (equal ▸ greater)
        rcases List.mem_cons.mp (mem_of_mem_firsts member) with rfl | behind
        · exact String.le_refl _
        · exact (List.pairwise_cons.mp later).1 item behind
      rw [List.destutter'_cons_pos _ same, ih later]
      exact congrArg _ (List.filter_eq_self.mpr others).symm

/-- The canonical list is what stays of the items in order if neighbours with one key are merged. -/
theorem destutter_sorted (items : List α) :
    (sorted key items).destutter (fun a b => key a ≠ key b) = canonical key items := by
  have merged : (sorted key items).destutter (fun a b => key a ≠ key b) =
      firsts key (sorted key items) := by
    have ordered := sorted_pairwise key items
    cases inOrder : sorted key items with
    | nil => rfl
    | cons head rest => exact destutter'_eq_firsts (inOrder ▸ ordered)
  have ordered : OrderedBy key (firsts key (sorted key items)) :=
    ordered_of_apart ((sorted_pairwise key items).sublist (merged ▸ List.destutter_sublist _ _))
      (firsts_apart _)
  rw [merged]
  exact eq_canonical ordered fun item => mem_firsts.trans (by rw [find?_sorted])

end Canonical

namespace QualifierSet

variable {tags : List Tag} {set : QualifierSet}

/-- The tags of a set are those it was made from, of one identifier the first, in order. -/
theorem tags_eq_canonical (done : ofTags tags = .ok set) : set.tags = canonical Tag.identifier tags :=
  eq_canonical set.ordered (ofTags_eq_ok_iff.mp done).2

/-- The tags of a set make up that set. -/
theorem ofTags_tags (set : QualifierSet) : ofTags set.tags = .ok set :=
  ofTags_eq_ok_iff.mpr ⟨set.valid, fun _ => set.ordered.find?_eq_some_iff.symm⟩

end QualifierSet

namespace Catalog

variable {types : List TypeInfo}

private theorem find?_ofList_last (types : List TypeInfo) (name : String) :
    (ofList types).find? name = types.reverse.find? (·.name = name) := by
  induction types using List.reverseRecOn with
  | nil => rfl
  | append_singleton types last ih =>
    have step : ofList (types ++ [last]) = (ofList types).insert last := by simp [ofList]
    rw [step, find?_insert, ih, List.reverse_concat, List.find?_cons]
    by_cases same : last.name = name <;> simp [same]

/-- The types of a catalog are those it was made from, of one name the last, in order. -/
theorem types_ofList (types : List TypeInfo) :
    (ofList types).types = canonical TypeInfo.name types.reverse := by
  refine eq_canonical (ofList types).ordered fun info => ?_
  rw [← find?_ofList_last]
  exact (ofList types).ordered.find?_eq_some_iff.symm

/-- The types of a catalog make up that catalog. -/
theorem ofList_types (catalog : Catalog) : ofList catalog.types = catalog := by
  have names : OrderedBy id (catalog.types.map (·.name)) := List.pairwise_map.mpr catalog.ordered
  refine ext ((ofList catalog.types).ordered.eq_of_mem_iff catalog.ordered fun info => ?_)
  rw [← (ofList catalog.types).ordered.find?_eq_some_iff]
  exact (find?_ofList names.nodup).trans (and_iff_left rfl)

end Catalog

end Wiring
