import Mathlib.Data.List.Perm.Basic
import Wiring.Key

/-! # Canonical tags

A qualifier set keeps its tags in strict order of identifier, so it is determined by which tags it
holds: of the tags with one identifier the first that was written. The order in which tags are
written never matters to the identifiers of the set. To its tags it matters only where unlike tags
share an identifier, as the marker `C_x` and the tag `C` with payload `x` do.

Main statements: `QualifierSet.ofTags_eq_ok_iff`, the tags of a set, and
`QualifierSet.identifiers_eq_of_perm`, `QualifierSet.ofTags_eq_of_perm` on tags in another order.
-/

namespace Wiring

section Placing

/-! ## Strictly ordered lists -/

variable {α : Type} {key : α → String} {item other : α} {items others : List α}

/-- An item whose key is taken is left out, and nothing else is lost. -/
theorem OrderedBy.mem_place (ordered : OrderedBy key items) :
    other ∈ Wiring.place key false item items ↔
      other ∈ items ∨ (other = item ∧ ∀ old ∈ items, key old ≠ key item) := by
  induction items with
  | nil => simp [Wiring.place]
  | cons head rest ih =>
    obtain ⟨below, restOrdered⟩ := List.pairwise_cons.mp ordered
    simp only [Wiring.place]
    split
    next same =>
      have taken : ¬ ∀ old ∈ head :: rest, key old ≠ key item := fun free =>
        free head List.mem_cons_self same.symm
      exact ⟨.inl, fun either => either.resolve_right fun added => taken added.2⟩
    next different =>
      split
      next smaller =>
        -- The item comes before all others, so no key is its own.
        have free : ∀ old ∈ head :: rest, key old ≠ key item := by
          intro old member same
          rcases List.mem_cons.mp member with rfl | later
          · exact different same.symm
          · have greater : key item < key old := String.lt_trans smaller (below old later)
            exact String.lt_irrefl (key item) (same ▸ greater)
        rw [List.mem_cons, or_comm]
        exact or_congr_right (and_iff_left free).symm
      next =>
        rw [List.mem_cons, ih restOrdered, List.mem_cons, List.forall_mem_cons]
        have apart : key head ≠ key item := fun same => different same.symm
        simp only [or_assoc, apart, ne_eq, not_false_eq_true, true_and]

/-- A list in strict order repeats nothing. -/
theorem OrderedBy.nodup (ordered : OrderedBy key items) : items.Nodup := by
  refine ordered.imp ?_
  rintro a _ less rfl
  exact String.lt_irrefl (key a) less

/-- Strictly ordered lists with the same items are equal. -/
theorem OrderedBy.eq_of_mem_iff (ordered : OrderedBy key items) (ordered' : OrderedBy key others)
    (same : ∀ item, item ∈ items ↔ item ∈ others) : items = others := by
  have perm : items.Perm others := (List.perm_ext_iff_of_nodup ordered.nodup ordered'.nodup).mpr same
  refine perm.eq_of_pairwise ?_ ordered ordered'
  intro a b _ _ less greater
  exact absurd (String.lt_trans less greater) (String.lt_irrefl (key a))

end Placing

namespace QualifierSet

variable {tags tags' : List Tag} {set set' start : QualifierSet} {tag : Tag}

/-- A tag is let in if none of its identifier is there yet; the tags that are there stay. -/
theorem mem_insert {new : Tag} (valid : new.isValid = true) :
    tag ∈ (set.insert new valid).tags ↔
      tag ∈ set.tags ∨ (tag = new ∧ ∀ old ∈ set.tags, old.identifier ≠ new.identifier) :=
  set.ordered.mem_place

/-- The first of the tags with this identifier. -/
def firstOf (tags : List Tag) (identifier : String) : Option Tag :=
  tags.find? (·.identifier = identifier)

theorem exists_firstOf (member : tag ∈ tags) :
    ∃ first, firstOf tags tag.identifier = some first ∧ first.identifier = tag.identifier := by
  have found : (firstOf tags tag.identifier).isSome = true :=
    List.find?_isSome.mpr ⟨tag, member, by simp⟩
  obtain ⟨first, found⟩ := Option.isSome_iff_exists.mp found
  exact ⟨first, found, by simpa using List.find?_some found⟩

/-- The set holds the tags of another one and, for every other identifier, the first of the tags that
are added. -/
def Collects (start : QualifierSet) (tags : List Tag) (set : QualifierSet) : Prop :=
  ∀ tag, tag ∈ set.tags ↔ tag ∈ start.tags ∨
    ((∀ old ∈ start.tags, old.identifier ≠ tag.identifier) ∧ firstOf tags tag.identifier = some tag)

theorem Collects.cons {new : Tag} (valid : new.isValid = true)
    (collects : Collects (start.insert new valid) tags set) : Collects start (new :: tags) set := by
  intro tag
  rw [collects tag, mem_insert]
  simp only [firstOf, List.find?_cons]
  by_cases same : new.identifier = tag.identifier
  · -- Either the identifier is taken already, or the new tag is the first that has it.
    have blocked : (∀ old ∈ (start.insert new valid).tags, old.identifier ≠ tag.identifier) ↔ False := by
      refine iff_of_false (fun free => ?_) not_false
      by_cases taken : ∀ old ∈ start.tags, old.identifier ≠ new.identifier
      · exact free new ((mem_insert valid).mpr (.inr ⟨rfl, taken⟩)) same
      · push Not at taken
        obtain ⟨old, member, old_same⟩ := taken
        exact free old ((mem_insert valid).mpr (.inl member)) (old_same.trans same)
    simp only [same, decide_true, Option.some.injEq, blocked, false_and, or_false, eq_comm (a := new)]
    exact or_congr_right and_comm
  · have different : tag ≠ new := fun equal => same (congrArg Tag.identifier equal).symm
    have kept : (∀ old ∈ (start.insert new valid).tags, old.identifier ≠ tag.identifier) ↔
        ∀ old ∈ start.tags, old.identifier ≠ tag.identifier := by
      constructor
      · exact fun free old member => free old ((mem_insert valid).mpr (.inl member))
      · intro free old member
        rcases (mem_insert valid).mp member with before | ⟨rfl, _⟩
        · exact free old before
        · exact same
    simp [same, different, kept]

/-- Well-formed tags are all taken in. -/
theorem foldlM_insert? (valid : ∀ tag ∈ tags, tag.isValid = true) (start : QualifierSet) :
    ∃ set, tags.foldlM insert? start = .ok set ∧ Collects start tags set := by
  induction tags generalizing start with
  | nil => exact ⟨start, rfl, fun tag => by simp [firstOf]⟩
  | cons new rest ih =>
    obtain ⟨head, others⟩ := List.forall_mem_cons.mp valid
    obtain ⟨set, folded, collects⟩ := ih others (start.insert new head)
    refine ⟨set, ?_, collects.cons head⟩
    rw [List.foldlM_cons, insert?, dif_pos head]
    exact folded

theorem valid_of_foldlM_insert? (folded : tags.foldlM insert? start = .ok set) :
    ∀ tag ∈ tags, tag.isValid = true := by
  induction tags generalizing start with
  | nil => exact List.forall_mem_nil _
  | cons new rest ih =>
    rw [List.foldlM_cons, insert?] at folded
    split at folded
    next head => exact List.forall_mem_cons.mpr ⟨head, ih folded⟩
    next => cases folded

/-- A list of valid tags makes the set that holds, of the tags with one identifier, the first. -/
theorem ofTags_eq_ok_iff : ofTags tags = .ok set ↔
    (∀ tag ∈ tags, tag.isValid = true) ∧
      ∀ tag, tag ∈ set.tags ↔ firstOf tags tag.identifier = some tag := by
  have ofEmpty (made : QualifierSet) : Collects empty tags made ↔
      ∀ tag, tag ∈ made.tags ↔ firstOf tags tag.identifier = some tag := by simp [Collects, empty]
  constructor
  · intro done
    have valid := valid_of_foldlM_insert? done
    obtain ⟨made, folded, collects⟩ := foldlM_insert? valid empty
    cases done.symm.trans folded
    exact ⟨valid, (ofEmpty set).mp collects⟩
  · rintro ⟨valid, holds⟩
    obtain ⟨made, folded, collects⟩ := foldlM_insert? valid empty
    refine folded.trans (congrArg _ (ext ?_))
    exact made.ordered.eq_of_mem_iff set.ordered fun tag =>
      ((ofEmpty made).mp collects tag).trans (holds tag).symm

/-- The identifiers of a set are those of the tags that it was made from. -/
theorem mem_identifiers_iff (done : ofTags tags = .ok set) {identifier : String} :
    identifier ∈ set.identifiers ↔ ∃ tag ∈ tags, tag.identifier = identifier := by
  obtain ⟨_, holds⟩ := ofTags_eq_ok_iff.mp done
  rw [identifiers, List.mem_map]
  constructor
  · rintro ⟨tag, member, rfl⟩
    exact ⟨tag, List.mem_of_find?_eq_some ((holds tag).mp member), rfl⟩
  · rintro ⟨tag, member, rfl⟩
    obtain ⟨first, found, same⟩ := exists_firstOf member
    exact ⟨first, (holds first).mpr (same ▸ found), same⟩

/-- A set keeps its identifiers in strict order. -/
theorem identifiers_ordered (set : QualifierSet) : OrderedBy id set.identifiers :=
  List.pairwise_map.mpr set.ordered

/-- Tags in another order have the same identifiers. -/
theorem identifiers_eq_of_perm (perm : tags.Perm tags') (done : ofTags tags = .ok set)
    (done' : ofTags tags' = .ok set') : set.identifiers = set'.identifiers := by
  refine set.identifiers_ordered.eq_of_mem_iff set'.identifiers_ordered fun identifier => ?_
  rw [mem_identifiers_iff done, mem_identifiers_iff done']
  simp only [perm.mem_iff]

/-- No two unlike tags share an identifier. -/
def Apart (tags : List Tag) : Prop := ∀ a ∈ tags, ∀ b ∈ tags, a.identifier = b.identifier → a = b

instance (tags : List Tag) : Decidable (Apart tags) :=
  inferInstanceAs (Decidable (∀ a ∈ tags, ∀ b ∈ tags, a.identifier = b.identifier → a = b))

private theorem Apart.firstOf_eq_some_iff (apart : Apart tags) :
    firstOf tags tag.identifier = some tag ↔ tag ∈ tags := by
  constructor
  · exact List.mem_of_find?_eq_some
  · intro member
    obtain ⟨first, found, same⟩ := exists_firstOf member
    exact apart first (List.mem_of_find?_eq_some found) tag member same ▸ found

/-- Where unlike tags have unlike identifiers, the order of the tags does not matter. -/
theorem ofTags_eq_of_perm (valid : ∀ tag ∈ tags, tag.isValid = true) (apart : Apart tags)
    (perm : tags.Perm tags') : ofTags tags = ofTags tags' := by
  have apart' : Apart tags' := fun a memberA b memberB =>
    apart a (perm.mem_iff.mpr memberA) b (perm.mem_iff.mpr memberB)
  have valid' : ∀ tag ∈ tags', tag.isValid = true := fun tag member =>
    valid tag (perm.mem_iff.mpr member)
  obtain ⟨set, done, _⟩ := foldlM_insert? valid empty
  obtain ⟨_, holds⟩ := ofTags_eq_ok_iff.mp done
  refine Eq.trans done (Eq.symm (ofTags_eq_ok_iff.mpr ⟨valid', fun tag => ?_⟩))
  rw [holds tag, apart.firstOf_eq_some_iff, apart'.firstOf_eq_some_iff]
  exact perm.mem_iff

end QualifierSet

end Wiring
