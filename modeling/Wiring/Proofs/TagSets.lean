import Wiring.Proofs.CanonicalList

/-! # Sets of tags

A list of tags is refused at its first malformed payload, and any other list makes a set: its
identifiers are those of the list, each once and in order, and behind each stands the first tag that was
written with it. Sets are compared by identifiers, so neither the order nor the multiplicity of tags is
seen. A set is made again from its own tags, and to add a tag is to write it behind them.

Main statement: `QualifierSet.ofTags_canonical`.
-/

namespace Wiring

section Placing

/-! ## Putting an item in its place -/

variable {α : Type} {key : α → String} {item old : α} {items : List α}

/-- An item whose key is taken changes nothing. -/
theorem OrderedBy.place_eq_self (ordered : OrderedBy key items) (member : old ∈ items)
    (taken : key old = key item) : Wiring.place key false item items = items := by
  refine ordered.place.eq_of_mem_iff ordered fun other => ?_
  rw [ordered.mem_place]
  exact or_iff_left fun added => added.2 old member taken

end Placing

namespace Tag

variable {tag : Tag}

/-- The tag has a payload with a character that is no letter, no digit and no hyphen. -/
def Malformed : Tag → Prop
  | marker _ => False
  | named _ payload => ∃ c ∈ payload.toList,
      ¬ ('a' ≤ c ∧ c ≤ 'z' ∨ 'A' ≤ c ∧ c ≤ 'Z' ∨ '0' ≤ c ∧ c ≤ '9' ∨ c = '-')

private theorem isPayloadChar_iff {c : Char} : Identifier.isPayloadChar c = true ↔
    'a' ≤ c ∧ c ≤ 'z' ∨ 'A' ≤ c ∧ c ≤ 'Z' ∨ '0' ≤ c ∧ c ≤ '9' ∨ c = '-' := by
  have spelled : Identifier.isPayloadChar c =
      (decide ('A' ≤ c ∧ c ≤ 'Z') || decide ('a' ≤ c) && decide (c ≤ 'z') ||
        decide ('0' ≤ c) && decide (c ≤ '9') || decide (c = '-')) := rfl
  simp only [spelled, Bool.or_eq_true, Bool.and_eq_true, decide_eq_true_iff]
  tauto

theorem malformed_iff : tag.Malformed ↔ tag.isValid = false := by
  cases tag with
  | marker name => simp [Malformed, isValid]
  | named name payload =>
    rw [Malformed, isValid, Identifier.isPayload, List.all_eq_false]
    simp only [isPayloadChar_iff]

theorem not_malformed_iff : ¬ tag.Malformed ↔ tag.isValid = true := by
  rw [malformed_iff, Bool.not_eq_false]

end Tag

namespace QualifierSet

variable {tags tags' : List Tag} {set set' start : QualifierSet} {tag first second : Tag}
  {error : CompileError}

section Refusing

/-! ## Lists that are refused -/

theorem insert?_of_valid (valid : tag.isValid = true) :
    set.insert? tag = .ok (set.insert tag valid) := dif_pos valid

private theorem insert?_eq_error :
    set.insert? tag = .error error ↔ tag.isValid = false ∧ error = tag.refusal := by
  by_cases valid : tag.isValid = true
  · simp [insert?_of_valid valid, valid]
  · have refused : set.insert? tag = .error tag.refusal := dif_neg valid
    simp [refused, valid, eq_comm]

/-- Tags are refused at the first one that is not valid. -/
theorem foldlM_insert?_eq_error : tags.foldlM insert? start = .error error ↔
    ∃ before tag after, tags = before ++ tag :: after ∧ (∀ other ∈ before, other.isValid = true) ∧
      tag.isValid = false ∧ error = tag.refusal := by
  rw [foldlM_eq_error]
  simp only [insert?_eq_error]
  constructor
  · rintro ⟨before, tag, after, _, split, done, refused⟩
    exact ⟨before, tag, after, split, valid_of_foldlM_insert? done, refused⟩
  · rintro ⟨before, tag, after, split, others, refused⟩
    obtain ⟨middle, done, _⟩ := foldlM_insert? others start
    exact ⟨before, tag, after, middle, split, done, refused⟩

/-- A list of tags is refused exactly if one is malformed, and then the first of these is reported. -/
theorem ofTags_eq_error_iff : ofTags tags = .error error ↔
    ∃ before name payload after, tags = before ++ .named name payload :: after ∧
      (∀ tag ∈ before, ¬ tag.Malformed) ∧ (Tag.named name payload).Malformed ∧
      error = .invalidPayload name payload := by
  rw [ofTags, foldlM_insert?_eq_error]
  simp only [← Tag.malformed_iff, ← Tag.not_malformed_iff]
  constructor
  · rintro ⟨before, tag, after, split, others, malformed, refused⟩
    cases tag with
    | marker name => exact malformed.elim
    | named name payload => exact ⟨before, name, payload, after, split, others, malformed, refused⟩
  · rintro ⟨before, name, payload, after, split, others, malformed, refused⟩
    exact ⟨before, .named name payload, after, split, others, malformed, refused⟩

end Refusing

section Comparing

/-! ## Sets with the same identifiers -/

/-- Sets are equal if they have the same identifiers. -/
theorem sameAs_of_mem_iff
    (same : ∀ identifier, identifier ∈ set.identifiers ↔ identifier ∈ set'.identifiers) :
    set.sameAs set' = true :=
  decide_eq_true (set.identifiers_ordered.eq_of_mem_iff set'.identifiers_ordered same)

/-- The same tags, in another order and any number of times, make an equal set. -/
theorem exists_ofTags_of_mem_iff (same : ∀ tag, tag ∈ tags' ↔ tag ∈ tags)
    (done : ofTags tags = .ok set) :
    ∃ set', ofTags tags' = .ok set' ∧ set.sameAs set' = true := by
  obtain ⟨valid, _⟩ := ofTags_eq_ok_iff.mp done
  obtain ⟨set', done', _⟩ :=
    foldlM_insert? (fun tag member => valid tag ((same tag).mp member)) empty
  refine ⟨set', done', sameAs_of_mem_iff fun identifier => ?_⟩
  rw [mem_identifiers_iff done, mem_identifiers_iff done']
  simp only [same]

end Comparing

section Adding

/-! ## Adding a tag -/

/-- To add a tag is to write it behind the tags of the set. -/
theorem insert?_eq_ofTags (set : QualifierSet) (tag : Tag) :
    set.insert? tag = ofTags (set.tags ++ [tag]) := by
  have again : set.tags.foldlM insert? empty = .ok set := ofTags_tags set
  rw [ofTags, List.foldlM_append, again]
  change _ = [tag].foldlM insert? set
  rw [List.foldlM_cons]
  cases set.insert? tag <;> rfl

/-- A tag whose identifier is taken changes nothing. -/
theorem insert_of_mem (valid : tag.isValid = true) (taken : tag.identifier ∈ set.identifiers) :
    set.insert tag valid = set := by
  obtain ⟨old, member, same⟩ := List.mem_map.mp taken
  exact ext (set.ordered.place_eq_self member same)

private theorem mem_identifiers_insert (valid : tag.isValid = true) {identifier : String} :
    identifier ∈ (set.insert tag valid).identifiers ↔
      identifier ∈ set.identifiers ∨ identifier = tag.identifier := by
  by_cases taken : tag.identifier ∈ set.identifiers
  · rw [insert_of_mem valid taken]
    exact (or_iff_left_of_imp fun same => same ▸ taken).symm
  · have free : ∀ old ∈ set.tags, old.identifier ≠ tag.identifier :=
      fun old member same => taken (List.mem_map.mpr ⟨old, member, same⟩)
    simp only [identifiers, List.mem_map, mem_insert, and_iff_left free, or_and_right, exists_or,
      exists_eq_left, eq_comm (a := identifier)]

/-- Two tags may be added in either order. -/
theorem sameAs_insert_comm (set : QualifierSet) (validFirst : first.isValid = true)
    (validSecond : second.isValid = true) :
    ((set.insert first validFirst).insert second validSecond).sameAs
      ((set.insert second validSecond).insert first validFirst) = true := by
  refine sameAs_of_mem_iff fun identifier => ?_
  simp only [mem_identifiers_insert]
  exact or_right_comm

end Adding

/-- A list of tags is refused exactly if a payload has a character that is no letter, no digit and no
hyphen, and the first such tag is reported. Otherwise the identifiers of the set are those of the tags in
strict order, and for each identifier the first tag stays: the tags of the set are what is left of the
given ones, sorted by identifier, when neighbours with one identifier are merged. So neither the order nor
the multiplicity of the tags is seen in the set. A set is made again from its own tags, to add a tag is to
write it behind them, a tag whose identifier is taken changes nothing, and of two tags either may be added
first. -/
theorem ofTags_canonical (tags : List Tag) (held : QualifierSet) :
    (∀ error, ofTags tags = .error error ↔
      ∃ before name payload after, tags = before ++ .named name payload :: after ∧
        (∀ tag ∈ before, ¬ tag.Malformed) ∧ (Tag.named name payload).Malformed ∧
        error = .invalidPayload name payload) ∧
    (∀ set, ofTags tags = .ok set →
      set.identifiers.Pairwise (· < ·) ∧
      (∀ identifier, identifier ∈ set.identifiers ↔ ∃ tag ∈ tags, tag.identifier = identifier) ∧
      (∀ tag, tag ∈ set.tags ↔ tags.find? (·.identifier = tag.identifier) = some tag) ∧
      set.tags = (sorted Tag.identifier tags).destutter (fun a b => a.identifier ≠ b.identifier) ∧
      ∀ tags', (∀ tag, tag ∈ tags' ↔ tag ∈ tags) →
        ∃ set', ofTags tags' = .ok set' ∧ set.sameAs set' = true) ∧
    ofTags held.tags = .ok held ∧
    (∀ tag, held.insert? tag = ofTags (held.tags ++ [tag])) ∧
    (∀ tag, ¬ tag.Malformed → tag.identifier ∈ held.identifiers → held.insert? tag = .ok held) ∧
    ∀ first second, ¬ first.Malformed → ¬ second.Malformed →
      ∃ set set', (held.insert? first >>= (·.insert? second)) = .ok set ∧
        (held.insert? second >>= (·.insert? first)) = .ok set' ∧ set.sameAs set' = true := by
  refine ⟨fun _ => ofTags_eq_error_iff, fun set done => ?_, ofTags_tags held, held.insert?_eq_ofTags,
    fun tag valid taken => ?_, fun first second validFirst validSecond => ?_⟩
  · exact ⟨set.identifiers_ordered, fun _ => mem_identifiers_iff done, (ofTags_eq_ok_iff.mp done).2,
      (tags_eq_canonical done).trans (destutter_sorted tags).symm,
      fun _ same => exists_ofTags_of_mem_iff same done⟩
  · have valid := Tag.not_malformed_iff.mp valid
    rw [insert?_of_valid valid, insert_of_mem valid taken]
  · have validFirst := Tag.not_malformed_iff.mp validFirst
    have validSecond := Tag.not_malformed_iff.mp validSecond
    refine ⟨_, _, ?_, ?_, sameAs_insert_comm held validFirst validSecond⟩
    · rw [insert?_of_valid validFirst]
      exact insert?_of_valid validSecond
    · rw [insert?_of_valid validSecond]
      exact insert?_of_valid validFirst

/-- The tag with a payload and the last marker have one identifier, and the first marker is repeated. -/
def berth : List Tag :=
  [.named "Config" "port", .marker "Admin", .marker "Admin", .marker "Config_port"]

theorem ofTags_berth : ∃ set, ofTags berth = .ok set ∧ set.identifiers = ["Admin", "Config_port"] ∧
    .named "Config" "port" ∈ set.tags ∧ .marker "Config_port" ∉ set.tags ∧
    (∃ set', ofTags berth.reverse = .ok set' ∧ set.sameAs set' = true) ∧
    set.insert? (.marker "Config_port") = .ok set ∧
    ofTags (berth ++ [.named "Dock" "a_b"]) = .error (.invalidPayload "Dock" "a_b") := by
  obtain ⟨set, done, identifiers⟩ :
      ∃ set, ofTags berth = .ok set ∧ set.identifiers = ["Admin", "Config_port"] := ⟨_, rfl, by decide⟩
  obtain ⟨_, made, _, _, again, _⟩ := ofTags_canonical berth set
  obtain ⟨_, _, firsts, _, alike⟩ := made set done
  have malformed : (Tag.named "Dock" "a_b").Malformed := ⟨'_', by decide, by decide⟩
  refine ⟨set, done, identifiers, (firsts _).mpr (by decide), fun member => ?_,
    alike _ fun _ => List.mem_reverse, again _ id (identifiers ▸ by decide), ?_⟩
  · exact absurd ((firsts _).mp member) (by decide)
  · refine ((ofTags_canonical (berth ++ [.named "Dock" "a_b"]) set).1 _).mpr
      ⟨berth, "Dock", "a_b", [], rfl, fun tag member => ?_, malformed, rfl⟩
    exact Tag.not_malformed_iff.mpr ((ofTags_eq_ok_iff.mp done).1 tag member)

end QualifierSet

end Wiring
