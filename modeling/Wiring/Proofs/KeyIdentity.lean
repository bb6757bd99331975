import Wiring.Proofs.CanonicalTags
import Wiring.Proofs.Compilation.References

/-! # What tells keys apart

Keys are compared by descriptor. Among plain names nothing is lost by that: a descriptor is read in
one way only, so two keys are equal only if the same was asked for. A deferred handle cannot be
mistaken for an instance, since no other type may be named like it, nor a factory for an instance,
since its tag is part of the descriptor.

What is asked for is a type under a list of tags, of which a canonical set is made. A key depends on
the order of the tags where two unlike tags share an identifier, whatever the names are; everywhere
else it does not.

A slot is named after the names alone, without what stands between them in a descriptor. So equal keys
share a slot where the descriptor is legible, and need not where a name looks like a type of its own.

Main statements: `Key.sameAs_iff_same_request`, `Key.ofTags_perm`, `Key.ofTags_reordered` and
`DirectKey.identifier_eq_of_sameAs`.
-/

namespace Wiring

/-- The kinds of request. -/
inductive Key.Variant where
  | direct
  | lazy
  | autoFactory
deriving DecidableEq, Repr

namespace Key

variable {a b : QualifiedType} {key other : Key}

/-- An instance, a deferred handle or a generated factory. -/
def variant : Key → Variant
  | direct _ => .direct
  | lazy _ => .lazy
  | autoFactory _ => .autoFactory

/-- The request of a variant for what a key asks for. -/
def Variant.request : Variant → DirectKey → Key
  | .direct => .direct
  | .lazy => .lazy
  | .autoFactory => .autoFactory

private theorem request_variant (key : Key) : key.variant.request key.base = key := by
  cases key <;> rfl

section Requests

/-! ## Requests and their keys -/

/-- A factory is asked for by its tag. -/
theorem isAutoFactory_of_ofType (built : ofType a = .ok key) :
    key.isAutoFactory = key.base.qualifiers.isAutoFactory := by
  unfold ofType at built
  split at built
  next =>
    split at built
    · cases built
    next untagged =>
      split at built
      · split at built <;> cases built
        exact (Bool.eq_false_iff.mpr untagged).symm
      · cases built
  next =>
    cases built
    cases tagged : a.qualifiers.isAutoFactory with
    | true => exact tagged.symm
    | false => exact tagged.symm

/-- Different requests have different keys. -/
theorem ofType_inj (builtA : ofType a = .ok key) (builtB : ofType b = .ok key) : a = b := by
  obtain ⟨typeA, qualifiersA⟩ := a
  obtain ⟨typeB, qualifiersB⟩ := b
  rcases ofType_eq_ok builtA with ⟨inner, notLazy, deferred, rfl⟩ | ⟨_, notLazy, base⟩
  · rcases ofType_eq_ok builtB with ⟨inner', _, deferred', same⟩ | ⟨_, direct, _⟩
    · cases same
      exact QualifiedType.mk.injEq .. ▸ ⟨deferred.trans deferred'.symm, rfl⟩
    · cases direct
  · rcases ofType_eq_ok builtB with ⟨inner', _, _, rfl⟩ | ⟨_, _, base'⟩
    · cases notLazy
    · exact base.symm.trans base'

end Requests

section Descriptors

/-! ## Descriptors of keys -/

theorem lazyDescriptor_toList (inner : String) :
    (lazyDescriptor inner).toList = TypeExpr.lazyName.toList ++ '<' :: (inner.toList ++ ['>']) := by
  simp [lazyDescriptor]

private theorem lazyDescriptor_inj {inner inner' : String}
    (same : lazyDescriptor inner = lazyDescriptor inner') : inner = inner' := by
  have chars := congrArg String.toList same
  rw [lazyDescriptor_toList, lazyDescriptor_toList] at chars
  have inside := (List.cons.inj (List.append_cancel_left chars)).2
  exact String.toList_inj.mp (List.append_cancel_right inside)

/-- No instance is described like a deferred handle: a descriptor that starts with a name names the
type, and no type of an instance has the name of the handle. -/
theorem descriptor_ne_lazyDescriptor {direct : DirectKey} (plain : direct.qualified.Plain)
    (inner : String) : direct.descriptor ≠ lazyDescriptor inner := by
  intro same
  have chars := congrArg String.toList same
  rw [lazyDescriptor_toList, DirectKey.descriptor, QualifiedType.descriptor_toList] at chars
  cases tags : direct.qualified.qualifiers.tags with
  | cons tag rest =>
    obtain ⟨others, starts⟩ := Tag.listText_cons tag rest
    rw [tags, starts] at chars
    have first := (List.cons.inj chars).1
    exact absurd first (by decide)
  | nil =>
    rw [tags] at chars
    have notLazy := direct.notLazy
    have legible := plain.type.legible
    generalize direct.qualified.type = type at chars notLazy legible
    obtain ⟨name, args⟩ := type
    have legibleHandle : (TypeExpr.named TypeExpr.lazyName).Legible := by decide
    cases args with
    | nil =>
      rw [TypeExpr.simpleName_named] at chars
      have bracket : '<' ∈ name.toList := by
        rw [show name.toList = _ from chars]
        exact List.mem_append_right _ List.mem_cons_self
      exact absurd (legible.name '<' bracket) (by decide)
    | cons arg rest =>
      rw [TypeExpr.simpleName_applied] at chars
      obtain ⟨sameName, _⟩ := append_inj_of_stopsAt legible.name legibleHandle.name
        (stopsAt_cons (by decide)) (stopsAt_cons (by decide)) chars
      exact absurd (decide_eq_true (String.toList_inj.mp sameName)) (Bool.eq_false_iff.mp notLazy)

/-- Among plain names the descriptor determines the key. -/
theorem descriptor_inj (plainA : a.Plain) (plainB : b.Plain) (builtA : ofType a = .ok key)
    (builtB : ofType b = .ok other) (same : key.descriptor = other.descriptor) : key = other := by
  have plainKey := plain_of_ofType builtA plainA
  have plainOther := plain_of_ofType builtB plainB
  have auto := isAutoFactory_of_ofType builtA
  have autoOther := isAutoFactory_of_ofType builtB
  cases key with
  | lazy inner =>
    cases other with
    | lazy inner' =>
      exact congrArg lazy (DirectKey.descriptor_inj plainKey plainOther (lazyDescriptor_inj same))
    | direct direct => exact (descriptor_ne_lazyDescriptor plainOther _ same.symm).elim
    | autoFactory direct => exact (descriptor_ne_lazyDescriptor plainOther _ same.symm).elim
  | direct direct =>
    cases other with
    | lazy inner => exact (descriptor_ne_lazyDescriptor plainKey _ same).elim
    | direct direct' => exact congrArg Key.direct (DirectKey.descriptor_inj plainKey plainOther same)
    | autoFactory direct' =>
      obtain rfl : direct = direct' := DirectKey.descriptor_inj plainKey plainOther same
      cases auto.trans autoOther.symm
  | autoFactory direct =>
    cases other with
    | lazy inner => exact (descriptor_ne_lazyDescriptor plainKey _ same).elim
    | autoFactory direct' =>
      exact congrArg autoFactory (DirectKey.descriptor_inj plainKey plainOther same)
    | direct direct' =>
      obtain rfl : direct = direct' := DirectKey.descriptor_inj plainKey plainOther same
      cases auto.trans autoOther.symm

private theorem eq_of_variant (variants : key.variant = other.variant)
    (types : key.base.type = other.base.type)
    (tags : key.base.qualifiers.tags = other.base.qualifiers.tags) : key = other := by
  have bases : key.base = other.base := by
    apply DirectKey.eq_of_qualified
    exact (QualifiedType.mk.injEq ..).mpr ⟨types, QualifierSet.ext tags⟩
  rw [← request_variant key, ← request_variant other, variants, bases]

/-- Among plain names two keys are equal exactly if they are of one variant, with the same type and
the same tags, and then the same was asked for. -/
theorem sameAs_iff_same_request (plainA : a.Plain) (plainB : b.Plain) (builtA : ofType a = .ok key)
    (builtB : ofType b = .ok other) :
    (key.sameAs other = true ↔ key.variant = other.variant ∧ key.base.type = other.base.type ∧
      key.base.qualifiers.tags = other.base.qualifiers.tags) ∧
    (key.sameAs other = true ↔ a = b) := by
  have same_iff : key.sameAs other = true ↔ key = other := by
    rw [sameAs, decide_eq_true_iff]
    exact ⟨descriptor_inj plainA plainB builtA builtB, congrArg descriptor⟩
  refine ⟨same_iff.trans ⟨?_, ?_⟩, same_iff.trans ⟨?_, ?_⟩⟩
  · rintro rfl
    exact ⟨rfl, rfl, rfl⟩
  · rintro ⟨variants, types, tags⟩
    exact eq_of_variant variants types tags
  · rintro rfl
    exact ofType_inj builtA builtB
  · rintro rfl
    exact Except.ok.inj (builtA.symm.trans builtB)

def table : QualifiedType where
  type := ⟨"Map", [.named "String", ⟨"List", [.named "Int"]⟩]⟩
  qualifiers := ⟨[.named "Config" "db-url", .marker "Primary"], by decide, by decide⟩

def tableHandle : QualifiedType := { table with type := .lazy table.type }

theorem sameAs_tableHandle : table.Plain ∧ tableHandle.Plain ∧
    ∃ key other, ofType table = .ok key ∧ ofType tableHandle = .ok other ∧
      key.descriptor = "@Config(\"db-url\") @Primary Map<String, List<Int>>" ∧
      other.descriptor = "Lazy<@Config(\"db-url\") @Primary Map<String, List<Int>>>" ∧
      (key.sameAs other = true ↔ key.variant = other.variant ∧ key.base.type = other.base.type ∧
        key.base.qualifiers.tags = other.base.qualifiers.tags) ∧
      (key.sameAs other = true ↔ table = tableHandle) := by
  have plain : table.Plain := by decide
  have plainHandle : tableHandle.Plain := by decide
  exact ⟨plain, plainHandle, _, _, rfl, rfl, by decide, by decide,
    sameAs_iff_same_request plain plainHandle rfl rfl⟩

end Descriptors

section Reordering

/-! ## Tags in another order -/

variable {type : TypeExpr} {tags tags' : List Tag}

/-- The key of a type under tags, as they are written. -/
def ofTags (type : TypeExpr) (tags : List Tag) : Except CompileError Key :=
  QualifierSet.ofTags tags >>= fun set => ofType ⟨type, set⟩

/-- The slot of a key is named after the type and the identifiers of its tags. -/
theorem identifier_eq_of_identifiers {set set' : QualifierSet} (built : ofType ⟨type, set⟩ = .ok key)
    (built' : ofType ⟨type, set'⟩ = .ok other) (same : set.identifiers = set'.identifiers) :
    key.identifier = other.identifier := by
  have bases : key.base.type = other.base.type ∧
      key.base.qualifiers.identifiers = other.base.qualifiers.identifiers := by
    rcases ofType_eq_ok built with ⟨inner, _, deferred, rfl⟩ | ⟨direct, _, base⟩
    · rcases ofType_eq_ok built' with ⟨inner', _, deferred', rfl⟩ | ⟨direct', _, _⟩
      · cases deferred.symm.trans deferred'
        exact ⟨rfl, same⟩
      · rw [show type = .lazy inner from deferred] at direct'
        cases direct'
    · rcases ofType_eq_ok built' with ⟨inner', _, deferred', _⟩ | ⟨_, _, base'⟩
      · rw [show type = .lazy inner' from deferred'] at direct
        cases direct
      · rw [DirectKey.type, DirectKey.type, DirectKey.qualifiers, DirectKey.qualifiers, base, base']
        exact ⟨rfl, same⟩
  unfold identifier DirectKey.identifier
  rw [bases.1, bases.2]

/-- The order of tags does not matter to the slot of the key, and it matters to nothing where unlike
tags have unlike identifiers. -/
theorem ofTags_perm (valid : ∀ tag ∈ tags, tag.isValid = true) (perm : tags.Perm tags') :
    (QualifierSet.Apart tags → ofTags type tags = ofTags type tags') ∧
    ∀ key other, ofTags type tags = .ok key → ofTags type tags' = .ok other →
      key.identifier = other.identifier := by
  constructor
  · intro apart
    rw [ofTags, ofTags, QualifierSet.ofTags_eq_of_perm valid apart perm]
  · intro key other built built'
    obtain ⟨set, made, built⟩ := bind_eq_ok.mp built
    obtain ⟨set', made', built'⟩ := bind_eq_ok.mp built'
    exact identifier_eq_of_identifiers built built' (QualifierSet.identifiers_eq_of_perm perm made made')

theorem ofTags_config : (∀ tag ∈ [Tag.named "Config" "port", .marker "Admin"], tag.isValid = true) ∧
    [Tag.named "Config" "port", .marker "Admin"].Perm [.marker "Admin", .named "Config" "port"] ∧
    ofTags (.named "Int") [.named "Config" "port", .marker "Admin"] =
      ofTags (.named "Int") [.marker "Admin", .named "Config" "port"] :=
  have valid : ∀ tag ∈ [Tag.named "Config" "port", .marker "Admin"], tag.isValid = true := by decide
  ⟨valid, .swap .., (ofTags_perm valid (.swap ..)).1 (by decide)⟩

/-- The marker `C_x` and the tag `C` with payload `x` have one identifier, so the first one stays, and
two orders of them make unequal keys. -/
theorem ofTags_reordered : ∃ (tags tags' : List Tag) (key other : Key),
    (∀ tag ∈ tags, tag.isValid = true) ∧ tags.Perm tags' ∧
      ofTags (.named "A") tags = .ok key ∧ ofTags (.named "A") tags' = .ok other ∧
      key.descriptor = "@C_x A" ∧ other.descriptor = "@C(\"x\") A" ∧ key.sameAs other = false :=
  ⟨[.marker "C_x", .named "C" "x"], [.named "C" "x", .marker "C_x"], _, _, by decide, .swap ..,
    rfl, rfl, by decide, by decide, by decide⟩

end Reordering

end Key

namespace DirectKey

section Slots

/-! ## Slots of equal keys -/

variable {a b : QualifiedType} {key other : DirectKey}

/-- Equal keys of legible descriptors name one slot. -/
theorem identifier_eq_of_sameAs (legibleA : a.Legible) (legibleB : b.Legible)
    (builtA : ofType a = .ok key) (builtB : ofType b = .ok other) (same : key.sameAs other = true) :
    key.identifier = other.identifier := by
  obtain rfl := qualified_of_ofType builtA
  obtain rfl := qualified_of_ofType builtB
  have descriptors : key.descriptor = other.descriptor := of_decide_eq_true same
  rw [eq_of_legible legibleA legibleB descriptors]

/-- A table whose names are legible without being plain. -/
def ledger : QualifiedType where
  type := ⟨"Map (v2)", [.named "@Row", .named "\"Text\""]⟩
  qualifiers := ⟨[.named "<Shard>" "7", .marker "Hot,Cold"], by decide, by decide⟩

theorem identifier_ledger : ledger.Legible ∧ ¬ ledger.Plain ∧ ∃ set set' key other,
    QualifierSet.ofTags [.marker "Hot,Cold", .named "<Shard>" "7"] = .ok set ∧
      QualifierSet.ofTags [.named "<Shard>" "7", .marker "Hot,Cold"] = .ok set' ∧
      ofType ⟨ledger.type, set⟩ = .ok key ∧ ofType ⟨ledger.type, set'⟩ = .ok other ∧
      key.descriptor = "@<Shard>(\"7\") @Hot,Cold Map (v2)<@Row, \"Text\">" ∧
      key.sameAs other = true ∧ key.identifier = other.identifier := by
  have legible : ledger.Legible := by decide
  refine ⟨legible, by decide, ledger.qualifiers, ledger.qualifiers, ⟨ledger, rfl⟩, ⟨ledger, rfl⟩,
    rfl, rfl, rfl, rfl, by decide, by decide, ?_⟩
  exact identifier_eq_of_sameAs legible legible rfl rfl (by decide)

/-- A type that is named like a list of `Foo` has the key of that list and a slot of its own. -/
theorem identifier_ne_of_bracket : ∃ key other : DirectKey,
    ofType (.plain ⟨"List", [.named "Foo"]⟩) = .ok key ∧
      ofType (.plain (.named "List<Foo>")) = .ok other ∧ key.sameAs other = true ∧
      key.identifier = "listFoo" ∧ other.identifier = "list<Foo>" :=
  ⟨_, _, rfl, rfl, by decide, by decide, by decide⟩

end Slots

end DirectKey

end Wiring
