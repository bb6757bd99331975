import Wiring.Proofs.Json.Plans

/-! # Round trips

The formats of types, catalogs and plans lose nothing: what is written is read back as the value it was
written from. In the other direction a catalog can be spelt in many ways: types in any order and several
times, fields left out, records as lists, tags in any order and several times. Written again, it is in
the one form that `Catalog.form` describes.

Main statement: `Json.round_trips`.
-/

namespace Wiring

namespace Json

/-- Types of any nesting, types with qualifiers, catalogs and plans are read back as they were written.
A list that is read as a catalog is written as its last item for each name, in order of name, each with
its qualifier lists in canonical form. -/
theorem round_trips :
    (∀ type : TypeExpr, TypeExpr.ofJson? type.toJson = some type) ∧
    (∀ qualified : QualifiedType, QualifiedType.ofJson? qualified.toJson = some qualified) ∧
    (∀ catalog : Catalog, Catalog.ofJson? catalog.toJson = some catalog) ∧
    (∀ plan : Plan, Plan.ofJson? plan.toJson = some plan) ∧
    ∀ (items : List Json) (catalog : Catalog), Catalog.ofJson? (.array items) = some catalog →
      catalog.toJson = .array ((canonical TypeInfo.nameIn items.reverse).map TypeInfo.form) :=
  ⟨TypeExpr.recovers, QualifiedType.recovers, Catalog.recovers, Plan.recovers,
    fun items catalog done => Catalog.restates (.array items) catalog done⟩

def animal : Json := array [string "Animal", array [string "Being"]]

/-- A type with a method whose tags are out of order and repeated. -/
def dog : Json :=
  let loud := object [("kind", string "marker"), ("tag", string "Loud")]
  let night := object [("payload", string "night"), ("kind", string "named"), ("tag", string "At")]
  object
    [("methods", array [object
      [("name", string "bark"), ("qualifiers", array [loud, night, loud])]]),
     ("name", string "Dog")]

/-- An earlier entry for `Dog` does not matter. -/
def kennel : List Json := [object [("name", string "Dog"), ("closeable", bool true)], dog, animal]

theorem round_trip_kennel : ∃ catalog, Catalog.ofJson? (array kennel) = some catalog ∧
    catalog.toJson = array [TypeInfo.form animal, TypeInfo.form dog] := by
  have accepted : (Catalog.ofJson? (array kennel)).isSome = true := by decide +kernel
  obtain ⟨catalog, done⟩ := Option.isSome_iff_exists.mp accepted
  have latest : [animal, dog] = canonical TypeInfo.nameIn kennel.reverse :=
    eq_canonical_of_perm (by decide +kernel) (.refl _)
  refine ⟨catalog, done, ?_⟩
  rw [round_trips.2.2.2.2 kennel catalog done, ← latest]
  rfl

example : (fun catalog => catalog.types.map fun info =>
      (info.name, info.closeable, info.methods.map (·.qualifiers.identifiers))) <$>
    Catalog.ofJson? (array kennel) =
      some [("Animal", false, []), ("Dog", false, [["At_night", "Loud"]])] := by decide +kernel

end Json

end Wiring
