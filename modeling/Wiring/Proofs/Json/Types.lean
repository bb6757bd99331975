import Wiring.Json.Types
import Wiring.Proofs.Json.Forms

/-! # Types and catalogs, read and written

For each record of a catalog, what is written is read back, and what is read is written in its form:
argument lists and qualifier lists are left out when they are empty, every other field is there, and
the tags of a qualifier list are in canonical form. A catalog has the form of the last type of each
name, in order of name.

Main statements: `recovers` and `restates` of each record, up to `Catalog.recovers`, `Catalog.restates`.
-/

namespace Wiring

open Json (Recovers Restates)

namespace TypeExpr

/-- The fields of a type. -/
theorem toJson_eq (name : String) (args : List TypeExpr) : toJson ⟨name, args⟩ =
    .object (("name", .string name) :: Json.unlessEmpty "args" (.array (toJsonList args))) := by
  cases args <;> simp [toJson, toJsonList, Json.unlessEmpty]

mutual
theorem recovers : Recovers ofJson? toJson
  | ⟨name, []⟩ => by simp [toJson, ofJson?, argsOfFields?, Json.Fields.required, Json.string?]
  | ⟨name, arg :: rest⟩ => by
    simp [toJson, ofJson?, argsOfFields?, argsOfJson?, ofJsonList?, Json.Fields.required, Json.string?,
      recovers arg, recovers_list rest]

theorem recovers_list : ∀ types, ofJsonList? (toJsonList types) = some types
  | [] => rfl
  | type :: rest => by simp [toJsonList, ofJsonList?, recovers type, recovers_list rest]
end

mutual
/-- A type with its arguments in their form, which are left out when there are none. -/
def form : Json → Json
  | .object fields =>
    .object (("name", Json.Fields.written fields "name" .null id) ::
      Json.unlessEmpty "args" (.array (formsOfFields fields)))
  | .array [name] => .object [("name", name)]
  | .array [name, args] =>
    .object (("name", name) :: Json.unlessEmpty "args" (.array (formsOfArgs args)))
  | json => json

/-- The forms of the arguments among the fields of a type. -/
def formsOfFields : List (String × Json) → List Json
  | [] => []
  | (name, value) :: rest => if name = "args" then formsOfArgs value else formsOfFields rest

def formsOfArgs : Json → List Json
  | .array items => forms items
  | _ => []

def forms : List Json → List Json
  | [] => []
  | item :: rest => form item :: forms rest
end

-- The readers call each other as the forms do, so what each of them reads is followed at once.
mutual
theorem restates : Restates ofJson? toJson form
  | .object fields, type, done => by
    simp only [ofJson?, Option.bind_eq_bind, Option.bind_eq_some_iff, Option.some.injEq] at done
    obtain ⟨name, named, args, applied, rfl⟩ := done
    rw [toJson_eq, form, restates_fields fields args applied,
      Json.restates_string.required named]
  | .array [name], type, done => by
    simp only [ofJson?, Option.bind_eq_bind, Option.bind_eq_some_iff, Option.some.injEq] at done
    obtain ⟨text, named, rfl⟩ := done
    rw [toJson, form, Json.restates_string name text named, id]
  | .array [name, args], type, done => by
    simp only [ofJson?, Option.bind_eq_bind, Option.bind_eq_some_iff, Option.some.injEq] at done
    obtain ⟨text, named, types, applied, rfl⟩ := done
    rw [toJson_eq, form, restates_args args types applied, Json.restates_string name text named, id]

theorem restates_fields : ∀ fields types, argsOfFields? fields = some types →
    toJsonList types = formsOfFields fields
  | [], types, done => by
    cases done
    rfl
  | (name, value) :: rest, types, done => by
    rw [argsOfFields?] at done
    rw [formsOfFields]
    split at done
    next here => rw [if_pos here, restates_args value types done]
    next other => rw [if_neg other, restates_fields rest types done]

theorem restates_args : ∀ json types, argsOfJson? json = some types →
    toJsonList types = formsOfArgs json
  | .array items, types, done => restates_list items types done

theorem restates_list : ∀ items types, ofJsonList? items = some types → toJsonList types = forms items
  | [], types, done => by
    cases done
    rfl
  | item :: rest, types, done => by
    simp only [ofJsonList?, Option.bind_eq_bind, Option.bind_eq_some_iff, Option.some.injEq] at done
    obtain ⟨type, here, others, later, rfl⟩ := done
    rw [toJsonList, forms, restates item type here, restates_list rest others later]
end

variable {fields : Json.Fields} {field : String} {type : Option TypeExpr}

private theorem recovers_optional (found : fields.lookup field = some (optionToJson type)) :
    fields.optional field ofJson? = some type := by
  refine recovers.optional rfl (fun _ => rfl) ?_ found
  rintro ⟨name, args⟩ isNull
  rw [toJson_eq] at isNull
  cases isNull

private theorem restates_optional (done : fields.optional field ofJson? = some type) :
    optionToJson type = fields.written field .null (Json.optionalForm form) :=
  restates.optional rfl (fun _ => rfl) done

end TypeExpr

namespace Tag

private theorem recovers : Recovers ofJson? toJson := by
  rintro (name | ⟨name, payload⟩) <;> rfl

def form (json : Json) : Json :=
  match json.variant? fieldNames with
  | some (kind, fields) =>
    .object (("kind", .string kind) ::
      (fieldNames kind).map fun name => (name, .string (fields.text name)))
  | none => json

/-- The identifier of a tag, as its fields say. -/
def identifierIn (json : Json) : String :=
  match json.variant? fieldNames with
  | some ("named", fields) => fields.text "tag" ++ "_" ++ Identifier.ofPayload (fields.text "payload")
  | some (_, fields) => fields.text "tag"
  | none => ""

/-- What a tag is read from. -/
theorem ofJson?_eq_some {json : Json} {tag : Tag} (done : ofJson? json = some tag) :
    ∃ fields, (json.variant? fieldNames = some ("marker", fields) ∧ tag = marker (fields.text "tag")) ∨
      (json.variant? fieldNames = some ("named", fields) ∧
        tag = named (fields.text "tag") (fields.text "payload")) := by
  simp only [ofJson?, Option.bind_eq_bind, Option.bind_eq_some_iff] at done
  obtain ⟨⟨kind, fields⟩, found, here⟩ := done
  refine ⟨fields, ?_⟩
  split at here
  next same =>
    obtain ⟨name, tagged, rfl⟩ := Option.map_eq_some_iff.mp here
    cases same
    exact .inl ⟨found, by rw [Json.text_of_required tagged]⟩
  next same =>
    simp only [Option.bind_eq_some_iff, Option.some.injEq] at here
    obtain ⟨name, tagged, payload, loaded, rfl⟩ := here
    cases same
    exact .inr ⟨found, by rw [Json.text_of_required tagged, Json.text_of_required loaded]⟩
  next => cases here

private theorem restates : Restates ofJson? toJson form := by
  intro json tag done
  obtain ⟨fields, ⟨found, rfl⟩ | ⟨found, rfl⟩⟩ := ofJson?_eq_some done <;>
    · rw [form, found]
      rfl

private theorem identifier_eq (json : Json) (tag : Tag) (done : ofJson? json = some tag) :
    tag.identifier = identifierIn json := by
  obtain ⟨fields, ⟨found, rfl⟩ | ⟨found, rfl⟩⟩ := ofJson?_eq_some done <;>
    · rw [identifierIn, found]
      rfl

end Tag

namespace QualifierSet

private theorem recovers : Recovers ofJson? toJson := by
  intro set
  have tags : set.toJson.list? Tag.ofJson? = some set.tags := Tag.recovers.list set.tags
  rw [ofJson?, tags]
  simp [ofTags_tags, Except.toOption]

/-- Of the tags with one identifier the first, in order of identifier. -/
def form : Json → Json
  | .array items => .array ((canonical Tag.identifierIn items).map Tag.form)
  | json => json

private theorem restates : Restates ofJson? toJson form := by
  intro json set done
  simp only [ofJson?, Option.bind_eq_bind, Option.bind_eq_some_iff] at done
  obtain ⟨tags, listed, made⟩ := done
  have made : ofTags tags = .ok set := by
    cases collected : ofTags tags <;> rw [collected] at made <;> cases made
    rfl
  cases json with
  | array items =>
    rw [toJson, tags_eq_canonical made, form, Tag.restates.canonical Tag.identifier_eq listed]
  | _ => cases listed

private theorem toFields_eq (set : QualifierSet) :
    set.toFields = Json.unlessEmpty "qualifiers" set.toJson := by
  rw [toFields, isEmpty, toJson]
  cases set.tags <;> rfl

section Fields

variable {fields : Json.Fields}

/-- No other field is hidden by the field of a set. -/
theorem lookup_toFields {set : QualifierSet} {name : String} (other : name ≠ "qualifiers") :
    (set.toFields ++ fields).lookup name = fields.lookup name := by
  rw [toFields]
  split
  · rfl
  · rw [List.singleton_append, List.lookup_cons, beq_false_of_ne other]

theorem recovers_field {set : QualifierSet}
    (found : fields.lookup "qualifiers" = set.toFields.lookup "qualifiers") :
    fields.withDefault "qualifiers" .empty ofJson? = some set := by
  rw [toFields] at found
  split at found
  next isEmpty =>
    have same : set = .empty := ext (List.isEmpty_iff.mp isEmpty)
    rw [Json.Fields.withDefault, found, same]
    rfl
  next => exact recovers.withDefault found

theorem restates_field {set : QualifierSet}
    (done : fields.withDefault "qualifiers" .empty ofJson? = some set) :
    set.toFields = Json.unlessEmpty "qualifiers" (fields.written "qualifiers" (.array []) form) := by
  rw [toFields_eq, restates.withDefault done]
  rfl

end Fields

end QualifierSet

namespace QualifiedType

theorem recovers : Recovers ofJson? toJson := by
  intro qualified
  simp only [ofJson?, Option.bind_eq_bind, Option.bind_eq_some_iff, Option.some.injEq]
  exact ⟨_, rfl, _, TypeExpr.recovers.required rfl, _, QualifierSet.recovers_field rfl, rfl⟩

def form : Json → Json :=
  Json.recordForm fieldNames fun fields =>
    ("ty", fields.written "ty" .null TypeExpr.form) ::
      Json.unlessEmpty "qualifiers" (fields.written "qualifiers" (.array []) QualifierSet.form)

theorem restates : Restates ofJson? toJson form := by
  intro json qualified done
  simp only [ofJson?, Option.bind_eq_bind, Option.bind_eq_some_iff, Option.some.injEq] at done
  obtain ⟨fields, found, type, typed, qualifiers, told, rfl⟩ := done
  rw [toJson, form, Json.recordForm_of_record? found, TypeExpr.restates.required typed,
    QualifierSet.restates_field told]

end QualifiedType

namespace Constructor

private theorem recovers : Recovers ofJson? toJson := by
  intro constructor
  simp only [ofJson?, Option.bind_eq_bind, Option.bind_eq_some_iff, Option.some.injEq]
  exact ⟨_, rfl, _, QualifiedType.recovers.list.withDefault rfl, _,
    Json.recovers_bool.withDefault rfl, _, Json.recovers_bool.withDefault rfl, rfl⟩

/-- Parameters and flags; a constructor is public unless it says otherwise. -/
def form : Json → Json :=
  Json.recordForm fieldNames fun fields =>
    [("params", fields.written "params" (.array []) (Json.listForm QualifiedType.form)),
     ("public", fields.written "public" (.bool true) id),
     ("inject", fields.written "inject" (.bool false) id)]

private theorem restates : Restates ofJson? toJson form := by
  intro json constructor done
  simp only [ofJson?, Option.bind_eq_bind, Option.bind_eq_some_iff, Option.some.injEq] at done
  obtain ⟨fields, found, params, listed, isPublic, seen, marked, told, rfl⟩ := done
  rw [toJson, form, Json.recordForm_of_record? found, QualifiedType.restates.list.withDefault listed,
    Json.restates_bool.withDefault seen, Json.restates_bool.withDefault told, List.map_nil]

end Constructor

namespace Method

private theorem recovers : Recovers ofJson? toJson := by
  intro method
  have behind {field : String} {fields : Json.Fields} (other : field ≠ "qualifiers") :
      (method.qualifiers.toFields ++ fields).lookup field = fields.lookup field :=
    QualifierSet.lookup_toFields other
  have told {fields : Json.Fields} (absent : fields.lookup "qualifiers" = none) :
      (method.qualifiers.toFields ++ fields).lookup "qualifiers" =
        method.qualifiers.toFields.lookup "qualifiers" := by
    rw [List.lookup_append, absent, Option.or_none]
  simp only [ofJson?, Option.bind_eq_bind, Option.bind_eq_some_iff, Option.some.injEq]
  exact ⟨_, rfl, _, Json.recovers_string.required rfl, _,
    QualifiedType.recovers.list.withDefault rfl, _, TypeExpr.recovers_optional rfl, _,
    QualifierSet.recovers_field (told rfl), _, Json.recovers_bool.withDefault (behind (by decide)), _,
    Json.recovers_bool.withDefault (behind (by decide)), _,
    Json.recovers_bool.withDefault (behind (by decide)), _,
    TypeExpr.recovers_optional (behind (by decide)), rfl⟩

/-- Every field but an empty list of qualifiers; a method is public unless it says otherwise. -/
def form : Json → Json :=
  Json.recordForm fieldNames fun fields =>
    [("name", fields.written "name" .null id),
     ("params", fields.written "params" (.array []) (Json.listForm QualifiedType.form)),
     ("returns", fields.written "returns" .null (Json.optionalForm TypeExpr.form))]
    ++ Json.unlessEmpty "qualifiers" (fields.written "qualifiers" (.array []) QualifierSet.form)
    ++ [("public", fields.written "public" (.bool true) id),
        ("provides", fields.written "provides" (.bool false) id),
        ("inject", fields.written "inject" (.bool false) id),
        ("inject_as", fields.written "inject_as" .null (Json.optionalForm TypeExpr.form))]

private theorem restates : Restates ofJson? toJson form := by
  intro json method done
  simp only [ofJson?, Option.bind_eq_bind, Option.bind_eq_some_iff, Option.some.injEq] at done
  obtain ⟨fields, found, name, named, params, listed, returns, given, qualifiers, told, isPublic, seen,
    provides, bound, injected, made, injectedAs, implemented, rfl⟩ := done
  rw [toJson, form, Json.recordForm_of_record? found, Json.restates_string.required named,
    QualifiedType.restates.list.withDefault listed, TypeExpr.restates_optional given,
    QualifierSet.restates_field told, Json.restates_bool.withDefault seen,
    Json.restates_bool.withDefault bound, Json.restates_bool.withDefault made,
    TypeExpr.restates_optional implemented, List.map_nil]

end Method

namespace TypeInfo

private theorem recovers : Recovers ofJson? toJson := by
  intro info
  simp only [ofJson?, Option.bind_eq_bind, Option.bind_eq_some_iff, Option.some.injEq]
  exact ⟨_, rfl, _, Json.recovers_string.required rfl, _, Json.recovers_strings.withDefault rfl, _,
    Json.recovers_bool.withDefault rfl, _, Constructor.recovers.list.withDefault rfl, _,
    Method.recovers.list.withDefault rfl, rfl⟩

def form : Json → Json :=
  Json.recordForm fieldNames fun fields =>
    [("name", fields.written "name" .null id),
     ("supertypes", fields.written "supertypes" (.array []) (Json.listForm id)),
     ("closeable", fields.written "closeable" (.bool false) id),
     ("constructors", fields.written "constructors" (.array []) (Json.listForm Constructor.form)),
     ("methods", fields.written "methods" (.array []) (Json.listForm Method.form))]

private theorem restates : Restates ofJson? toJson form := by
  intro json info done
  simp only [ofJson?, Option.bind_eq_bind, Option.bind_eq_some_iff, Option.some.injEq] at done
  obtain ⟨fields, found, name, named, supertypes, above, closeable, owns, constructors, built, methods,
    listed, rfl⟩ := done
  rw [toJson, form, Json.recordForm_of_record? found, Json.restates_string.required named,
    Json.restates_strings.withDefault above, Json.restates_bool.withDefault owns,
    Constructor.restates.list.withDefault built, Method.restates.list.withDefault listed]
  rfl

/-- The name of a type, as its fields say. -/
def nameIn (json : Json) : String :=
  match json.record? fieldNames with
  | some fields => fields.text "name"
  | none => ""

private theorem name_eq (json : Json) (info : TypeInfo) (done : ofJson? json = some info) :
    info.name = nameIn json := by
  simp only [ofJson?, Option.bind_eq_bind, Option.bind_eq_some_iff, Option.some.injEq] at done
  obtain ⟨fields, found, name, named, _, _, _, _, _, _, _, _, rfl⟩ := done
  rw [nameIn, found]
  exact (Json.text_of_required named).symm

end TypeInfo

namespace Catalog

theorem recovers : Recovers ofJson? toJson := by
  intro catalog
  have types : catalog.toJson.list? TypeInfo.ofJson? = some catalog.types :=
    TypeInfo.recovers.list catalog.types
  rw [ofJson?, types, Option.map_eq_map, Option.map_some, ofList_types]

/-- Of the types with one name the last, in order of name. -/
def form : Json → Json
  | .array items => .array ((canonical TypeInfo.nameIn items.reverse).map TypeInfo.form)
  | json => json

theorem restates : Restates ofJson? toJson form := by
  intro json catalog done
  obtain ⟨infos, listed, rfl⟩ := Option.map_eq_some_iff.mp done
  cases json with
  | array items =>
    rw [toJson, types_ofList, form,
      TypeInfo.restates.canonical TypeInfo.name_eq (Json.mapM_reverse listed)]
  | _ => cases listed

end Catalog

end Wiring
