import Wiring.Json.Basic
import Wiring.Proofs.CanonicalList

/-! # What is read and written

A format is judged in two directions. What was written is read back as the value it was written from.
And what was read, in any of the spellings a reader accepts, is written again in one form, which is
described on JSON alone: defaults filled in, lists item by item, a record as an object with its fields
in order.

Main statements: `Recovers.list` and `Restates.list` on lists, and for the three kinds of fields
`Restates.required`, `Restates.withDefault`, `Restates.optional`.
-/

namespace Wiring

namespace Json

variable {α : Type} {read : Json → Option α} {write : α → Json} {form : Json → Json} {json : Json}

/-- What is written is read back. -/
abbrev Recovers (read : Json → Option α) (write : α → Json) : Prop :=
  ∀ value, read (write value) = some value

/-- What was read is written in the form of what it was read from. -/
abbrev Restates (read : Json → Option α) (write : α → Json) (form : Json → Json) : Prop :=
  ∀ json value, read json = some value → write value = form json

section Values

/-! ## Values without parts -/

/-- Texts are recovered from what is written for them. -/
theorem recovers_string : Recovers string? string := fun _ => rfl

theorem recovers_bool : Recovers bool? bool := fun _ => rfl

theorem recovers_word : Recovers word? ofWord := by
  intro value
  have small : value.toNat < UInt64.size := value.toNat_lt
  simp [ofWord, word?, small]

theorem restates_string : Restates string? string id := by
  intro json value done
  cases json <;> cases done
  rfl

theorem restates_bool : Restates bool? bool id := by
  intro json value done
  cases json <;> cases done
  rfl

end Values

section Lists

/-! ## Lists -/

/-- A list in which every item has its form. -/
def listForm (form : Json → Json) : Json → Json
  | array items => array (items.map form)
  | json => json

/-- Lists are recovered if their items are. -/
theorem Recovers.list (recovers : Recovers read write) :
    Recovers (list? read) (fun values => array (values.map write)) := by
  intro values
  show (values.map write).mapM read = some values
  induction values with
  | nil => rfl
  | cons value rest ih => simp [recovers value, ih]

theorem recovers_strings : Recovers (list? string?) ofStrings := recovers_string.list

/-- A list is read item by item: there is a list of what is read together with what it is read as. -/
theorem mapM_eq_some_iff {items : List Json} {values : List α} : items.mapM read = some values ↔
    ∃ pairs : List (Json × α), pairs.map (·.1) = items ∧ pairs.map (·.2) = values ∧
      ∀ pair ∈ pairs, read pair.1 = some pair.2 := by
  induction items generalizing values with
  | nil =>
    constructor
    · rintro ⟨⟩
      exact ⟨[], rfl, rfl, List.forall_mem_nil _⟩
    · rintro ⟨pairs, none, rfl, _⟩
      rw [List.map_eq_nil_iff.mp none]
      rfl
  | cons item rest ih =>
    simp only [List.mapM_cons, Option.bind_eq_bind, Option.bind_eq_some_iff, ih]
    constructor
    · rintro ⟨value, here, _, ⟨pairs, rfl, rfl, later⟩, ⟨⟩⟩
      exact ⟨(item, value) :: pairs, rfl, rfl, List.forall_mem_cons.mpr ⟨here, later⟩⟩
    · rintro ⟨pairs, firsts, rfl, all⟩
      obtain ⟨pair, pairs, rfl, rfl, rfl⟩ := List.map_eq_cons_iff.mp firsts
      obtain ⟨here, later⟩ := List.forall_mem_cons.mp all
      exact ⟨pair.2, here, pairs.map (·.2), ⟨pairs, rfl, rfl, later⟩, rfl⟩

/-- A list that is read from its end holds the same items. -/
theorem mapM_reverse {items : List Json} {values : List α} (done : items.mapM read = some values) :
    items.reverse.mapM read = some values.reverse := by
  obtain ⟨pairs, rfl, rfl, all⟩ := mapM_eq_some_iff.mp done
  exact mapM_eq_some_iff.mpr ⟨pairs.reverse, List.map_reverse, List.map_reverse, fun pair member =>
    all pair (List.mem_reverse.mp member)⟩

/-- A list is restated item by item. -/
theorem Restates.list (restates : Restates read write form) :
    Restates (list? read) (fun values => array (values.map write)) (listForm form) := by
  rintro (_ | _ | _ | _ | _ | items | _) values done <;> try cases done
  obtain ⟨pairs, rfl, rfl, all⟩ := mapM_eq_some_iff.mp done
  simp only [listForm, List.map_map]
  exact congrArg array (List.map_congr_left fun pair member => restates _ _ (all pair member))

/-- What is read of a list, of one key only the first and in order of key, has the forms of the items
that come first with a key that can be told before they are read. -/
theorem Restates.canonical {key : α → String} {keyIn : Json → String} {items : List Json}
    {values : List α} (restates : Restates read write form)
    (keys : ∀ json value, read json = some value → key value = keyIn json)
    (done : items.mapM read = some values) :
    (Wiring.canonical key values).map write = (Wiring.canonical keyIn items).map form := by
  obtain ⟨pairs, rfl, rfl, all⟩ := mapM_eq_some_iff.mp done
  have sameKey : ∀ pair ∈ pairs, keyIn pair.1 = key pair.2 := fun pair member =>
    (keys _ _ (all pair member)).symm
  rw [← map_canonical (fun _ _ => rfl), ← map_canonical sameKey, List.map_map, List.map_map]
  exact List.map_congr_left fun pair member =>
    restates _ _ (all pair (mem_of_mem_canonical member))

theorem restates_strings : Restates (list? string?) ofStrings (listForm id) := restates_string.list

end Lists

section Records

/-! ## Records -/

/-- The fields of a record, each in its form, as an object. -/
def recordForm (names : List String) (form : Fields → Fields) (json : Json) : Json :=
  match json.record? names with
  | some fields => object (form fields)
  | none => json

theorem recordForm_of_record? {names : List String} {form : Fields → Fields} {fields : Fields}
    (found : json.record? names = some fields) :
    recordForm names form json = object (form fields) := by
  rw [recordForm, found]

/-- A field that is left out when it would hold an empty list. -/
def unlessEmpty (name : String) : Json → Fields
  | array [] => []
  | json => [(name, json)]

/-- An absent value is null. -/
def optionalForm (form : Json → Json) : Json → Json
  | null => null
  | json => form json

namespace Fields

/-- The form of the field of this name; `usual` stands for one that is left out. -/
def written (fields : Fields) (name : String) (usual : Json) (form : Json → Json) : Json :=
  match fields.lookup name with
  | none => usual
  | some json => form json

/-- The text of the field of this name. -/
def text (fields : Fields) (name : String) : String := (fields.required name string?).getD ""

end Fields

variable {fields : Fields} {name : String} {usual : Json} {value default : α}

/-- A field that must be there is recovered from an object that holds it. -/
theorem Recovers.required (recovers : Recovers read write)
    (found : fields.lookup name = some (write value)) : fields.required name read = some value := by
  rw [Fields.required, found]
  exact recovers value

/-- So is a field with a default. -/
theorem Recovers.withDefault (recovers : Recovers read write)
    (found : fields.lookup name = some (write value)) :
    fields.withDefault name default read = some value := by
  rw [Fields.withDefault, found]
  exact recovers value

/-- A field that must be there is restated in its form. -/
theorem Restates.required (restates : Restates read write form)
    (done : fields.required name read = some value) :
    write value = fields.written name usual form := by
  obtain ⟨json, found, here⟩ := Option.bind_eq_some_iff.mp done
  rw [Fields.written, found]
  exact restates json value here

/-- A field with a default is restated in its form, or as the default. -/
theorem Restates.withDefault (restates : Restates read write form)
    (done : fields.withDefault name default read = some value) :
    write value = fields.written name (write default) form := by
  rw [Fields.withDefault] at done
  rw [Fields.written]
  cases found : fields.lookup name with
  | none =>
    rw [found] at done
    cases done
    rfl
  | some json =>
    rw [found] at done
    exact restates json value done

section Optional

variable {held : Option α} {writeOptional : Option α → Json}

/-- An optional field is recovered, also if it holds nothing. -/
theorem Recovers.optional (recovers : Recovers read write) (absent : writeOptional none = null)
    (present : ∀ value, writeOptional (some value) = write value) (apart : ∀ value, write value ≠ null)
    (found : fields.lookup name = some (writeOptional held)) :
    fields.optional name read = some held := by
  rw [Fields.optional, found]
  cases held with
  | none => rw [absent]
  | some value =>
    rw [present]
    split
    next missing => cases missing
    next isNull => exact absurd (Option.some.inj isNull) (apart value)
    next json _ same => rw [← Option.some.inj same, recovers value, Option.map_eq_map, Option.map_some]

/-- An optional field is restated in its form, and as null if it was absent. -/
theorem Restates.optional (restates : Restates read write form) (absent : writeOptional none = null)
    (present : ∀ value, writeOptional (some value) = write value)
    (done : fields.optional name read = some held) :
    writeOptional held = fields.written name null (optionalForm form) := by
  rw [Fields.optional] at done
  rw [Fields.written]
  cases found : fields.lookup name with
  | none =>
    rw [found] at done
    cases done
    exact absent
  | some json =>
    rw [found] at done
    cases json with
    | null =>
      cases done
      exact absent
    | _ =>
      obtain ⟨value, here, rfl⟩ := Option.map_eq_some_iff.mp done
      exact (present value).trans (restates _ value here)

end Optional

theorem text_of_required {found : String} (done : fields.required name string? = some found) :
    fields.text name = found := by
  rw [Fields.text, done, Option.getD_some]

end Records

end Json

end Wiring
