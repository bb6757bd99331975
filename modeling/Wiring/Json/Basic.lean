/-! # JSON values

Numbers written as integers are told apart from numbers written with a fraction or an exponent:
counts and positions are only ever read from the former. An object keeps its fields in order, and
a field is found by the first occurrence of its name. A record is an object, or a list of the values
of its fields in order, which may end early.
-/

namespace Wiring

inductive Json where
  | null
  | bool (value : Bool)
  | int (value : Int)
  /-- A number with a fraction or an exponent, as it was written. -/
  | decimal (literal : String)
  | string (value : String)
  | array (items : List Json)
  | object (fields : List (String × Json))

abbrev Json.Fields := List (String × Json)

namespace Json

instance : Inhabited Json := ⟨null⟩

/-- The field of this name, if the value is an object that has it. -/
def field? (name : String) : Json → Option Json
  | object fields => fields.lookup name
  | _ => none

def string? : Json → Option String
  | string value => some value
  | _ => none

/-- The name of a case that carries nothing: a string, or an object whose only field has that name
and is null. -/
def name? : Json → Option String
  | string name => some name
  | object [(name, null)] => some name
  | _ => none

def bool? : Json → Option Bool
  | bool value => some value
  | _ => none

def array? : Json → Option (List Json)
  | array items => some items
  | _ => none

/-- An unsigned number of 64 bits. -/
def word? : Json → Option UInt64
  | int value => if 0 ≤ value ∧ value.toNat < UInt64.size then some (.ofNat value.toNat) else none
  | _ => none

/-- A signed number of 64 bits. -/
def signed? : Json → Option Int
  | int value =>
    if Int64.minValue.toInt ≤ value ∧ value ≤ Int64.maxValue.toInt then some value else none
  | _ => none

/-- A list, all of whose items are read alike. -/
def list? {α : Type} (read : Json → Option α) : Json → Option (List α)
  | array items => items.mapM read
  | _ => none

namespace Fields

/-- A field that has to be there. -/
def required {α : Type} (fields : Fields) (name : String) (read : Json → Option α) : Option α :=
  fields.lookup name >>= read

/-- A field that may be left out. -/
def withDefault {α : Type} (fields : Fields) (name : String) (default : α)
    (read : Json → Option α) : Option α :=
  match fields.lookup name with
  | none => some default
  | some value => read value

/-- A field that may be left out or null. -/
def optional {α : Type} (fields : Fields) (name : String) (read : Json → Option α) :
    Option (Option α) :=
  match fields.lookup name with
  | none => some none
  | some .null => some none
  | some value => some <$> read value

end Fields

/-- The fields of a record with these names. -/
def record? (names : List String) : Json → Option Fields
  | object fields => some fields
  | array items => if items.length ≤ names.length then some (names.zip items) else none
  | _ => none

/-- The kind of a variant and its fields, whose names depend on the kind. In a list the kind comes
first. -/
def variant? (names : String → List String) : Json → Option (String × Fields)
  | object fields => do
    let kind ← Fields.required fields "kind" string?
    some (kind, fields)
  | array (kind :: items) => do
    let kind ← kind.string?
    let fields ← record? (names kind) (array items)
    some (kind, fields)
  | _ => none

def ofWord (value : UInt64) : Json := int value.toNat

def ofStrings (values : List String) : Json := array (values.map string)

end Json

end Wiring
