import Wiring.Catalog.Basic
import Wiring.Json.Basic

/-! # JSON form of types and catalogs

Lists and flags with a usual value may be left out when reading, and so may absent types. Writing
leaves out empty argument lists and empty qualifier sets and nothing else. Qualifiers are brought
into canonical form when they are read, and a malformed one is refused; so is a value of the wrong
shape, while unknown fields are passed over. Records are written as objects; a list of the values of
their fields is read as well.
-/

namespace Wiring

namespace TypeExpr

mutual
/-- A name and, unless there are none, the arguments. -/
def toJson : TypeExpr → Json
  | ⟨name, []⟩ => .object [("name", .string name)]
  | ⟨name, arg :: rest⟩ =>
    .object [("name", .string name), ("args", .array (toJson arg :: toJsonList rest))]

def toJsonList : List TypeExpr → List Json
  | [] => []
  | type :: rest => toJson type :: toJsonList rest
end

mutual
/-- Reads a type; without arguments they are empty. -/
def ofJson? : Json → Option TypeExpr
  | .object fields => do
    let name ← Json.Fields.required fields "name" Json.string?
    let args ← argsOfFields? fields
    some ⟨name, args⟩
  | .array [name] => do
    let name ← name.string?
    some ⟨name, []⟩
  | .array [name, args] => do
    let name ← name.string?
    let args ← argsOfJson? args
    some ⟨name, args⟩
  | _ => none

def argsOfFields? : List (String × Json) → Option (List TypeExpr)
  | [] => some []
  | (name, value) :: rest => if name = "args" then argsOfJson? value else argsOfFields? rest

def argsOfJson? : Json → Option (List TypeExpr)
  | .array items => ofJsonList? items
  | _ => none

def ofJsonList? : List Json → Option (List TypeExpr)
  | [] => some []
  | item :: rest => do
    let type ← ofJson? item
    let types ← ofJsonList? rest
    some (type :: types)
end

end TypeExpr

namespace Tag

def toJson : Tag → Json
  | marker name => .object [("kind", .string "marker"), ("tag", .string name)]
  | named name payload =>
    .object [("kind", .string "named"), ("tag", .string name), ("payload", .string payload)]

def fieldNames : String → List String
  | "marker" => ["tag"]
  | "named" => ["tag", "payload"]
  | _ => []

/-- Reads a tag, whose payload is not checked. -/
def ofJson? (json : Json) : Option Tag := do
  match ← json.variant? fieldNames with
  | ("marker", fields) => marker <$> fields.required "tag" Json.string?
  | ("named", fields) =>
    let name ← fields.required "tag" Json.string?
    let payload ← fields.required "payload" Json.string?
    some (named name payload)
  | _ => none

end Tag

namespace QualifierSet

def toJson (set : QualifierSet) : Json := .array (set.tags.map Tag.toJson)

/-- Reads a list of tags into its canonical set. -/
def ofJson? (json : Json) : Option QualifierSet := do
  let tags ← json.list? Tag.ofJson?
  (ofTags tags).toOption

/-- The field of a set, which is left out when the set is empty. -/
def toFields (set : QualifierSet) : Json.Fields :=
  if set.isEmpty then [] else [("qualifiers", set.toJson)]

end QualifierSet

namespace QualifiedType

def toJson (qualified : QualifiedType) : Json :=
  .object (("ty", qualified.type.toJson) :: qualified.qualifiers.toFields)

def fieldNames : List String := ["ty", "qualifiers"]

def ofJson? (json : Json) : Option QualifiedType := do
  let fields ← json.record? fieldNames
  let type ← fields.required "ty" TypeExpr.ofJson?
  let qualifiers ← fields.withDefault "qualifiers" .empty QualifierSet.ofJson?
  some ⟨type, qualifiers⟩

end QualifiedType

/-- An absent type is null. -/
def TypeExpr.optionToJson : Option TypeExpr → Json
  | some type => type.toJson
  | none => .null

namespace Constructor

def toJson (constructor : Constructor) : Json :=
  .object
    [("params", .array (constructor.params.map QualifiedType.toJson)),
     ("public", .bool constructor.isPublic),
     ("inject", .bool constructor.marked)]

def fieldNames : List String := ["params", "public", "inject"]

def ofJson? (json : Json) : Option Constructor := do
  let fields ← json.record? fieldNames
  let params ← fields.withDefault "params" [] (Json.list? QualifiedType.ofJson?)
  let isPublic ← fields.withDefault "public" true Json.bool?
  let marked ← fields.withDefault "inject" false Json.bool?
  some { params, isPublic, marked }

end Constructor

namespace Method

def toJson (method : Method) : Json :=
  .object <|
    [("name", .string method.name),
     ("params", .array (method.params.map QualifiedType.toJson)),
     ("returns", TypeExpr.optionToJson method.returns)]
    ++ method.qualifiers.toFields
    ++ [("public", .bool method.isPublic),
        ("provides", .bool method.provides),
        ("inject", .bool method.injected),
        ("inject_as", TypeExpr.optionToJson method.injectedAs)]

def fieldNames : List String :=
  ["name", "params", "returns", "qualifiers", "public", "provides", "inject", "inject_as"]

def ofJson? (json : Json) : Option Method := do
  let fields ← json.record? fieldNames
  let name ← fields.required "name" Json.string?
  let params ← fields.withDefault "params" [] (Json.list? QualifiedType.ofJson?)
  let returns ← fields.optional "returns" TypeExpr.ofJson?
  let qualifiers ← fields.withDefault "qualifiers" .empty QualifierSet.ofJson?
  let isPublic ← fields.withDefault "public" true Json.bool?
  let provides ← fields.withDefault "provides" false Json.bool?
  let injected ← fields.withDefault "inject" false Json.bool?
  let injectedAs ← fields.optional "inject_as" TypeExpr.ofJson?
  some { name, params, returns, qualifiers, isPublic, provides, injected, injectedAs }

end Method

namespace TypeInfo

def toJson (info : TypeInfo) : Json :=
  .object
    [("name", .string info.name),
     ("supertypes", .ofStrings info.supertypes),
     ("closeable", .bool info.closeable),
     ("constructors", .array (info.constructors.map Constructor.toJson)),
     ("methods", .array (info.methods.map Method.toJson))]

def fieldNames : List String := ["name", "supertypes", "closeable", "constructors", "methods"]

def ofJson? (json : Json) : Option TypeInfo := do
  let fields ← json.record? fieldNames
  let name ← fields.required "name" Json.string?
  let supertypes ← fields.withDefault "supertypes" [] (Json.list? Json.string?)
  let closeable ← fields.withDefault "closeable" false Json.bool?
  let constructors ← fields.withDefault "constructors" [] (Json.list? Constructor.ofJson?)
  let methods ← fields.withDefault "methods" [] (Json.list? Method.ofJson?)
  some { name, supertypes, closeable, constructors, methods }

end TypeInfo

namespace Catalog

/-- The types in order of name. -/
def toJson (catalog : Catalog) : Json := .array (catalog.types.map TypeInfo.toJson)

/-- Reads a list of types; a later one replaces an earlier one of its name. -/
def ofJson? (json : Json) : Option Catalog := ofList <$> json.list? TypeInfo.ofJson?

end Catalog

end Wiring
