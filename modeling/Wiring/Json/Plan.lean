import Wiring.Json.Types
import Wiring.Plan.Basic

/-! # JSON form of plans

Every field of a plan is written and required. Variants are told apart by their `kind`; the origin
of a value, which carries nothing, is a bare name. As with types, records and variants are written
as objects and also read from lists.
-/

namespace Wiring

namespace ValueOrigin

def toJson : ValueOrigin → Json
  | declared => .string "declared"
  | implicit => .string "implicit"

def ofJson? (json : Json) : Option ValueOrigin :=
  match json.name? with
  | some "declared" => some declared
  | some "implicit" => some implicit
  | _ => none

end ValueOrigin

namespace ValueSlot

def toJson (slot : ValueSlot) : Json :=
  .object
    [("identifier", .string slot.identifier),
     ("declared", .string slot.declared),
     ("descriptor", .string slot.descriptor),
     ("origin", slot.origin.toJson)]

def fieldNames : List String := ["identifier", "declared", "descriptor", "origin"]

def ofJson? (json : Json) : Option ValueSlot := do
  let fields ← json.record? fieldNames
  let identifier ← fields.required "identifier" Json.string?
  let declared ← fields.required "declared" Json.string?
  let descriptor ← fields.required "descriptor" Json.string?
  let origin ← fields.required "origin" ValueOrigin.ofJson?
  some { identifier, declared, descriptor, origin }

end ValueSlot

namespace AliasSlot

def toJson (slot : AliasSlot) : Json :=
  .object
    [("identifier", .string slot.identifier),
     ("declared", .string slot.declared),
     ("descriptor", .string slot.descriptor),
     ("target", .string slot.target)]

def fieldNames : List String := ["identifier", "declared", "descriptor", "target"]

def ofJson? (json : Json) : Option AliasSlot := do
  let fields ← json.record? fieldNames
  let identifier ← fields.required "identifier" Json.string?
  let declared ← fields.required "declared" Json.string?
  let descriptor ← fields.required "descriptor" Json.string?
  let target ← fields.required "target" Json.string?
  some { identifier, declared, descriptor, target }

end AliasSlot

namespace Argument

def toJson : Argument → Json
  | slot identifier => .object [("kind", .string "slot"), ("identifier", .string identifier)]
  | lazy identifier => .object [("kind", .string "lazy"), ("identifier", .string identifier)]
  | curried index => .object [("kind", .string "curried"), ("index", .ofWord index)]

def fieldNames : String → List String
  | "slot" => ["identifier"]
  | "lazy" => ["identifier"]
  | "curried" => ["index"]
  | _ => []

def ofJson? (json : Json) : Option Argument := do
  match ← json.variant? fieldNames with
  | ("slot", fields) => slot <$> fields.required "identifier" Json.string?
  | ("lazy", fields) => lazy <$> fields.required "identifier" Json.string?
  | ("curried", fields) => curried <$> fields.required "index" Json.word?
  | _ => none

end Argument

namespace Recipe

def toJson : Recipe → Json
  | constructor type => .object [("kind", .string "constructor"), ("ty", type.toJson)]
  | provider holder holderType method =>
    .object
      [("kind", .string "provider"),
       ("holder", .string holder),
       ("holder_type", holderType.toJson),
       ("method", .string method)]

def fieldNames : String → List String
  | "constructor" => ["ty"]
  | "provider" => ["holder", "holder_type", "method"]
  | _ => []

def ofJson? (json : Json) : Option Recipe := do
  match ← json.variant? fieldNames with
  | ("constructor", fields) => constructor <$> fields.required "ty" TypeExpr.ofJson?
  | ("provider", fields) =>
    let holder ← fields.required "holder" Json.string?
    let holderType ← fields.required "holder_type" TypeExpr.ofJson?
    let method ← fields.required "method" Json.string?
    some (provider holder holderType method)
  | _ => none

end Recipe

namespace CachedSlot

def toJson (slot : CachedSlot) : Json :=
  .object
    [("ordinal", .ofWord slot.ordinal),
     ("identifier", .string slot.identifier),
     ("declared", .string slot.declared),
     ("descriptor", .string slot.descriptor),
     ("recipe", slot.recipe.toJson),
     ("arguments", .array (slot.arguments.map Argument.toJson)),
     ("close_on_teardown", .bool slot.closeOnTeardown)]

def fieldNames : List String :=
  ["ordinal", "identifier", "declared", "descriptor", "recipe", "arguments", "close_on_teardown"]

def ofJson? (json : Json) : Option CachedSlot := do
  let fields ← json.record? fieldNames
  let ordinal ← fields.required "ordinal" Json.word?
  let identifier ← fields.required "identifier" Json.string?
  let declared ← fields.required "declared" Json.string?
  let descriptor ← fields.required "descriptor" Json.string?
  let recipe ← fields.required "recipe" Recipe.ofJson?
  let arguments ← fields.required "arguments" (Json.list? Argument.ofJson?)
  let closeOnTeardown ← fields.required "close_on_teardown" Json.bool?
  some { ordinal, identifier, declared, descriptor, recipe, arguments, closeOnTeardown }

end CachedSlot

namespace FactorySlot

def toJson (slot : FactorySlot) : Json :=
  .object
    [("identifier", .string slot.identifier),
     ("declared", .string slot.declared),
     ("descriptor", .string slot.descriptor),
     ("method", .string slot.method),
     ("parameters", .ofStrings slot.parameters),
     ("product", slot.product.toJson),
     ("arguments", .array (slot.arguments.map Argument.toJson))]

def fieldNames : List String :=
  ["identifier", "declared", "descriptor", "method", "parameters", "product", "arguments"]

def ofJson? (json : Json) : Option FactorySlot := do
  let fields ← json.record? fieldNames
  let identifier ← fields.required "identifier" Json.string?
  let declared ← fields.required "declared" Json.string?
  let descriptor ← fields.required "descriptor" Json.string?
  let method ← fields.required "method" Json.string?
  let parameters ← fields.required "parameters" (Json.list? Json.string?)
  let product ← fields.required "product" TypeExpr.ofJson?
  let arguments ← fields.required "arguments" (Json.list? Argument.ofJson?)
  some { identifier, declared, descriptor, method, parameters, product, arguments }

end FactorySlot

namespace InjectorSlot

def toJson (slot : InjectorSlot) : Json :=
  .object
    [("identifier", .string slot.identifier),
     ("interface", slot.interface.toJson),
     ("method", .string slot.method),
     ("parameters", .ofStrings slot.parameters),
     ("receiver", .string slot.receiver),
     ("receiver_type", slot.receiverType.toJson),
     ("target_method", .string slot.targetMethod),
     ("arguments", .array (slot.arguments.map Argument.toJson)),
     ("returns_unit", .bool slot.returnsUnit)]

def fieldNames : List String :=
  ["identifier", "interface", "method", "parameters", "receiver", "receiver_type",
   "target_method", "arguments", "returns_unit"]

def ofJson? (json : Json) : Option InjectorSlot := do
  let fields ← json.record? fieldNames
  let identifier ← fields.required "identifier" Json.string?
  let interface ← fields.required "interface" TypeExpr.ofJson?
  let method ← fields.required "method" Json.string?
  let parameters ← fields.required "parameters" (Json.list? Json.string?)
  let receiver ← fields.required "receiver" Json.string?
  let receiverType ← fields.required "receiver_type" TypeExpr.ofJson?
  let targetMethod ← fields.required "target_method" Json.string?
  let arguments ← fields.required "arguments" (Json.list? Argument.ofJson?)
  let returnsUnit ← fields.required "returns_unit" Json.bool?
  some { identifier, interface, method, parameters, receiver, receiverType, targetMethod,
         arguments, returnsUnit }

end InjectorSlot

namespace Plan

def toJson (plan : Plan) : Json :=
  .object
    [("package", .string plan.package),
     ("scope_name", .string plan.scopeName),
     ("values", .array (plan.values.map ValueSlot.toJson)),
     ("aliases", .array (plan.aliases.map AliasSlot.toJson)),
     ("cached", .array (plan.cached.map CachedSlot.toJson)),
     ("factories", .array (plan.factories.map FactorySlot.toJson)),
     ("injectors", .array (plan.injectors.map InjectorSlot.toJson))]

def fieldNames : List String :=
  ["package", "scope_name", "values", "aliases", "cached", "factories", "injectors"]

def ofJson? (json : Json) : Option Plan := do
  let fields ← json.record? fieldNames
  let package ← fields.required "package" Json.string?
  let scopeName ← fields.required "scope_name" Json.string?
  let values ← fields.required "values" (Json.list? ValueSlot.ofJson?)
  let aliases ← fields.required "aliases" (Json.list? AliasSlot.ofJson?)
  let cached ← fields.required "cached" (Json.list? CachedSlot.ofJson?)
  let factories ← fields.required "factories" (Json.list? FactorySlot.ofJson?)
  let injectors ← fields.required "injectors" (Json.list? InjectorSlot.ofJson?)
  some { package, scopeName, values, aliases, cached, factories, injectors }

end Plan

end Wiring
