import Wiring.Catalog.TypeInfo

/-! # Catalogs

A catalog knows types by name. It is kept in order of name with one entry for each, so that two
catalogs with the same entries are equal. Interfaces are read from it: a factory or an injector
implements the one method of its interface, and `Returner` with one argument is built in.
-/

namespace Wiring

/-- Types in strict order of name. -/
structure Catalog where
  types : List TypeInfo
  ordered : OrderedBy TypeInfo.name types

namespace Catalog

def empty : Catalog := ⟨[], .nil⟩

@[ext] theorem ext {a b : Catalog} (same : a.types = b.types) : a = b := by
  cases a; cases b; cases same; rfl

/-- Adds a type in place of any entry of its name. -/
def insert (catalog : Catalog) (info : TypeInfo) : Catalog where
  types := place TypeInfo.name true info catalog.types
  ordered := catalog.ordered.place

/-- The catalog of a list of types, where a later entry replaces an earlier one. -/
def ofList (types : List TypeInfo) : Catalog := types.foldl insert empty

def size (catalog : Catalog) : Nat := catalog.types.length

/-- What is known of the type of this name. -/
def find? (catalog : Catalog) (name : String) : Option TypeInfo :=
  catalog.types.find? (·.name = name)

/-- What is known of a type that has to be known. -/
def require (catalog : Catalog) (name : String) : Except CompileError TypeInfo :=
  match catalog.find? name with
  | some info => .ok info
  | none => .error (.missingMetadata name)

/-- Name of the one method of the built-in interface. -/
def returnerMethodName : String := "get"

/-- The one method of a factory or injector interface. -/
def singleMethod (catalog : Catalog) (interface : TypeExpr) : Except CompileError Method :=
  let declared : Except CompileError Method := do
    let info ← catalog.require interface.name
    match info.methods with
    | [method] => pure method
    | methods => throw (.notSingleMethod interface.simpleName methods.length)
  if interface.name = TypeExpr.returnerName then
    match interface.args with
    | [result] => .ok { name := returnerMethodName, returns := some result }
    | _ => declared
  else declared

/-- What a search finds is in the catalog. -/
theorem find?_mem {catalog : Catalog} {name : String} {info : TypeInfo}
    (found : catalog.find? name = some info) : info ∈ catalog.types :=
  List.mem_of_find?_eq_some found

/-- What a search finds carries the name that was asked for. -/
theorem find?_name {catalog : Catalog} {name : String} {info : TypeInfo}
    (found : catalog.find? name = some info) : info.name = name := by
  simpa using List.find?_some found

end Catalog

end Wiring
