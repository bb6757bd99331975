import Wiring.Declaration.Basic
import Wiring.Text.Layout

/-! # Diagnostic text of declarations

A builder shows itself as one line with every declaration in order. Catalogs are left out: they
are inputs, not declarations.
-/

namespace Wiring

/-- A type as a record of its name and arguments. -/
def TypeExpr.typeText (name : String) (args : List String) : String :=
  Text.record "TypeDescriptor" [("name", Text.quoted name), ("args", Text.listing args)]

mutual
/-- The type and its arguments as nested records. -/
def TypeExpr.text : TypeExpr → String
  | ⟨name, args⟩ => typeText name (texts args)

def TypeExpr.texts : List TypeExpr → List String
  | [] => []
  | type :: rest => TypeExpr.text type :: TypeExpr.texts rest
end

def Tag.text : Tag → String
  | marker name => Text.record "Marker" [("tag", Text.quoted name)]
  | named name payload =>
    Text.record "Named" [("tag", Text.quoted name), ("payload", Text.quoted payload)]

def QualifiedType.text (qualified : QualifiedType) : String :=
  Text.record "QualifiedType"
    [("ty", qualified.type.text),
     ("qualifiers", Text.record "QualifierSet"
       [("tags", Text.listing (qualified.qualifiers.tags.map Tag.text))])]

/-- A key shows its descriptor without quotes. -/
def DirectKey.text (key : DirectKey) : String := "DirectKey(" ++ key.descriptor ++ ")"

/-- A key shows its descriptor without quotes. -/
def Key.text (key : Key) : String := "DependencyKey(" ++ key.descriptor ++ ")"

def Alias.text (declared : Alias) : String :=
  Text.record "AliasDecl"
    [("dependency", declared.dependency.text), ("satisfied_by", declared.satisfiedBy.text)]

def Declarations.text (d : Declarations) : String :=
  Text.record "Declarations"
    [("values", Text.listing (d.values.map (·.text))),
     ("constructors", Text.listing (d.constructors.map (·.text))),
     ("aliases", Text.listing (d.aliases.map (·.text))),
     ("providers", Text.listing (d.providers.map (·.text))),
     ("factories", Text.listing (d.factories.map (·.text))),
     ("injected", Text.listing (d.injected.map (·.text)))]

def Builder.text (builder : Builder) : String :=
  Text.record "ScopeBuilder"
    [("package", Text.quoted builder.package),
     ("scope_name", Text.quoted builder.scopeName),
     ("require_explicit_values", Text.flag builder.explicitValues),
     ("declarations", builder.declarations.text)]

end Wiring
