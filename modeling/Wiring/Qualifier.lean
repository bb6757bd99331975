import Wiring.CompileError
import Wiring.Identifier
import Wiring.Ordered

/-! # Qualifiers

Qualifiers tell apart several bindings of one type. A tag is a bare marker or a name with a
payload. A set of tags is kept in one canonical form, strictly ordered by identifier, so the order
in which tags were written never matters; of two tags with one identifier the first stays.

Two tags can share an identifier without being equal: the marker `C_x` and the tag `C` with
payload `x`. Comparison of sets goes by identifiers, so it does not see that difference.
-/

namespace Wiring

inductive Tag where
  | marker (name : String)
  | named (name payload : String)
deriving DecidableEq, Repr

namespace Tag

/-- The name of the marker that asks for a generated factory. -/
def autoFactoryName : String := "AutoFactory"

/-- The marker that asks for a generated factory. -/
def autoFactory : Tag := marker autoFactoryName

def name : Tag → String
  | marker name => name
  | named name _ => name

/-- Identifier-safe text of the tag. -/
def identifier : Tag → String
  | marker name => name
  | named name payload => name ++ "_" ++ Identifier.ofPayload payload

def declaration : Tag → String
  | marker name => "@" ++ name
  | named name payload => "@" ++ name ++ "(\"" ++ payload ++ "\")"

/-- Markers are always valid; a payload has a restricted alphabet. -/
def isValid : Tag → Bool
  | marker _ => true
  | named _ payload => Identifier.isPayload payload

def refusal : Tag → CompileError
  | marker name => .invalidPayload name ""
  | named name payload => .invalidPayload name payload

/-- A tag with a payload, refused when the payload leaves its alphabet. -/
def named? (name payload : String) : Except CompileError Tag :=
  let tag := named name payload
  if tag.isValid then .ok tag else .error tag.refusal

end Tag

/-- Valid tags, strictly ordered by identifier. -/
structure QualifierSet where
  tags : List Tag
  valid : ∀ tag ∈ tags, tag.isValid = true
  ordered : OrderedBy Tag.identifier tags

namespace QualifierSet

def empty : QualifierSet := ⟨[], by simp, .nil⟩

instance : Inhabited QualifierSet := ⟨empty⟩

@[ext] theorem ext {a b : QualifierSet} (same : a.tags = b.tags) : a = b := by
  cases a; cases b; cases same; rfl

instance : DecidableEq QualifierSet := fun a b =>
  decidable_of_iff (a.tags = b.tags) ⟨ext, fun same => same ▸ rfl⟩

/-- Adds a valid tag, unless its identifier is taken. -/
def insert (set : QualifierSet) (tag : Tag) (valid : tag.isValid = true) : QualifierSet where
  tags := place Tag.identifier false tag set.tags
  valid other member := by
    rcases mem_of_mem_place member with same | old
    · exact same ▸ valid
    · exact set.valid other old
  ordered := set.ordered.place

/-- Adds a tag; a malformed payload is refused even when the identifier is taken. -/
def insert? (set : QualifierSet) (tag : Tag) : Except CompileError QualifierSet :=
  if valid : tag.isValid = true then .ok (set.insert tag valid) else .error tag.refusal

/-- The canonical set of a list of tags; the first malformed one is reported. -/
def ofTags (tags : List Tag) : Except CompileError QualifierSet :=
  tags.foldlM insert? empty

/-- The set of bare markers, which cannot be malformed. -/
def ofMarkers (names : List String) : QualifierSet :=
  names.foldl (fun set name => set.insert (.marker name) rfl) empty

def isEmpty (set : QualifierSet) : Bool := set.tags.isEmpty

/-- Whether some tag, marker or not, has this name. -/
def containsName (set : QualifierSet) (name : String) : Bool :=
  set.tags.any (·.name = name)

/-- Whether a generated factory is asked for. -/
def isAutoFactory (set : QualifierSet) : Bool := set.containsName Tag.autoFactoryName

def identifiers (set : QualifierSet) : List String := set.tags.map (·.identifier)

def declarations (set : QualifierSet) : List String := set.tags.map (·.declaration)

def text (set : QualifierSet) : String := " ".intercalate set.declarations

/-- Sets are compared by their identifiers. -/
def sameAs (a b : QualifierSet) : Bool := a.identifiers = b.identifiers

end QualifierSet

end Wiring
