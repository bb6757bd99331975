import Mathlib.Data.List.TakeWhile
import Mathlib.Tactic.MkIffOfInductiveProp
import Wiring.Declaration.Basic

/-! # Plain names

A descriptor is a text: qualifiers and type arguments are set apart by a few reserved characters.
Names are opaque, so a name may hold such a character and two types may share a descriptor. Among
names without reserved characters a descriptor can be read in one way only, and then keys with
one descriptor are the same key. Names may be empty.

Reading takes less than that: the name of a type may hold what only tags are written with, and the
name of a tag what only types are written with. Such descriptors are legible.
-/

namespace Wiring

/-- The characters that a descriptor puts around names. -/
def reserved : List Char := ['<', '>', ',', ' ', '@', '(', ')', '"']

/-- A name without reserved characters. -/
def IsPlain (name : String) : Prop := ∀ c ∈ name.toList, c ∉ reserved

-- Not left to inference, which may find one that goes through all characters there are.
instance (name : String) : Decidable (IsPlain name) :=
  List.decidableBAll (· ∉ reserved) name.toList

def TypeExpr.Plain (type : TypeExpr) : Prop := ∀ name ∈ type.allNames, IsPlain name

instance (type : TypeExpr) : Decidable type.Plain :=
  inferInstanceAs (Decidable (∀ name ∈ type.allNames, IsPlain name))

/-- The name of every tag is plain. -/
def QualifierSet.Plain (set : QualifierSet) : Prop := ∀ tag ∈ set.tags, IsPlain tag.name

instance (set : QualifierSet) : Decidable set.Plain :=
  inferInstanceAs (Decidable (∀ tag ∈ set.tags, IsPlain tag.name))

@[mk_iff] structure QualifiedType.Plain (qualified : QualifiedType) : Prop where
  type : qualified.type.Plain
  qualifiers : qualified.qualifiers.Plain

instance (qualified : QualifiedType) : Decidable qualified.Plain :=
  decidable_of_iff' _ (QualifiedType.plain_iff qualified)

def Constructor.Plain (constructor : Constructor) : Prop := ∀ param ∈ constructor.params, param.Plain

instance (constructor : Constructor) : Decidable constructor.Plain :=
  inferInstanceAs (Decidable (∀ param ∈ constructor.params, param.Plain))

/-- Types and qualifiers in the signature have plain names. -/
@[mk_iff] structure Method.Plain (method : Method) : Prop where
  params : ∀ param ∈ method.params, param.Plain
  returns : ∀ result ∈ method.returns, result.Plain
  qualifiers : method.qualifiers.Plain
  injectedAs : ∀ interface ∈ method.injectedAs, interface.Plain

instance (method : Method) : Decidable method.Plain :=
  decidable_of_iff' _ (Method.plain_iff method)

@[mk_iff] structure TypeInfo.Plain (info : TypeInfo) : Prop where
  name : IsPlain info.name
  supertypes : ∀ name ∈ info.supertypes, IsPlain name
  constructors : ∀ constructor ∈ info.constructors, constructor.Plain
  methods : ∀ method ∈ info.methods, method.Plain

instance (info : TypeInfo) : Decidable info.Plain := decidable_of_iff' _ (TypeInfo.plain_iff info)

def Catalog.Plain (catalog : Catalog) : Prop := ∀ info ∈ catalog.types, info.Plain

instance (catalog : Catalog) : Decidable catalog.Plain :=
  inferInstanceAs (Decidable (∀ info ∈ catalog.types, info.Plain))

@[mk_iff] structure Declarations.Plain (declarations : Declarations) : Prop where
  values : ∀ type ∈ declarations.values, type.Plain
  constructors : ∀ type ∈ declarations.constructors, type.Plain
  aliases : ∀ declared ∈ declarations.aliases,
    declared.dependency.qualified.Plain ∧ declared.satisfiedBy.qualified.Plain
  providers : ∀ holder ∈ declarations.providers, holder.Plain
  factories : ∀ interface ∈ declarations.factories, interface.Plain
  injected : ∀ receiver ∈ declarations.injected, receiver.Plain

instance (declarations : Declarations) : Decidable declarations.Plain :=
  decidable_of_iff' _ (Declarations.plain_iff declarations)

@[mk_iff] structure Builder.Plain (builder : Builder) : Prop where
  catalog : builder.catalog.Plain
  declarations : builder.declarations.Plain

instance (builder : Builder) : Decidable builder.Plain :=
  decidable_of_iff' _ (Builder.plain_iff builder)

section Delimiters

/-! ## Reading up to a delimiter -/

variable {delimits : Char → Bool} {a b x y : List Char}

/-- The text is at its end or goes on with a delimiter. -/
def StopsAt (delimits : Char → Bool) (text : List Char) : Prop := ∀ c ∈ text.head?, delimits c = true

theorem stopsAt_cons {c : Char} (stops : delimits c = true) : StopsAt delimits (c :: x) := by
  rintro _ ⟨⟩
  exact stops

private theorem takeWhile_of_stopsAt (free : ∀ c ∈ a, delimits c = false)
    (stops : StopsAt delimits x) : (a ++ x).takeWhile (fun c => !delimits c) = a := by
  rw [List.takeWhile_append_of_pos fun c member => by simp [free c member]]
  cases x with
  | nil => simp
  | cons c rest => simp [stops c rfl]

/-- Two texts without delimiters that stop at one are told apart by what is written. -/
theorem append_inj_of_stopsAt (freeA : ∀ c ∈ a, delimits c = false)
    (freeB : ∀ c ∈ b, delimits c = false) (stopsX : StopsAt delimits x)
    (stopsY : StopsAt delimits y) (same : a ++ x = b ++ y) : a = b ∧ x = y := by
  have first : a = b := by
    rw [← takeWhile_of_stopsAt freeA stopsX, same, takeWhile_of_stopsAt freeB stopsY]
  exact ⟨first, List.append_cancel_left (first ▸ same)⟩

end Delimiters

/-- What may follow a type inside a descriptor. -/
def TypeExpr.endsType (c : Char) : Bool := c = '>' || c = ','

/-- What may follow the name of a type inside a descriptor. -/
def TypeExpr.endsName (c : Char) : Bool := c = '<' || endsType c

/-- What may follow the name of a tag inside a descriptor. -/
def Tag.endsName (c : Char) : Bool := c = '(' || c = ' '

section Legible

/-! ## Legible descriptors -/

/-- No name in the type holds what may follow it. -/
def TypeExpr.Legible (type : TypeExpr) : Prop :=
  ∀ name ∈ type.allNames, ∀ c ∈ name.toList, endsName c = false

instance (type : TypeExpr) : Decidable type.Legible :=
  have (name : String) : Decidable (∀ c ∈ name.toList, TypeExpr.endsName c = false) :=
    List.decidableBAll (TypeExpr.endsName · = false) name.toList
  inferInstanceAs (Decidable (∀ name ∈ type.allNames, _))

/-- The name of the tag does not hold what may follow it. -/
def Tag.Legible (tag : Tag) : Prop := ∀ c ∈ tag.name.toList, endsName c = false

instance (tag : Tag) : Decidable tag.Legible :=
  List.decidableBAll (Tag.endsName · = false) tag.name.toList

/-- Names do not hold what may follow them, and the type does not begin like a tag. -/
@[mk_iff] structure QualifiedType.Legible (qualified : QualifiedType) : Prop where
  type : qualified.type.Legible
  unmarked : qualified.type.name.toList.head? ≠ some '@'
  tags : ∀ tag ∈ qualified.qualifiers.tags, tag.Legible

instance (qualified : QualifiedType) : Decidable qualified.Legible :=
  decidable_of_iff' _ (QualifiedType.legible_iff qualified)

theorem TypeExpr.Plain.legible {type : TypeExpr} (plain : type.Plain) : type.Legible := by
  intro name member c inside
  have free := plain name member c inside
  simp_all [reserved, endsName, endsType]

private theorem Tag.legible_of_isPlain {tag : Tag} (plain : IsPlain tag.name) : tag.Legible := by
  intro c inside
  have free := plain c inside
  simp_all [reserved, endsName]

/-- Plain names are legible. -/
theorem QualifiedType.Plain.legible {qualified : QualifiedType} (plain : qualified.Plain) :
    qualified.Legible where
  type := plain.type.legible
  unmarked begins := by
    have named : qualified.type.name ∈ qualified.type.allNames := by
      generalize qualified.type = type
      obtain ⟨name, args⟩ := type
      rw [TypeExpr.allNames]
      exact List.mem_cons_self
    exact plain.type _ named '@' (List.mem_of_head? begins) (by decide)
  tags tag member := Tag.legible_of_isPlain (plain.qualifiers tag member)

end Legible

private theorem StopsAt.endsName {x : List Char} (stops : StopsAt TypeExpr.endsType x) :
    StopsAt TypeExpr.endsName x :=
  fun c first => by simp [TypeExpr.endsName, stops c first]

/-- A type is not followed by an opening bracket. -/
theorem StopsAt.not_bracket {x rest : List Char} (stops : StopsAt TypeExpr.endsType x) :
    x ≠ '<' :: rest := by
  rintro rfl
  have bracket := stops '<' rfl
  simp [TypeExpr.endsType] at bracket

namespace TypeExpr

/-- Without arguments the simple name is the name. -/
theorem simpleName_named (name : String) : (⟨name, []⟩ : TypeExpr).simpleName.toList = name.toList := by
  rw [simpleName]

/-- With arguments these follow in angle brackets. -/
theorem simpleName_applied (name : String) (arg : TypeExpr) (rest : List TypeExpr) :
    (⟨name, arg :: rest⟩ : TypeExpr).simpleName.toList =
      name.toList ++ '<' :: ((", ".intercalate (simpleNames (arg :: rest))).toList ++ ['>']) := by
  simp [simpleName, simpleNames]

private theorem intercalate_simpleNames_cons (type next : TypeExpr) (rest : List TypeExpr) :
    (", ".intercalate (simpleNames (type :: next :: rest))).toList =
      type.simpleName.toList ++ ',' :: ' ' :: (", ".intercalate (simpleNames (next :: rest))).toList := by
  simp [simpleNames]

theorem Legible.name {name : String} {args : List TypeExpr} (legible : Legible ⟨name, args⟩) :
    ∀ c ∈ name.toList, endsName c = false :=
  legible name (by simp [allNames])

private theorem Legible.args {name : String} {args : List TypeExpr} (legible : Legible ⟨name, args⟩) :
    ∀ arg ∈ args, arg.Legible := by
  intro arg member other inside
  refine legible other ?_
  rw [allNames, allNamesOf_eq_flatMap]
  exact List.mem_cons_of_mem _ (List.mem_flatMap.mpr ⟨arg, member, inside⟩)

mutual
/-- A type can be read off the beginning of a text in one way only. -/
theorem simpleName_append_inj : (a b : TypeExpr) → {x y : List Char} → a.Legible → b.Legible →
    StopsAt endsType x → StopsAt endsType y →
    a.simpleName.toList ++ x = b.simpleName.toList ++ y → a = b ∧ x = y
  | ⟨name, []⟩, ⟨name', []⟩, x, y, legibleA, legibleB, stopsX, stopsY, same => by
    rw [simpleName_named, simpleName_named] at same
    obtain ⟨sameName, sameRest⟩ := append_inj_of_stopsAt legibleA.name legibleB.name
      stopsX.endsName stopsY.endsName same
    exact ⟨by rw [String.toList_inj.mp sameName], sameRest⟩
  | ⟨name, []⟩, ⟨name', arg' :: rest'⟩, x, y, legibleA, legibleB, stopsX, _, same => by
    rw [simpleName_named, simpleName_applied, List.append_assoc] at same
    obtain ⟨_, sameRest⟩ := append_inj_of_stopsAt legibleA.name legibleB.name
      stopsX.endsName (stopsAt_cons rfl) same
    exact (stopsX.not_bracket sameRest).elim
  | ⟨name, arg :: rest⟩, ⟨name', []⟩, x, y, legibleA, legibleB, _, stopsY, same => by
    rw [simpleName_named, simpleName_applied, List.append_assoc] at same
    obtain ⟨_, sameRest⟩ := append_inj_of_stopsAt legibleA.name legibleB.name
      (stopsAt_cons rfl) stopsY.endsName same
    exact (stopsY.not_bracket sameRest.symm).elim
  | ⟨name, arg :: rest⟩, ⟨name', arg' :: rest'⟩, x, y, legibleA, legibleB, stopsX, stopsY, same => by
    rw [simpleName_applied, simpleName_applied, List.append_assoc, List.append_assoc] at same
    obtain ⟨sameName, sameArgs⟩ := append_inj_of_stopsAt legibleA.name legibleB.name
      (stopsAt_cons rfl) (stopsAt_cons rfl) same
    obtain ⟨sameArg, sameOthers, sameRest⟩ :=
      simpleNames_append_inj arg arg' rest rest' legibleA.args legibleB.args
        (by simpa using (List.cons.inj sameArgs).2)
    exact ⟨by rw [String.toList_inj.mp sameName, sameArg, sameOthers], sameRest⟩
termination_by a => sizeOf a

/-- So can a list of arguments, up to its closing bracket. -/
theorem simpleNames_append_inj : (a b : TypeExpr) → (as bs : List TypeExpr) → {x y : List Char} →
    (∀ type ∈ a :: as, type.Legible) → (∀ type ∈ b :: bs, type.Legible) →
    (", ".intercalate (simpleNames (a :: as))).toList ++ '>' :: x =
      (", ".intercalate (simpleNames (b :: bs))).toList ++ '>' :: y →
    a = b ∧ as = bs ∧ x = y
  | a, b, [], [], x, y, legibleA, legibleB, same => by
    simp only [simpleNames, String.intercalate_singleton] at same
    obtain ⟨first, ends⟩ := simpleName_append_inj a b (legibleA a List.mem_cons_self)
      (legibleB b List.mem_cons_self) (stopsAt_cons rfl) (stopsAt_cons rfl) same
    exact ⟨first, rfl, (List.cons.inj ends).2⟩
  | a, b, [], b' :: bs, x, y, legibleA, legibleB, same => by
    rw [intercalate_simpleNames_cons] at same
    simp only [simpleNames, String.intercalate_singleton, List.append_assoc] at same
    obtain ⟨_, ends⟩ := simpleName_append_inj a b (legibleA a List.mem_cons_self)
      (legibleB b List.mem_cons_self) (stopsAt_cons rfl) (stopsAt_cons rfl) same
    simp at ends
  | a, b, a' :: as, [], x, y, legibleA, legibleB, same => by
    rw [intercalate_simpleNames_cons] at same
    simp only [simpleNames, String.intercalate_singleton, List.append_assoc] at same
    obtain ⟨_, ends⟩ := simpleName_append_inj a b (legibleA a List.mem_cons_self)
      (legibleB b List.mem_cons_self) (stopsAt_cons rfl) (stopsAt_cons rfl) same
    simp at ends
  | a, b, a' :: as, b' :: bs, x, y, legibleA, legibleB, same => by
    rw [intercalate_simpleNames_cons, intercalate_simpleNames_cons, List.append_assoc,
      List.append_assoc] at same
    obtain ⟨first, others⟩ := simpleName_append_inj a b (legibleA a List.mem_cons_self)
      (legibleB b List.mem_cons_self) (stopsAt_cons rfl) (stopsAt_cons rfl) same
    obtain ⟨second, rest, ends⟩ := simpleNames_append_inj a' b' as bs
      (fun type member => legibleA type (List.mem_cons_of_mem _ member))
      (fun type member => legibleB type (List.mem_cons_of_mem _ member))
      (List.cons.inj (List.cons.inj others).2).2
    exact ⟨first, by rw [second, rest], ends⟩
termination_by a _ as => sizeOf a + sizeOf as
end

/-- Neither a name without a tag's mark nor a bracket starts like a tag. -/
theorem simpleName_ne_at {type : TypeExpr} (unmarked : type.name.toList.head? ≠ some '@')
    (rest : List Char) : type.simpleName.toList ≠ '@' :: rest := by
  intro same
  obtain ⟨name, args⟩ := type
  cases args with
  | nil =>
    rw [simpleName_named] at same
    exact unmarked (congrArg List.head? same)
  | cons arg others =>
    rw [simpleName_applied] at same
    cases read : name.toList with
    | nil => simp [read] at same
    | cons c chars =>
      rw [read, List.cons_append] at same
      obtain rfl : c = '@' := (List.cons.inj same).1
      exact unmarked (congrArg List.head? read)

end TypeExpr

namespace Tag

/-- The tags as a descriptor writes them, each with the blank behind it. -/
def listText (tags : List Tag) : List Char := tags.flatMap fun tag => tag.declaration.toList ++ [' ']

theorem declaration_marker (name : String) :
    (marker name).declaration.toList = '@' :: name.toList := by
  simp [declaration]

theorem declaration_named (name payload : String) :
    (named name payload).declaration.toList =
      '@' :: (name.toList ++ '(' :: '"' :: (payload.toList ++ ['"', ')'])) := by
  simp [declaration]

/-- A tag is told from a type by its mark. -/
theorem listText_cons (tag : Tag) (rest : List Tag) :
    ∃ others, listText (tag :: rest) = '@' :: others := by
  cases tag with
  | marker name => exact ⟨_, by rw [listText, List.flatMap_cons, declaration_marker]; rfl⟩
  | named name payload => exact ⟨_, by rw [listText, List.flatMap_cons, declaration_named]; rfl⟩

private theorem declaration_inj {a b : Tag} (legibleA : a.Legible) (legibleB : b.Legible)
    (same : a.declaration.toList = b.declaration.toList) : a = b := by
  cases a with
  | marker name =>
    cases b with
    | marker name' =>
      rw [declaration_marker, declaration_marker] at same
      rw [String.toList_inj.mp (List.cons.inj same).2]
    | named name' payload' =>
      rw [declaration_marker, declaration_named] at same
      have bracket : '(' ∈ name.toList := by simp [(List.cons.inj same).2]
      exact absurd (legibleA '(' bracket) (by decide)
  | named name payload =>
    cases b with
    | marker name' =>
      rw [declaration_marker, declaration_named] at same
      have bracket : '(' ∈ name'.toList := by simp [← (List.cons.inj same).2]
      exact absurd (legibleB '(' bracket) (by decide)
    | named name' payload' =>
      rw [declaration_named, declaration_named] at same
      obtain ⟨sameName, sameRest⟩ := append_inj_of_stopsAt legibleA legibleB
        (stopsAt_cons rfl) (stopsAt_cons rfl) (List.cons.inj same).2
      have samePayload : payload.toList = payload'.toList := by simpa using sameRest
      obtain rfl : name = name' := String.toList_inj.mp sameName
      rw [String.toList_inj.mp samePayload]

/-- A payload holds letters, digits and hyphens only. -/
theorem declaration_blank_free {tag : Tag} (legible : tag.Legible) (valid : tag.isValid = true) :
    ∀ c ∈ tag.declaration.toList, decide (c = ' ') = false := by
  intro c member
  refine decide_eq_false fun blank => ?_
  subst blank
  have notInName : ' ' ∉ tag.name.toList := fun inside => absurd (legible ' ' inside) (by decide)
  cases tag with
  | marker name =>
    rw [declaration_marker] at member
    exact notInName ((List.mem_cons.mp member).resolve_left (by decide))
  | named name payload =>
    rw [declaration_named] at member
    have inside : ' ' ∈ name.toList ∨ ' ' ∈ payload.toList := by simpa using member
    rcases inside with inName | inPayload
    · exact notInName inName
    · have allowed : Identifier.isPayloadChar ' ' = true :=
        List.all_eq_true.mp (show payload.toList.all Identifier.isPayloadChar = true from valid)
          ' ' inPayload
      exact absurd allowed (by decide)

end Tag

namespace QualifiedType

private theorem intercalate_declarations (tag : Tag) (rest : List Tag) :
    (" ".intercalate ((tag :: rest).map (·.declaration))).toList ++ [' '] =
      Tag.listText (tag :: rest) := by
  induction rest generalizing tag with
  | nil => simp [Tag.listText]
  | cons next rest ih =>
    have step := ih next
    simp only [List.map_cons, String.intercalate_cons_cons, Tag.listText, List.flatMap_cons] at step ⊢
    simpa using step

/-- A descriptor lists the tags and then the simple name. -/
theorem descriptor_toList (qualified : QualifiedType) :
    qualified.descriptor.toList =
      Tag.listText qualified.qualifiers.tags ++ qualified.type.simpleName.toList := by
  unfold descriptor QualifierSet.isEmpty QualifierSet.text QualifierSet.declarations
  cases tags : qualified.qualifiers.tags with
  | nil => simp [Tag.listText]
  | cons tag rest =>
    rw [← intercalate_declarations]
    simp

/-- Tags end at blanks, and the first token without a tag's mark begins the type. -/
theorem listText_append_inj {as bs : List Tag} {a b : TypeExpr}
    (legibleAs : ∀ tag ∈ as, tag.Legible) (legibleBs : ∀ tag ∈ bs, tag.Legible)
    (validAs : ∀ tag ∈ as, tag.isValid = true) (validBs : ∀ tag ∈ bs, tag.isValid = true)
    (legibleA : a.Legible) (legibleB : b.Legible)
    (unmarkedA : a.name.toList.head? ≠ some '@') (unmarkedB : b.name.toList.head? ≠ some '@')
    (same : Tag.listText as ++ a.simpleName.toList = Tag.listText bs ++ b.simpleName.toList) :
    as = bs ∧ a = b := by
  induction as generalizing bs with
  | nil =>
    cases bs with
    | nil =>
      have ends : StopsAt TypeExpr.endsType [] := by rintro _ ⟨⟩
      exact ⟨rfl, (TypeExpr.simpleName_append_inj a b legibleA legibleB ends ends
        (by simpa [Tag.listText] using same)).1⟩
    | cons tag rest =>
      obtain ⟨others, starts⟩ := Tag.listText_cons tag rest
      rw [starts] at same
      exact (TypeExpr.simpleName_ne_at unmarkedA _ same).elim
  | cons tag rest ih =>
    cases bs with
    | nil =>
      obtain ⟨others, starts⟩ := Tag.listText_cons tag rest
      rw [starts] at same
      exact (TypeExpr.simpleName_ne_at unmarkedB _ same.symm).elim
    | cons tag' rest' =>
      simp only [Tag.listText, List.flatMap_cons, List.append_assoc, List.cons_append,
        List.nil_append] at same
      have legible := legibleAs tag List.mem_cons_self
      have legible' := legibleBs tag' List.mem_cons_self
      obtain ⟨sameTag, sameRest⟩ := append_inj_of_stopsAt
        (Tag.declaration_blank_free legible (validAs tag List.mem_cons_self))
        (Tag.declaration_blank_free legible' (validBs tag' List.mem_cons_self))
        (stopsAt_cons (by decide)) (stopsAt_cons (by decide)) same
      obtain ⟨others, types⟩ := ih
        (fun other member => legibleAs other (List.mem_cons_of_mem _ member))
        (fun other member => legibleBs other (List.mem_cons_of_mem _ member))
        (fun other member => validAs other (List.mem_cons_of_mem _ member))
        (fun other member => validBs other (List.mem_cons_of_mem _ member))
        (List.cons.inj sameRest).2
      exact ⟨by rw [Tag.declaration_inj legible legible' sameTag, others], types⟩

/-- A legible descriptor determines the type and its qualifiers. -/
theorem eq_of_legible {a b : QualifiedType} (legibleA : a.Legible) (legibleB : b.Legible)
    (same : a.descriptor = b.descriptor) : a = b := by
  have chars := congrArg String.toList same
  rw [descriptor_toList, descriptor_toList] at chars
  obtain ⟨tags, types⟩ := listText_append_inj legibleA.tags legibleB.tags a.qualifiers.valid
    b.qualifiers.valid legibleA.type legibleB.type legibleA.unmarked legibleB.unmarked chars
  obtain ⟨type, qualifiers⟩ := a
  obtain ⟨type', qualifiers'⟩ := b
  cases types
  cases QualifierSet.ext tags
  rfl

/-- Among plain names a descriptor determines the type and its qualifiers. -/
theorem descriptor_inj {a b : QualifiedType} (plainA : a.Plain) (plainB : b.Plain)
    (same : a.descriptor = b.descriptor) : a = b :=
  eq_of_legible plainA.legible plainB.legible same

end QualifiedType

/-- Keys with one legible descriptor are the same key. -/
theorem DirectKey.eq_of_legible {a b : DirectKey} (legibleA : a.qualified.Legible)
    (legibleB : b.qualified.Legible) (same : a.descriptor = b.descriptor) : a = b := by
  obtain ⟨qualified, _⟩ := a
  obtain ⟨qualified', _⟩ := b
  cases QualifiedType.eq_of_legible legibleA legibleB same
  rfl

/-- Among plain names, keys with one descriptor are the same key. -/
theorem DirectKey.descriptor_inj {a b : DirectKey} (plainA : a.qualified.Plain)
    (plainB : b.qualified.Plain) (same : a.descriptor = b.descriptor) : a = b :=
  eq_of_legible plainA.legible plainB.legible same

end Wiring
