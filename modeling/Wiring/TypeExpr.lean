/-! # Type expressions

A type is a name applied to type arguments. Names are opaque: nothing is known of a type but what
a catalog says. Three names carry a meaning of their own: the deferred handle `Lazy`, the
zero-argument interface `Returner`, and `Unit`, the result of a method that returns nothing.
-/

namespace Wiring

/-- A nominal type and its arguments. -/
structure TypeExpr where
  name : String
  args : List TypeExpr := []
deriving Repr

namespace TypeExpr

/-- Name of the deferred handle. -/
def lazyName : String := "Lazy"

/-- Name of the built-in interface with one method and no parameters. -/
def returnerName : String := "Returner"

/-- Name of the empty result. -/
def unitName : String := "Unit"

def named (name : String) : TypeExpr := ⟨name, []⟩

/-- A deferred handle to `inner`. -/
def lazy (inner : TypeExpr) : TypeExpr := ⟨lazyName, [inner]⟩

/-- The interface whose one method returns `result`. -/
def returner (result : TypeExpr) : TypeExpr := ⟨returnerName, [result]⟩

def unit : TypeExpr := named unitName

/-- Whether the outermost name is that of the deferred handle, whatever its arguments. -/
def isLazy (type : TypeExpr) : Bool := type.name = lazyName

mutual
/-- Renders `Name<First, Second>`, or just the name of a type without arguments. -/
def simpleName : TypeExpr → String
  | ⟨name, []⟩ => name
  | ⟨name, arg :: rest⟩ =>
    name ++ "<" ++ ", ".intercalate (simpleName arg :: simpleNames rest) ++ ">"

def simpleNames : List TypeExpr → List String
  | [] => []
  | type :: rest => simpleName type :: simpleNames rest
end

mutual
/-- Every name in the expression, a type before its arguments. -/
def allNames : TypeExpr → List String
  | ⟨name, args⟩ => name :: allNamesOf args

def allNamesOf : List TypeExpr → List String
  | [] => []
  | type :: rest => allNames type ++ allNamesOf rest
end

mutual
/-- Orders types by name, then by their arguments from left to right. -/
def order : TypeExpr → TypeExpr → Ordering
  | ⟨name, args⟩, ⟨name', args'⟩ => (compare name name').then (orderArgs args args')

/-- Orders argument lists; a proper beginning comes first. -/
def orderArgs : List TypeExpr → List TypeExpr → Ordering
  | [], [] => .eq
  | [], _ :: _ => .lt
  | _ :: _, [] => .gt
  | type :: rest, type' :: rest' => (order type type').then (orderArgs rest rest')
end

mutual
/-- Structural equality is decidable. -/
def decEq : (a b : TypeExpr) → Decidable (a = b)
  | ⟨name, args⟩, ⟨name', args'⟩ =>
    if sameName : name = name' then
      match decEqArgs args args' with
      | isTrue sameArgs => isTrue (by rw [sameName, sameArgs])
      | isFalse other => isFalse (by intro same; injection same with _ same; exact other same)
    else isFalse (by intro same; injection same with same _; exact sameName same)

def decEqArgs : (as bs : List TypeExpr) → Decidable (as = bs)
  | [], [] => isTrue rfl
  | [], _ :: _ => isFalse (by simp)
  | _ :: _, [] => isFalse (by simp)
  | a :: as, b :: bs =>
    match decEq a b, decEqArgs as bs with
    | isTrue same, isTrue sameRest => isTrue (by rw [same, sameRest])
    | isFalse other, _ => isFalse (by intro same; injection same with same _; exact other same)
    | _, isFalse other => isFalse (by intro same; injection same with _ same; exact other same)
end

instance : DecidableEq TypeExpr := decEq

theorem allNamesOf_eq_flatMap (types : List TypeExpr) :
    allNamesOf types = types.flatMap allNames := by
  induction types with
  | nil => rfl
  | cons type rest ih => simp [allNamesOf, ih]

end TypeExpr

end Wiring
