import Wiring.Catalog.Basic
import Wiring.Counting

/-! # Supertypes

Declared supertypes span a graph that may have cycles and may lead out of the catalog. The
lineage of a name lists the catalogued types reached from it, itself included; assignability and
closeability are both read off it.
-/

namespace Wiring.Catalog

/-- How many types of the catalog have not been seen. -/
def unseen (catalog : Catalog) (seen : List String) : Nat :=
  catalog.types.countP (·.name ∉ seen)

private theorem unseen_cons_le (catalog : Catalog) (name : String) (seen : List String) :
    catalog.unseen (name :: seen) ≤ catalog.unseen seen :=
  List.countP_mono_left fun _ _ fresh => by
    simp only [decide_eq_true_eq, List.mem_cons, not_or] at fresh ⊢
    exact fresh.2

private theorem unseen_cons_lt {catalog : Catalog} {info : TypeInfo} {name : String} {seen : List String}
    (found : catalog.find? name = some info) (fresh : name ∉ seen) :
    catalog.unseen (name :: seen) < catalog.unseen seen :=
  countP_lt_of_imp (find?_mem found)
    (fun _ _ unseen => by
      simp only [decide_eq_true_eq, List.mem_cons, not_or] at unseen ⊢
      exact unseen.2)
    (by simp [find?_name found]) (by simpa [find?_name found] using fresh)

/-- Catalogued types reached from the queue without passing a seen name twice. -/
def lineageFrom (catalog : Catalog) (seen queue : List String) : List TypeInfo :=
  match queue with
  | [] => []
  | name :: rest =>
    if _ : name ∈ seen then lineageFrom catalog seen rest
    else match _ : catalog.find? name with
      | none => lineageFrom catalog (name :: seen) rest
      | some info => info :: lineageFrom catalog (name :: seen) (rest ++ info.supertypes)
termination_by (catalog.unseen seen, queue.length)
decreasing_by
  · exact Prod.Lex.right _ (Nat.lt_succ_self _)
  · rcases Nat.lt_or_eq_of_le (unseen_cons_le catalog name seen) with fewer | same
    · exact Prod.Lex.left _ _ fewer
    · rw [same]
      exact Prod.Lex.right _ (Nat.lt_succ_self _)
  · exact Prod.Lex.left _ _ (unseen_cons_lt ‹_› ‹_›)

/-- The catalogued types reached from `name` by declared supertypes. -/
def lineage (catalog : Catalog) (name : String) : List TypeInfo :=
  catalog.lineageFrom [] [name]

/-- Whether an instance of `source` may stand in for one of `target`: the types are the same, or
the name of the target is declared as a supertype somewhere in the lineage of the source. -/
def isAssignable (catalog : Catalog) (target source : TypeExpr) : Bool :=
  target = source
    || (catalog.lineage source.name).any fun info => info.supertypes.contains target.name

/-- Whether the type or one of its supertypes owns a resource. -/
def isCloseable (catalog : Catalog) (type : TypeExpr) : Bool :=
  (catalog.lineage type.name).any (·.closeable)

end Wiring.Catalog
