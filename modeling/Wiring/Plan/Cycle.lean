import Wiring.Counting
import Wiring.Plan.Basic

/-! # Cycles of eager reads

Creating a slot reads its eager dependencies at once, so a cycle of them could never be created.
A depth-first search passes every slot in order and remembers the slots whose dependencies hold no
cycle. When it meets a slot of its own path it stops, and keeps the path and the validated slots
as they are: a search that is run again goes on from there.

Where slots share an identifier the last one's dependencies count. An identifier without a slot
leads nowhere.
-/

namespace Wiring

/-- How far a search has come. -/
structure Search where
  /-- Slots being visited, the outermost first. -/
  path : List String := []
  /-- Slots known to lead to no cycle. -/
  validated : List String := []
deriving DecidableEq, Repr

/-- Where a search stopped: at a slot of its own path. -/
structure Blocked where
  search : Search
  slot : String
deriving DecidableEq, Repr

/-- The part of the path from the slot on, closed by the slot. -/
def Blocked.chain (blocked : Blocked) : List String :=
  blocked.search.path.dropWhile (· ≠ blocked.slot) ++ [blocked.slot]

namespace Plan

/-- What the slot of this identifier reads eagerly. -/
def edges? (plan : Plan) (identifier : String) : Option (List String) :=
  (plan.lastSlot? identifier).map (·.eagerDependencies)

/-- Identifiers of the plan that are not on the path. -/
def offPath (plan : Plan) (path : List String) : Nat :=
  plan.identifiers.countP (· ∉ path)

/-- Only slots of the plan have edges. -/
theorem mem_identifiers_of_edges? {plan : Plan} {identifier : String} {edges : List String}
    (found : plan.edges? identifier = some edges) : identifier ∈ plan.identifiers := by
  obtain ⟨slot, found, _⟩ := Option.map_eq_some_iff.mp found
  have member := List.mem_reverse.mp (List.mem_of_find?_eq_some found)
  have same : slot.identifier = identifier := by simpa using List.find?_some found
  exact List.mem_map.mpr ⟨slot, member, same⟩

private theorem offPath_append_lt {plan : Plan} {path edges : List String} {identifier : String}
    (found : plan.edges? identifier = some edges) (fresh : identifier ∉ path) :
    plan.offPath (path ++ [identifier]) < plan.offPath path :=
  countP_lt_of_imp (mem_identifiers_of_edges? found)
    (fun _ _ off => by
      simp only [decide_eq_true_eq, List.mem_append, not_or] at off ⊢
      exact off.1)
    (by simp) (by simpa using fresh)

mutual
/-- Visits one slot and everything it reads eagerly; the result lists the validated slots. -/
def visit (plan : Plan) (path validated : List String) (slot : String) :
    Except Blocked (List String) :=
  if slot ∈ validated then .ok validated
  else if _ : slot ∈ path then .error ⟨⟨path, validated⟩, slot⟩
  else match _ : plan.edges? slot with
    | none => .ok (slot :: validated)
    | some edges =>
      match visitAll plan (path ++ [slot]) validated edges with
      | .error blocked => .error blocked
      | .ok validated => .ok (slot :: validated)
termination_by (plan.offPath path, 0)
decreasing_by exact Prod.Lex.left _ _ (offPath_append_lt ‹_› ‹_›)

/-- Visits slots in order, up to the first that is blocked. -/
def visitAll (plan : Plan) (path validated : List String) :
    List String → Except Blocked (List String)
  | [] => .ok validated
  | slot :: rest =>
    match visit plan path validated slot with
    | .error blocked => .error blocked
    | .ok validated => visitAll plan path validated rest
termination_by slots => (plan.offPath path, slots.length + 1)
decreasing_by
  · exact Prod.Lex.right _ (Nat.succ_pos _)
  · exact Prod.Lex.right _ (Nat.lt_succ_self _)
end

/-- Runs or resumes a search over every slot in order. -/
def resume (plan : Plan) (search : Search) : Except CompileError Unit × Search :=
  match plan.visitAll search.path search.validated plan.identifiers with
  | .ok validated => (.ok (), { search with validated })
  | .error blocked => (.error (.circularDependency blocked.chain), blocked.search)

/-- Refuses a plan with a cycle of eager reads. -/
def checkCycles (plan : Plan) : Except CompileError Unit := (plan.resume {}).1

end Plan

end Wiring
