import Wiring.Reply
import Wiring.RuntimeError

/-! # Memoizing cells

A cell is filled by the first access that finds it empty, and holds what that access produced: a
value, or the failure that every later access is given again. While it is being filled, an access
to it can only come from inside, and fails without changing anything.
-/

namespace Wiring

inductive CellState where
  | empty
  | creating
  | cached
  | failed
deriving DecidableEq, Repr

/-- A cell over values of type `α`. -/
inductive Cell (α : Type) where
  | empty
  | creating
  | cached (value : α)
  | failed (error : RuntimeError)
deriving DecidableEq, Repr

namespace CellState

def label : CellState → String
  | empty => "empty"
  | creating => "creating"
  | cached => "cached"
  | failed => "failed"

/-- The word for a stage in a diagnostic, which does not look behind an unsettled cell. -/
def summary : CellState → String
  | empty => "pending"
  | creating => "pending"
  | cached => "cached"
  | failed => "failed"

end CellState

namespace Cell

variable {α : Type}

def state : Cell α → CellState
  | empty => .empty
  | creating => .creating
  | cached _ => .cached
  | failed _ => .failed

def isEmpty : Cell α → Bool
  | empty => true
  | _ => false

/-- What the cell holds once it is settled. -/
def outcome? : Cell α → Option (Except RuntimeError α)
  | empty => none
  | creating => none
  | cached value => some (.ok value)
  | failed error => some (.error error)

/-- What an access to the cell `name` is answered without running anything; an empty cell has no
answer. -/
def answer? (name : String) : Cell α → Option (Except RuntimeError α)
  | empty => none
  | creating => some (.error (.circularDependency name))
  | cached value => some (.ok value)
  | failed error => some (.error error)

/-- The settled cell after its recipe has ended. A recipe that unwinds leaves a failure. -/
def settled (name : String) : Reply RuntimeError α → Cell α
  | .ok value => cached value
  | .error error => failed error
  | .panic _ => failed (.creationPanicked name)

/-- Only an empty cell has no answer. -/
theorem isEmpty_of_answer? {name : String} {cell : Cell α} (none : cell.answer? name = none) :
    cell.isEmpty = true := by
  cases cell <;> simp_all [answer?, isEmpty]

/-- A cell that has come to an outcome answers with it, whoever asks. -/
theorem answer?_of_outcome? {name : String} {cell : Cell α} {result : Except RuntimeError α}
    (settled : cell.outcome? = some result) : cell.answer? name = some result := by
  cases cell <;> simp_all [outcome?, answer?]

theorem isEmpty_of_state {cell : Cell α} {state : CellState} (holds : cell.state = state)
    (filled : state ≠ .empty) : cell.isEmpty = false := by
  cases cell with
  | empty => exact (filled holds.symm).elim
  | _ => rfl

/-- A settled cell is not empty. -/
theorem isEmpty_of_outcome? {cell : Cell α} {result : Except RuntimeError α}
    (settled : cell.outcome? = some result) : cell.isEmpty = false := by
  cases cell with
  | empty => cases settled
  | _ => rfl

/-- Settling leaves no cell empty, however the creation ended. -/
theorem isEmpty_settled (name : String) (reply : Reply RuntimeError α) :
    (settled name reply).isEmpty = false := by
  cases reply <;> rfl

end Cell

end Wiring
