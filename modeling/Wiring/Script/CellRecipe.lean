import Wiring.Cell.Bank
import Wiring.Text.Layout

/-! # Cell recipes as data

A recipe for a cell of integers first looks at other cells or accesses them, and logs what it
finds; then it ends with a value, with a sum of further accesses, or without a value. Each recipe
logs that it runs. The program of a recipe is a `CellProgram`, so running one always ends.
-/

namespace Wiring.Script

inductive CellEvent where
  /-- The recipe of the named cell runs. -/
  | running (cell : String)
  /-- The stage of the named cell. -/
  | seen (cell : String) (state : CellState)
  /-- What an access was answered. -/
  | answered (outcome : Except RuntimeError Int64)

mutual
/-- Probes, then an ending. -/
inductive CellRecipe where
  | mk (probes : List CellProbe) (ending : CellEnding)

/-- Something a recipe tries out before it ends. -/
inductive CellProbe where
  | inspect (cell : Nat)
  /-- Accesses a cell; a failure is only logged. -/
  | access (cell : Nat) (recipe : CellRecipe)

inductive CellEnding where
  | value (value : Int64)
  | panic (text : String)
  | failure (error : RuntimeError)
  /-- Ends as another recipe does. -/
  | follow (recipe : CellRecipe)
  /-- The sum of accesses, up to the first that fails. -/
  | sum (terms : List CellTerm)
  | nothing

/-- One access of a sum. -/
inductive CellTerm where
  | mk (cell : Nat) (recipe : CellRecipe)
end

/-- A cell in a diagnostic. -/
def cellText (name : String) (state : CellState) : String :=
  Text.record "Lazy" [("name", Text.quoted name), ("state", Text.quoted state.summary)]

/-- Programs over the named cells. -/
abbrev CellScript := CellProgram CellEvent Int64

section Programs

variable (names : List String)

def cellName (cell : Nat) : String := names.getD cell ""

mutual
/-- The program of a recipe, without the note that it runs. -/
def CellRecipe.program : CellRecipe → CellScript
  | .mk probes ending => probed probes ending.program

/-- Tries out probes in order and goes on with `next`. -/
def probed (probes : List CellProbe) (next : CellScript) : CellScript :=
  match probes with
  | [] => next
  | probe :: rest => probe.before (probed rest next)

/-- Tries out one probe and goes on with `next`. -/
def CellProbe.before (probe : CellProbe) (next : CellScript) : CellScript :=
  match probe with
  | .inspect cell => .inspect cell fun state => .log (.seen (cellName names cell) state) next
  | .access cell recipe =>
    .access cell (.log (.running (cellName names cell)) recipe.program) fun outcome =>
      .log (.answered outcome) next

def CellEnding.program : CellEnding → CellScript
  | .value value => .finish (some value)
  | .panic text => .panic text
  | .failure error => .fail error
  | .follow recipe => recipe.program
  | .sum terms => summed 0 terms
  | .nothing => .finish none

/-- Adds the answers of accesses to `total`; the sum has 64 bits. -/
def summed (total : Int64) : List CellTerm → CellScript
  | [] => .finish (some total)
  | .mk cell recipe :: rest =>
    .access cell (.log (.running (cellName names cell)) recipe.program) fun
      | .ok value => summed (total + value) rest
      | .error error => .fail error
end

/-- Accesses a cell with a recipe for the case that it is empty. -/
def fetch (cell : Nat) (recipe : CellRecipe) : CellScript :=
  .get cell (.log (.running (cellName names cell)) (recipe.program names))

end Programs

end Wiring.Script
