import Wiring.Cell.Basic

/-! # Programs over a bank of cells

A recipe may access any cell of the bank, with a recipe of its own for the case that the cell is
empty, and may look at the cells on the way. Such a program is a finite tree that branches on what
it is answered, so running it always ends, however its accesses are nested and even if they lead
back to a cell that is being filled.
-/

namespace Wiring

/-- A program over cells that logs events of type `E`. -/
inductive CellProgram (E α : Type) where
  /-- Ends with a value, or with nothing. -/
  | finish (value : Option α)
  | fail (error : RuntimeError)
  | panic (text : String)
  /-- Accesses a cell; the recipe runs if the cell is empty. A panic is not answered. -/
  | access (cell : Nat) (recipe : CellProgram E α)
      (next : Except RuntimeError α → CellProgram E α)
  /-- Looks at the stage of a cell. -/
  | inspect (cell : Nat) (next : CellState → CellProgram E α)
  | log (event : E) (next : CellProgram E α)

/-- Named cells and the events logged so far. -/
structure CellBank (E α : Type) where
  names : List String
  cells : Nat → Cell α
  events : List E := []

namespace CellBank

variable {E α : Type}

def name (bank : CellBank E α) (cell : Nat) : String := bank.names.getD cell ""

def set (bank : CellBank E α) (cell : Nat) (content : Cell α) : CellBank E α :=
  { bank with cells := fun other => if other = cell then content else bank.cells other }

def log (bank : CellBank E α) (event : E) : CellBank E α :=
  { bank with events := bank.events ++ [event] }

def toList (bank : CellBank E α) : List (Cell α) :=
  (List.range bank.names.length).map bank.cells

/-- A bank of named cells, each with a value from the start or empty. -/
def ofList (cells : List (String × Option α)) : CellBank E α where
  names := cells.map (·.1)
  cells cell :=
    match cells[cell]? with
    | some (_, some value) => .cached value
    | _ => .empty

end CellBank

/-- What a recipe for the cell `name` has produced; nothing is a failure. -/
def CellProgram.produced {α : Type} (name : String) :
    Reply RuntimeError (Option α) → Reply RuntimeError α
  | .ok (some value) => .ok value
  | .ok none => .error (.nullValue name)
  | .error error => .error error
  | .panic text => .panic text

/-- Runs a program. An access to an empty cell marks it, runs the recipe and settles the cell with
what came of it; a panic passes on, and leaves the cell failed. -/
def CellProgram.run {E α : Type} :
    CellProgram E α → CellBank E α → Reply RuntimeError (Option α) × CellBank E α
  | finish value, bank => (.ok value, bank)
  | fail error, bank => (.error error, bank)
  | panic text, bank => (.panic text, bank)
  | access cell recipe next, bank =>
    match (bank.cells cell).answer? (bank.name cell) with
    | some answer => run (next answer) bank
    | none =>
      let (reply, after) := run recipe (bank.set cell .creating)
      let outcome := produced (bank.name cell) reply
      let settled := after.set cell (.settled (bank.name cell) outcome)
      match outcome with
      | .ok value => run (next (.ok value)) settled
      | .error error => run (next (.error error)) settled
      | .panic text => (.panic text, settled)
  | inspect cell next, bank => run (next (bank.cells cell).state) bank
  | log event next, bank => run next (bank.log event)

/-- Accesses one cell and ends as the access does. -/
def CellProgram.get {E α : Type} (cell : Nat) (recipe : CellProgram E α) : CellProgram E α :=
  .access cell recipe fun
    | .ok value => .finish (some value)
    | .error error => .fail error

end Wiring
