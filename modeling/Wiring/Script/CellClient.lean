import Wiring.Script.CellRecipe

/-! # Clients of cells

A client makes requests of a bank of cells one after another. Each request is answered, and tells
what recipes logged and the stage of every cell afterwards.
-/

namespace Wiring.Script

inductive CellRequest where
  | get (cell : Nat) (recipe : CellRecipe)
  /-- As many accesses as there are threads; only one of them runs the recipe. -/
  | race (cell : Nat) (recipe : CellRecipe) (threads : Nat)
  /-- The outcome of a cell, without running anything. -/
  | peek (cell : Nat)
  | describe (cell : Nat)

inductive CellResult where
  | reply (reply : Reply RuntimeError Int64)
  /-- The answers of a race, one for each thread. -/
  | race (replies : List (Reply RuntimeError Int64))
  | peeked (outcome : Option (Except RuntimeError Int64))
  | text (value : String)

/-- What is told after a request. -/
structure CellOutcome where
  result : CellResult
  events : List CellEvent
  states : List CellState

abbrev IntegerBank := CellBank CellEvent Int64

namespace CellClient

def access (bank : IntegerBank) (cell : Nat) (recipe : CellRecipe) :
    Reply RuntimeError Int64 × IntegerBank :=
  ((fetch bank.names cell recipe).run bank).map (CellProgram.produced (bank.name cell)) id

/-- Accesses a cell as often as there are threads. -/
def race (bank : IntegerBank) (cell : Nat) (recipe : CellRecipe) :
    Nat → List (Reply RuntimeError Int64) × IntegerBank
  | 0 => ([], bank)
  | threads + 1 =>
    let (reply, bank) := access bank cell recipe
    let (replies, bank) := race bank cell recipe threads
    (reply :: replies, bank)

def serve (bank : IntegerBank) : CellRequest → CellResult × IntegerBank
  | .get cell recipe => (access bank cell recipe).map .reply id
  | .race cell recipe threads => (race bank cell recipe threads).map .race id
  | .peek cell => (.peeked (bank.cells cell).outcome?, bank)
  | .describe cell => (.text (cellText (bank.name cell) (bank.cells cell).state), bank)

def respond (bank : IntegerBank) (request : CellRequest) : CellOutcome × IntegerBank :=
  let (result, bank) := serve { bank with events := [] } request
  ({ result, events := bank.events, states := bank.toList.map (·.state) }, bank)

def respondAll (bank : IntegerBank) : List CellRequest → List CellOutcome
  | [] => []
  | request :: rest =>
    let (outcome, bank) := respond bank request
    outcome :: respondAll bank rest

end CellClient

end Wiring.Script
