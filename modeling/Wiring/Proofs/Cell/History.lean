import Wiring.Cell.Bank

/-! # The history of a run over cells

A run is told as the sequence of its turns: a recipe is started for an empty cell, it ends and the
cell is settled, or an access is answered at once. A turn leads from one point of the run to the next,
where a point has the cells that are being filled, from the innermost outwards, and the bank. Most of
what can be said about runs needs this sequence alone and nothing of the programs.

Main statement: `CellProgram.course_recount`.
-/

namespace Wiring

variable {E α : Type}

/-- What happens in a run, one thing at a time. -/
inductive CellTurn (E α : Type) where
  /-- A recipe is started for the cell. -/
  | started (cell : Nat)
  /-- The recipe that was started for the cell has ended. -/
  | ended (cell : Nat) (reply : Reply RuntimeError (Option α))
  /-- An access to the cell is answered, and no recipe was started for it. -/
  | replied (cell : Nat) (answer : Except RuntimeError α)
  | inspected (cell : Nat) (state : CellState)
  | logged (event : E)

/-- How far a run has come. -/
structure CellPoint (E α : Type) where
  /-- The cells that are being filled, the innermost first. -/
  enclosing : List Nat
  bank : CellBank E α

/-- A turn of a run, with the points that it leads between. -/
structure CellMoment (E α : Type) where
  before : CellPoint E α
  turn : CellTurn E α
  after : CellPoint E α

/-- What a run has come to and all that has happened in it. -/
structure CellAccount (E α ρ : Type) where
  history : List (CellMoment E α)
  result : ρ
  bank : CellBank E α

namespace CellAccount

variable {ρ : Type}

/-- The account with these moments before its own. -/
def following (moments : List (CellMoment E α)) (account : CellAccount E α ρ) : CellAccount E α ρ :=
  { account with history := moments ++ account.history }

/-- The bank after the recipe for the cell has come to this. -/
def settled (created : CellAccount E α (Reply RuntimeError (Option α))) (cell : Nat) (name : String) :
    CellBank E α :=
  created.bank.set cell (.settled name (CellProgram.produced name created.result))

/-- What happens when the recipe for the cell is started, until the cell is settled. -/
def filling (created : CellAccount E α (Reply RuntimeError (Option α))) (cell : Nat)
    (enclosing : List Nat) (bank : CellBank E α) : List (CellMoment E α) :=
  ⟨⟨enclosing, bank⟩, .started cell, ⟨cell :: enclosing, bank.set cell .creating⟩⟩ :: created.history ++
    [⟨⟨cell :: enclosing, created.bank⟩, .ended cell created.result,
      ⟨enclosing, created.settled cell (bank.name cell)⟩⟩]

end CellAccount

namespace CellProgram

/-- Runs a program inside of the accesses to these cells and tells what happens. -/
def recount : CellProgram E α → List Nat → CellBank E α →
    CellAccount E α (Reply RuntimeError (Option α))
  | finish value, _, bank => ⟨[], .ok value, bank⟩
  | fail error, _, bank => ⟨[], .error error, bank⟩
  | panic text, _, bank => ⟨[], .panic text, bank⟩
  | access cell recipe next, enclosing, bank =>
    let here : CellPoint E α := ⟨enclosing, bank⟩
    match (bank.cells cell).answer? (bank.name cell) with
    | some answer => (recount (next answer) enclosing bank).following [⟨here, .replied cell answer, here⟩]
    | none =>
      let created := recount recipe (cell :: enclosing) (bank.set cell .creating)
      let settled := created.settled cell (bank.name cell)
      let history := created.filling cell enclosing bank
      match produced (bank.name cell) created.result with
      | .ok value => (recount (next (.ok value)) enclosing settled).following history
      | .error error => (recount (next (.error error)) enclosing settled).following history
      | .panic text => ⟨history, .panic text, settled⟩
  | inspect cell next, enclosing, bank =>
    let here : CellPoint E α := ⟨enclosing, bank⟩
    let state := (bank.cells cell).state
    (recount (next state) enclosing bank).following [⟨here, .inspected cell state, here⟩]
  | log event next, enclosing, bank =>
    (recount next enclosing (bank.log event)).following
      [⟨⟨enclosing, bank⟩, .logged event, ⟨enclosing, bank.log event⟩⟩]

/-- Runs programs one after another, also when an earlier one has panicked. -/
def runAll : List (CellProgram E α) → CellBank E α →
    List (Reply RuntimeError (Option α)) × CellBank E α
  | [], bank => ([], bank)
  | program :: rest, bank =>
    let (reply, after) := program.run bank
    let (replies, last) := runAll rest after
    (reply :: replies, last)

def recountAll : List (CellProgram E α) → CellBank E α →
    CellAccount E α (List (Reply RuntimeError (Option α)))
  | [], bank => ⟨[], [], bank⟩
  | program :: rest, bank =>
    let first := program.recount [] bank
    let others := recountAll rest first.bank
    ⟨first.history ++ others.history, first.result :: others.result, others.bank⟩

/-! ## Telling changes nothing -/

private theorem recount_run (program : CellProgram E α) (enclosing : List Nat) (bank : CellBank E α) :
    program.run bank =
      ((program.recount enclosing bank).result, (program.recount enclosing bank).bank) := by
  induction program generalizing enclosing bank with
  | finish value => rfl
  | fail error => rfl
  | panic text => rfl
  | access cell recipe next created continued =>
    cases answered : (bank.cells cell).answer? (bank.name cell) with
    | some answer =>
      simp only [run, recount, answered]
      exact continued answer enclosing bank
    | none =>
      simp only [run, recount, answered, created (cell :: enclosing), CellAccount.settled]
      cases produced (bank.name cell)
        (recipe.recount (cell :: enclosing) (bank.set cell .creating)).result with
      | ok value => exact continued _ _ _
      | error error => exact continued _ _ _
      | panic text => rfl
  | inspect cell next ih => exact ih _ enclosing bank
  | log event next ih => exact ih enclosing (bank.log event)

/-- The recount of programs ends where they end. -/
theorem recountAll_run (programs : List (CellProgram E α)) (bank : CellBank E α) :
    runAll programs bank = ((recountAll programs bank).result, (recountAll programs bank).bank) := by
  induction programs generalizing bank with
  | nil => rfl
  | cons program rest ih =>
    simp only [runAll, recountAll, recount_run program [] bank, ih]

end CellProgram

/-! ## Courses -/

/-- What a turn does to the point that a run has come to. -/
inductive CellTurn.Takes : CellPoint E α → CellTurn E α → CellPoint E α → Prop
  | started {enclosing : List Nat} {bank : CellBank E α} {cell : Nat} :
      (bank.cells cell).isEmpty = true →
      Takes ⟨enclosing, bank⟩ (.started cell) ⟨cell :: enclosing, bank.set cell .creating⟩
  | ended {enclosing : List Nat} {bank : CellBank E α} {cell : Nat}
      {reply : Reply RuntimeError (Option α)} :
      Takes ⟨cell :: enclosing, bank⟩ (.ended cell reply) ⟨enclosing,
        bank.set cell (.settled (bank.name cell) (CellProgram.produced (bank.name cell) reply))⟩
  | replied {here : CellPoint E α} {cell : Nat} {answer : Except RuntimeError α} :
      (here.bank.cells cell).answer? (here.bank.name cell) = some answer →
      Takes here (.replied cell answer) here
  | inspected {here : CellPoint E α} {cell : Nat} :
      Takes here (.inspected cell (here.bank.cells cell).state) here
  | logged {enclosing : List Nat} {bank : CellBank E α} {event : E} :
      Takes ⟨enclosing, bank⟩ (.logged event) ⟨enclosing, bank.log event⟩

/-- The moments lead from one point of a run to another one. -/
inductive CellCourse : CellPoint E α → List (CellMoment E α) → CellPoint E α → Prop
  | nil {here : CellPoint E α} : CellCourse here [] here
  | cons {here middle last : CellPoint E α} {turn : CellTurn E α} {moments : List (CellMoment E α)} :
      turn.Takes here middle → CellCourse middle moments last →
      CellCourse here (⟨here, turn, middle⟩ :: moments) last

namespace CellTurn.Takes

variable {here after : CellPoint E α} {turn : CellTurn E α}

theorem names (takes : turn.Takes here after) : after.bank.names = here.bank.names := by
  cases takes <;> rfl

end CellTurn.Takes

namespace CellCourse

variable {here middle last : CellPoint E α} {past future : List (CellMoment E α)}

theorem names (course : CellCourse here past last) : last.bank.names = here.bank.names := by
  induction course with
  | nil => rfl
  | cons takes _ ih => exact ih.trans takes.names

theorem append (first : CellCourse here past middle) (second : CellCourse middle future last) :
    CellCourse here (past ++ future) last := by
  induction first with
  | nil => exact second
  | cons takes _ ih => exact .cons takes (ih second)

/-- A recipe is started for an empty cell, takes its own course and settles the cell. -/
theorem fill {enclosing : List Nat} {bank : CellBank E α} {cell : Nat}
    {created : CellAccount E α (Reply RuntimeError (Option α))}
    (start : (bank.cells cell).isEmpty = true)
    (inner : CellCourse ⟨cell :: enclosing, bank.set cell .creating⟩ created.history
      ⟨cell :: enclosing, created.bank⟩) :
    CellCourse ⟨enclosing, bank⟩ (created.filling cell enclosing bank)
      ⟨enclosing, created.settled cell (bank.name cell)⟩ := by
  have same : created.bank.name cell = bank.name cell := congrArg (·.getD cell "") inner.names
  have ends : (CellTurn.ended cell created.result).Takes ⟨cell :: enclosing, created.bank⟩ _ := .ended
  rw [same] at ends
  exact (CellCourse.cons (.started start) inner).append (.cons ends .nil)

/-- A course can be cut at each of its moments. -/
theorem split {moment : CellMoment E α} (course : CellCourse here (past ++ moment :: future) last) :
    CellCourse here past moment.before ∧ moment.turn.Takes moment.before moment.after ∧
      CellCourse moment.after future last := by
  induction past generalizing here with
  | nil =>
    cases course with
    | cons takes rest => exact ⟨.nil, takes, rest⟩
  | cons first past ih =>
    cases course with
    | cons takes rest =>
      obtain ⟨before, here, after⟩ := ih rest
      exact ⟨.cons takes before, here, after⟩

end CellCourse

namespace CellProgram

/-- What is told of a program is a course, and the program leaves open only the accesses that it has
been inside of from the start. -/
theorem course_recount (program : CellProgram E α) (enclosing : List Nat) (bank : CellBank E α) :
    CellCourse ⟨enclosing, bank⟩ (program.recount enclosing bank).history
      ⟨enclosing, (program.recount enclosing bank).bank⟩ := by
  induction program generalizing enclosing bank with
  | finish value => exact .nil
  | fail error => exact .nil
  | panic text => exact .nil
  | access cell recipe next created continued =>
    rw [recount]
    split
    next answer answered => exact .cons (.replied answered) (continued _ _ _)
    next unanswered =>
      have start : (bank.cells cell).isEmpty = true := Cell.isEmpty_of_answer? unanswered
      have whole := CellCourse.fill start (created (cell :: enclosing) _)
      dsimp only
      split
      next value => exact whole.append (continued _ _ _)
      next error => exact whole.append (continued _ _ _)
      next text => exact whole
  | inspect cell next ih => exact .cons .inspected (ih _ enclosing bank)
  | log event next ih => exact .cons .logged (ih enclosing (bank.log event))

/-- The recount of programs is a course of the bank they start from. -/
theorem course_recountAll (programs : List (CellProgram E α)) (bank : CellBank E α) :
    CellCourse ⟨[], bank⟩ (recountAll programs bank).history ⟨[], (recountAll programs bank).bank⟩ := by
  induction programs generalizing bank with
  | nil => exact .nil
  | cons program rest ih => exact (program.course_recount [] bank).append (ih _)

end CellProgram

end Wiring
