import Wiring.Proofs.Cell.History

/-! # Cells on their course

Whatever a program does, a cell is marked exactly while it is being filled, and it never becomes empty
again. So of all that can happen to it, little is left: a settled cell stays as it is and answers every
access, an access to a marked cell is answered with the circular failure, and only for an empty cell a
recipe is started, which then ends and settles the cell.
-/

namespace Wiring

variable {E α : Type}

/-- The outcome that a recipe for the cell `name` leaves behind: what it has produced, or a failure if it
has produced nothing or has unwound. -/
def CellProgram.terminal (name : String) : Reply RuntimeError (Option α) → Except RuntimeError α
  | .ok (some value) => .ok value
  | .ok none => .error (.nullValue name)
  | .error error => .error error
  | .panic _ => .error (.creationPanicked name)

theorem Cell.outcome?_settled (name : String) (reply : Reply RuntimeError (Option α)) :
    (Cell.settled name (CellProgram.produced name reply)).outcome? =
      some (CellProgram.terminal name reply) := by
  rcases reply with ⟨_ | _⟩ | _ | _ <;> rfl

/-- Only a recipe that has failed with the circular failure leaves it behind. -/
theorem CellProgram.eq_of_terminal {name slot : String} {reply : Reply RuntimeError (Option α)}
    (circular : terminal name reply = .error (.circularDependency slot)) :
    reply = .error (.circularDependency slot) := by
  rcases reply with ⟨_ | _⟩ | _ | _ <;> cases circular
  rfl

/-- A recipe that produces the circular failure has failed with it. -/
theorem CellProgram.eq_of_produced {name slot : String} {reply : Reply RuntimeError (Option α)}
    (circular : produced name reply = .error (.circularDependency slot)) :
    reply = .error (.circularDependency slot) := by
  have left := Cell.outcome?_settled name reply
  rw [circular] at left
  exact eq_of_terminal (Option.some.inj left).symm

namespace CellBank

variable {bank : CellBank E α} {cell other : Nat} {content : Cell α}

theorem cells_set_same : (bank.set cell content).cells cell = content := if_pos rfl

theorem cells_set_of_ne (different : other ≠ cell) :
    (bank.set cell content).cells other = bank.cells other :=
  if_neg different

/-- Filling a cell empties no other. -/
theorem isEmpty_of_set (filled : content.isEmpty = false)
    (empty : ((bank.set cell content).cells other).isEmpty = true) :
    (bank.cells other).isEmpty = true := by
  by_cases same : other = cell
  · subst same
    rw [cells_set_same, filled] at empty
    cases empty
  · rwa [cells_set_of_ne same] at empty

private theorem outcome?_of_set {outcome : Except RuntimeError α}
    (settled : ((bank.set cell content).cells other).outcome? = some outcome) :
    (bank.cells other).outcome? = some outcome ∨ other = cell ∧ content.outcome? = some outcome := by
  by_cases same : other = cell
  · subst same
    rw [cells_set_same] at settled
    exact .inr ⟨rfl, settled⟩
  · rw [cells_set_of_ne same] at settled
    exact .inl settled

end CellBank

/-- A recipe is started for this cell. -/
def CellTurn.starts (cell : Nat) : CellTurn E α → Bool
  | .started other => other = cell
  | _ => false

/-- An access to the cell is answered like this, at once or since the recipe started for it has ended. -/
inductive CellMoment.Answers : CellMoment E α → Nat → Reply RuntimeError α → Prop
  | replied {here after : CellPoint E α} {cell : Nat} {answer : Except RuntimeError α} :
      Answers ⟨here, .replied cell answer, after⟩ cell (.ofExcept answer)
  | ended {here after : CellPoint E α} {cell : Nat} {reply : Reply RuntimeError (Option α)} :
      Answers ⟨here, .ended cell reply, after⟩ cell
        (CellProgram.produced (here.bank.name cell) reply)

/-- During these moments and in the end, whoever looks at the cell finds the outcome, and whoever
accesses it is answered with it. -/
structure CellBank.Keeps (last : CellBank E α) (moments : List (CellMoment E α)) (cell : Nat)
    (outcome : Except RuntimeError α) : Prop where
  looks : ∀ moment ∈ moments, (moment.after.bank.cells cell).outcome? = some outcome
  answers : ∀ moment ∈ moments, ∀ reply, moment.Answers cell reply → reply = .ofExcept outcome
  last : (last.cells cell).outcome? = some outcome

/-- The marked cells are those that are being filled, each once. -/
structure CellPoint.Coherent (here : CellPoint E α) : Prop where
  nodup : here.enclosing.Nodup
  creating (cell : Nat) : here.bank.cells cell = .creating ↔ cell ∈ here.enclosing

namespace CellTurn.Takes

/-! ## Turns -/

variable {here after : CellPoint E α} {turn : CellTurn E α} {cell : Nat} {outcome : Except RuntimeError α}

/-- No recipe is started for a cell that is being filled. -/
theorem outside (takes : (CellTurn.started cell).Takes here after) (coherent : here.Coherent) :
    cell ∉ here.enclosing := by
  intro inside
  cases takes with
  | started empty =>
    rw [(coherent.creating cell).mpr inside] at empty
    cases empty

theorem coherent (takes : turn.Takes here after) (coherent : here.Coherent) : after.Coherent := by
  obtain ⟨nodup, creating⟩ := coherent
  cases takes with
  | @started enclosing bank cell empty =>
    have outside : cell ∉ enclosing := (started empty).outside ⟨nodup, creating⟩
    refine ⟨List.nodup_cons.mpr ⟨outside, nodup⟩, fun other => ?_⟩
    by_cases same : other = cell
    · subst same
      exact iff_of_true CellBank.cells_set_same List.mem_cons_self
    · rw [CellBank.cells_set_of_ne same, List.mem_cons]
      exact (creating other).trans (or_iff_right same).symm
  | @ended enclosing bank cell reply =>
    obtain ⟨outside, nodup⟩ := List.nodup_cons.mp nodup
    refine ⟨nodup, fun other => ?_⟩
    by_cases same : other = cell
    · subst same
      refine iff_of_false (fun marked => ?_) outside
      have settled := Cell.outcome?_settled (bank.name other) reply
      rw [CellBank.cells_set_same] at marked
      rw [marked] at settled
      cases settled
    · rw [CellBank.cells_set_of_ne same]
      exact (creating other).trans (List.mem_cons.trans (or_iff_right same))
  | replied _ => exact ⟨nodup, creating⟩
  | inspected => exact ⟨nodup, creating⟩
  | logged => exact ⟨nodup, creating⟩

/-- A settled cell keeps its outcome. -/
theorem keeps (takes : turn.Takes here after) (coherent : here.Coherent)
    (settled : (here.bank.cells cell).outcome? = some outcome) :
    (after.bank.cells cell).outcome? = some outcome := by
  cases takes with
  | @started enclosing bank other empty =>
    have different : cell ≠ other := by
      rintro rfl
      cases content : bank.cells cell <;> simp_all [Cell.outcome?, Cell.isEmpty]
    rwa [CellBank.cells_set_of_ne different]
  | @ended enclosing bank other reply =>
    have different : cell ≠ other := by
      rintro rfl
      have marked : bank.cells cell = .creating := (coherent.creating cell).mpr List.mem_cons_self
      rw [marked] at settled
      cases settled
    rwa [CellBank.cells_set_of_ne different]
  | replied _ => exact settled
  | inspected => exact settled
  | logged => exact settled

/-- No cell becomes empty. -/
theorem isEmpty (takes : turn.Takes here after) (empty : (after.bank.cells cell).isEmpty = true) :
    (here.bank.cells cell).isEmpty = true := by
  cases takes with
  | started _ => exact CellBank.isEmpty_of_set rfl empty
  | ended => exact CellBank.isEmpty_of_set (Cell.isEmpty_settled _ _) empty
  | replied _ => exact empty
  | inspected => exact empty
  | logged => exact empty

/-- The cell that a recipe is started for is empty until then. -/
theorem isEmpty_of_starts (takes : turn.Takes here after) (starts : turn.starts cell = true) :
    (here.bank.cells cell).isEmpty = true ∧ (after.bank.cells cell).isEmpty = false := by
  cases takes with
  | started empty =>
    obtain rfl := of_decide_eq_true starts
    exact ⟨empty, by rw [CellBank.cells_set_same]; rfl⟩
  | ended => cases starts
  | replied _ => cases starts
  | inspected => cases starts
  | logged => cases starts

/-- An outcome that a cell comes to have was left behind by its recipe. -/
theorem outcome_cases (takes : turn.Takes here after)
    (settled : (after.bank.cells cell).outcome? = some outcome) :
    (here.bank.cells cell).outcome? = some outcome ∨
      ∃ reply, turn = .ended cell reply ∧ outcome = CellProgram.terminal (here.bank.name cell) reply := by
  cases takes with
  | started _ =>
    rcases CellBank.outcome?_of_set settled with before | ⟨_, marked⟩
    · exact .inl before
    · cases marked
  | @ended enclosing bank other reply =>
    rcases CellBank.outcome?_of_set settled with before | ⟨rfl, left⟩
    · exact .inl before
    · rw [Cell.outcome?_settled] at left
      exact .inr ⟨reply, rfl, (Option.some.inj left).symm⟩
  | replied _ => exact .inl settled
  | inspected => exact .inl settled
  | logged => exact .inl settled

/-- A recipe that ends leaves its outcome behind. -/
theorem left {reply : Reply RuntimeError (Option α)}
    (takes : (CellTurn.ended cell reply).Takes here after) :
    (after.bank.cells cell).outcome? = some (CellProgram.terminal (here.bank.name cell) reply) := by
  cases takes with
  | ended => rw [CellBank.cells_set_same, Cell.outcome?_settled]

/-- An access is left only as its recipe ends. -/
theorem enclosing (takes : turn.Takes here after) (inside : cell ∈ here.enclosing) :
    cell ∈ after.enclosing ∨ ∃ reply, turn = .ended cell reply := by
  cases takes with
  | started _ => exact .inl (List.mem_cons_of_mem _ inside)
  | @ended enclosing bank other reply =>
    rcases List.mem_cons.mp inside with rfl | further
    · exact .inr ⟨reply, rfl⟩
    · exact .inl further
  | replied _ => exact .inl inside
  | inspected => exact .inl inside
  | logged => exact .inl inside

end CellTurn.Takes

namespace CellMoment

/-! ## Moments -/

variable {before after : CellPoint E α} {turn : CellTurn E α} {cell : Nat} {slot : String}
  {reply : Reply RuntimeError α} {outcome : Except RuntimeError α}

/-- A settled cell answers with its outcome. -/
theorem Answers.of_settled (answers : Answers ⟨before, turn, after⟩ cell reply)
    (takes : turn.Takes before after) (coherent : before.Coherent)
    (settled : (before.bank.cells cell).outcome? = some outcome) : reply = .ofExcept outcome := by
  cases answers with
  | replied =>
    cases takes with
    | replied answered =>
      rw [Cell.answer?_of_outcome? settled] at answered
      cases answered
      rfl
  | ended =>
    cases takes with
    | ended =>
      rw [(coherent.creating cell).mpr List.mem_cons_self] at settled
      cases settled

/-- A cell that is being filled answers with the circular failure. -/
theorem Answers.of_inside (answers : Answers ⟨before, turn, after⟩ cell reply)
    (takes : turn.Takes before after) (coherent : before.Coherent) (inside : cell ∈ after.enclosing) :
    reply = .error (.circularDependency (before.bank.name cell)) ∧ after = before := by
  cases answers with
  | replied =>
    cases takes with
    | replied answered =>
      rw [(coherent.creating cell).mpr inside] at answered
      cases answered
      exact ⟨rfl, rfl⟩
  | ended =>
    cases takes with
    | ended => exact ((List.nodup_cons.mp coherent.nodup).1 inside).elim

/-- Elsewhere a circular failure is the outcome of the cell, or its recipe ends with it. -/
theorem Answers.of_outside (answers : Answers ⟨before, turn, after⟩ cell reply)
    (takes : turn.Takes before after) (coherent : before.Coherent) (outside : cell ∉ after.enclosing)
    (circular : reply = .error (.circularDependency slot)) :
    (before.bank.cells cell).outcome? = some (.error (.circularDependency slot)) ∨
      turn = .ended cell (.error (.circularDependency slot)) := by
  cases answers with
  | @replied _ _ _ answer =>
    cases takes with
    | replied answered =>
      obtain rfl : answer = .error (.circularDependency slot) := by cases answer <;> cases circular; rfl
      refine .inl ?_
      cases content : before.bank.cells cell with
      | empty => rw [content] at answered; cases answered
      | creating => exact (outside ((coherent.creating cell).mp content)).elim
      | cached value => rw [content] at answered; cases answered
      | failed error => rw [content] at answered; cases answered; rfl
  | ended => exact .inr (congrArg (CellTurn.ended cell) (CellProgram.eq_of_produced circular))

end CellMoment

namespace CellCourse

/-! ## Courses -/

variable {here last : CellPoint E α} {moments : List (CellMoment E α)} {cell : Nat}
  {outcome : Except RuntimeError α}

theorem coherent (course : CellCourse here moments last) (coherent : here.Coherent) : last.Coherent := by
  induction course with
  | nil => exact coherent
  | cons takes _ ih => exact ih (takes.coherent coherent)

/-- At most one recipe is started for a cell, and only if it is empty. -/
theorem countP_starts_le (course : CellCourse here moments last) (cell : Nat) :
    moments.countP (·.turn.starts cell) ≤ if (here.bank.cells cell).isEmpty then 1 else 0 := by
  induction course with
  | nil => exact Nat.zero_le _
  | @cons here middle last turn moments takes rest ih =>
    rw [List.countP_cons]
    cases starts : turn.starts cell with
    | true =>
      obtain ⟨empty, filled⟩ := takes.isEmpty_of_starts starts
      rw [filled] at ih
      rw [empty]
      exact Nat.add_le_add_right ih 1
    | false =>
      refine Nat.le_trans ih ?_
      cases empty : (middle.bank.cells cell).isEmpty with
      | true => exact Nat.le_of_eq (by rw [takes.isEmpty empty])
      | false => exact Nat.zero_le _

/-- A settled cell keeps its outcome, and answers every access with it. -/
theorem keeps (course : CellCourse here moments last) (coherent : here.Coherent)
    (settled : (here.bank.cells cell).outcome? = some outcome) :
    last.bank.Keeps moments cell outcome := by
  induction course with
  | nil => exact ⟨List.forall_mem_nil _, List.forall_mem_nil _, settled⟩
  | cons takes _ ih =>
    have still := takes.keeps coherent settled
    obtain ⟨looks, answers, last⟩ := ih (takes.coherent coherent) still
    exact ⟨List.forall_mem_cons.mpr ⟨still, looks⟩, List.forall_mem_cons.mpr
      ⟨fun _ answers => answers.of_settled takes coherent settled, answers⟩, last⟩

/-- An outcome that a cell comes to have was left behind by its recipe. -/
theorem outcome_cases (course : CellCourse here moments last)
    (settled : (last.bank.cells cell).outcome? = some outcome) :
    (here.bank.cells cell).outcome? = some outcome ∨ ∃ moment ∈ moments, ∃ reply,
      moment.turn = .ended cell reply ∧ outcome = CellProgram.terminal (here.bank.name cell) reply := by
  induction course with
  | nil => exact .inl settled
  | @cons here middle last turn moments takes _ ih =>
    have name : middle.bank.name cell = here.bank.name cell := congrArg (·.getD cell "") takes.names
    rcases ih settled with early | ⟨moment, member, reply, ended, left⟩
    · rcases takes.outcome_cases early with early | ⟨reply, ended, left⟩
      · exact .inl early
      · exact .inr ⟨_, List.mem_cons_self, reply, ended, left⟩
    · exact .inr ⟨moment, List.mem_cons_of_mem _ member, reply, ended, by rw [left, name]⟩

/-- A recipe that was started ends if its access is left. -/
theorem exists_ended (course : CellCourse here moments last) (inside : cell ∈ here.enclosing)
    (outside : cell ∉ last.enclosing) : ∃ moment ∈ moments, ∃ reply, moment.turn = .ended cell reply := by
  induction course with
  | nil => exact (outside inside).elim
  | cons takes _ ih =>
    rcases takes.enclosing inside with still | ⟨reply, ended⟩
    · obtain ⟨moment, member, ended⟩ := ih still outside
      exact ⟨moment, List.mem_cons_of_mem _ member, ended⟩
    · exact ⟨_, List.mem_cons_self, reply, ended⟩

end CellCourse

end Wiring
