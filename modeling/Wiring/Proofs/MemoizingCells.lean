import Wiring.Proofs.Cell.Unrolling
import Wiring.Proofs.Cell.Unwinding

/-! # Cells are filled once

Clients run programs over a bank one after another, and recipes access cells as they like. The history
of all of this shows what cells are for: a recipe is started at most once for each of them, and what it
leaves behind is found from then on. The circular failure is raised anew only inside of the recipe for
the cell that it names, where it changes nothing.

Main statement: `CellBank.memoizes_ofList`.
-/

namespace Wiring

variable {E α : Type}

/-- What the history of a bank from the start up to the last moment looks like if its cells memoize. -/
structure CellBank.Memoizes (start : CellBank E α) (history : List (CellMoment E α))
    (last : CellBank E α) : Prop where
  /-- At most one recipe is started for each cell, and none for a cell that is not empty. -/
  starts (cell : Nat) :
    history.countP (·.turn.starts cell) ≤ if (start.cells cell).isEmpty then 1 else 0
  /-- A recipe that is started ends. -/
  ends {past future : List (CellMoment E α)} {moment : CellMoment E α} {cell : Nat} :
    history = past ++ moment :: future → moment.turn = .started cell →
      ∃ later ∈ future, ∃ reply, later.turn = .ended cell reply
  /-- No recipe is started for a cell that is being filled. -/
  outside {moment : CellMoment E α} {cell : Nat} :
    moment ∈ history → moment.turn = .started cell → cell ∉ moment.before.enclosing
  /-- An access to a cell that is being filled is answered with the circular failure of the cell, and
  changes nothing. -/
  inside {moment : CellMoment E α} {cell : Nat} {reply : Reply RuntimeError α} :
    moment ∈ history → moment.Answers cell reply → cell ∈ moment.after.enclosing →
      reply = .error (.circularDependency (start.name cell)) ∧ moment.after = moment.before
  /-- Any other access is answered with a circular failure only if the recipe for its cell has failed
  with this very failure. -/
  circular {past future : List (CellMoment E α)} {moment : CellMoment E α} {cell : Nat} {slot : String} :
    history = past ++ moment :: future → moment.Answers cell (.error (.circularDependency slot)) →
      cell ∉ moment.after.enclosing →
      ∃ origin ∈ past ++ [moment], origin.turn = .ended cell (.error (.circularDependency slot))
  /-- A cell holds what its recipe has left behind, from the moment on at which the recipe ends. -/
  filled {past future : List (CellMoment E α)} {moment : CellMoment E α} {cell : Nat}
    {reply : Reply RuntimeError (Option α)} :
    history = past ++ moment :: future → moment.turn = .ended cell reply →
      let outcome := CellProgram.terminal (start.name cell) reply
      (moment.after.bank.cells cell).outcome? = some outcome ∧ last.Keeps future cell outcome
  /-- A recipe that unwinds takes along those around it. -/
  unwinds {past future : List (CellMoment E α)} {moment : CellMoment E α} {cell outer : Nat}
    {text : String} :
    history = past ++ moment :: future → moment.turn = .ended cell (.panic text) →
      outer ∈ moment.after.enclosing → ∃ later ∈ future, later.turn = .ended outer (.panic text)
  /-- A cell that is settled from the start stays so. -/
  settled {cell : Nat} {outcome : Except RuntimeError α} :
    (start.cells cell).outcome? = some outcome → last.Keeps history cell outcome

namespace CellCourse

variable {start last : CellBank E α} {history : List (CellMoment E α)}

/-- Every course from a bank without marked and failed cells shows that cells memoize, as far as panics
unwind. -/
theorem memoizes (course : CellCourse ⟨[], start⟩ history ⟨[], last⟩) (unwind : Unwind [] history)
    (fresh : ∀ cell, start.cells cell = .empty ∨ ∃ value, start.cells cell = .cached value) :
    start.Memoizes history last := by
  have coherent : CellPoint.Coherent ⟨[], start⟩ := by
    refine ⟨List.nodup_nil, fun cell => iff_of_false (fun marked => ?_) List.not_mem_nil⟩
    rcases fresh cell with empty | ⟨value, cached⟩
    · cases empty.symm.trans marked
    · cases cached.symm.trans marked
  have named {past : List (CellMoment E α)} {here : CellPoint E α}
      (before : CellCourse ⟨[], start⟩ past here) (cell : Nat) :
      here.bank.name cell = start.name cell := congrArg (·.getD cell "") before.names
  refine {
    starts := course.countP_starts_le
    ends := ?ends
    outside := ?outside
    inside := ?inside
    circular := ?circular
    filled := ?filled
    unwinds := ?unwinds
    settled := course.keeps coherent }
  case ends =>
    rintro past future ⟨before, _, after⟩ cell rfl rfl
    obtain ⟨_, takes, rest⟩ := course.split
    cases takes with
    | started _ => exact rest.exists_ended List.mem_cons_self List.not_mem_nil
  case outside =>
    rintro ⟨before, _, after⟩ cell member rfl
    obtain ⟨past, future, rfl⟩ := List.append_of_mem member
    obtain ⟨first, takes, _⟩ := course.split
    exact takes.outside (first.coherent coherent)
  case inside =>
    intro moment cell reply member answers inside
    obtain ⟨past, future, rfl⟩ := List.append_of_mem member
    obtain ⟨first, takes, _⟩ := course.split
    rw [← named first cell]
    exact answers.of_inside takes (first.coherent coherent) inside
  case circular =>
    rintro past future moment cell slot rfl answers outside
    obtain ⟨first, takes, _⟩ := course.split
    rcases answers.of_outside takes (first.coherent coherent) outside rfl with earlier | ended
    · rcases first.outcome_cases earlier with start | ⟨origin, member, reply, ended, left⟩
      · rcases fresh cell with empty | ⟨value, cached⟩
        · rw [empty] at start
          cases start
        · rw [cached] at start
          cases start
      · rw [CellProgram.eq_of_terminal left.symm] at ended
        exact ⟨origin, List.mem_append_left _ member, ended⟩
    · exact ⟨moment, List.mem_concat_self, ended⟩
  case filled =>
    rintro past future ⟨before, _, after⟩ cell reply rfl rfl
    obtain ⟨first, takes, rest⟩ := course.split
    have left := takes.left
    rw [named first cell] at left
    exact ⟨left, rest.keeps (takes.coherent (first.coherent coherent)) left⟩
  case unwinds =>
    rintro past future moment cell outer text rfl panics inside
    exact (unwind.split panics inside).resolve_left List.not_mem_nil

end CellCourse

private theorem CellBank.fresh_ofList (cells : List (String × Option α)) (cell : Nat) :
    (CellBank.ofList cells : CellBank E α).cells cell = .empty ∨
      ∃ value, (CellBank.ofList cells : CellBank E α).cells cell = .cached value := by
  simp only [ofList]
  split
  next value _ => exact .inr ⟨value, rfl⟩
  next => exact .inl rfl

/-- Cells memoize, whatever clients run over a bank whose cells have a value or are empty. If recipes have
names, the same holds of what clients run no matter how recipes use each other: unrolled as deep as there
are empty cells, a program is run to its end, and nothing is run of what stands below. -/
theorem CellBank.memoizes_ofList {E α : Type} (cells : List (String × Option α)) :
    (∀ programs : List (CellProgram E α),
      let account := CellProgram.recountAll programs (.ofList cells)
      CellProgram.runAll programs (.ofList cells) = (account.result, account.bank) ∧
        (CellBank.ofList cells).Memoizes account.history account.bank) ∧
    ∀ {ι : Type} (bodies : ι → CellScheme cells.length ι E α) (below below' : ι → CellProgram E α)
      (further : Nat) (schemes : List (CellScheme cells.length ι E α)),
      let unrolled (below : ι → CellProgram E α) (depth : Nat) : List (CellProgram E α) :=
        schemes.map (·.unroll (CellScheme.levels bodies below depth))
      let depth := cells.countP (·.2.isNone)
      CellProgram.recountAll (unrolled below depth) (.ofList cells) =
        CellProgram.recountAll (unrolled below' (depth + further)) (.ofList cells) := by
  refine ⟨fun programs => ⟨CellProgram.recountAll_run programs _, ?_⟩, ?_⟩
  · exact (CellProgram.course_recountAll programs _).memoizes (CellProgram.unwind_recountAll programs _)
      (CellBank.fresh_ofList cells)
  · intro ι bodies below below' further schemes
    have few := Nat.le_of_eq (CellBank.vacant_ofList (E := E) cells)
    exact CellScheme.recountAll_unroll bodies below below' schemes few (Nat.le_add_right_of_le few)

/-- Two recipes access each other's cells and end as these accesses do. -/
example (below : Fin 2 → CellProgram Unit Nat) :
    let bodies (cell : Fin 2) : CellScheme 2 (Fin 2) Unit Nat :=
      .access (cell + 1) (cell + 1) fun
        | .ok value => .finish (some value)
        | .error error => .fail error
    (CellProgram.runAll [(bodies 1).unroll (CellScheme.levels bodies below 2)]
      (.ofList [("hen", none), ("egg", none)])).1 = [.error (.circularDependency "hen")] := by
  cbv

end Wiring
