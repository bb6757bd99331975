import Wiring.Proofs.Cell.History

/-! # Panics

A panic is not answered by the recipe that it comes up in. It passes on to the access that the recipe was
started for, and so through all accesses around it up to the client, and each of their recipes ends with
it.

Main statement: `CellProgram.unwind_recountAll`.
-/

namespace Wiring

variable {E α : Type} {enclosing : List Nat}

def CellTurn.isEnd : CellTurn E α → Bool
  | .ended .. => true
  | _ => false

/-- The recipe that was started for the cell unwinds. -/
abbrev CellMoment.Panics (moment : CellMoment E α) (cell : Nat) (text : String) : Prop :=
  moment.turn = .ended cell (.panic text)

theorem CellMoment.not_panics {moment : CellMoment E α} (going : moment.turn.isEnd = false) {cell : Nat}
    {text : String} : ¬ moment.Panics cell text := by
  intro panics
  rw [panics] at going
  cases going

/-- Where a recipe unwinds, those around it do later, except for the recipes of these cells. -/
def Unwind (enclosing : List Nat) : List (CellMoment E α) → Prop
  | [] => True
  | moment :: future =>
    (∀ cell text, moment.Panics cell text → ∀ outer ∈ moment.after.enclosing,
      outer ∈ enclosing ∨ ∃ later ∈ future, later.Panics outer text) ∧ Unwind enclosing future

namespace Unwind

variable {moments others past future : List (CellMoment E α)} {moment last : CellMoment E α} {cell : Nat}

theorem cons (going : moment.turn.isEnd = false) (unwind : Unwind enclosing moments) :
    Unwind enclosing (moment :: moments) :=
  ⟨fun _ _ panics => (CellMoment.not_panics going panics).elim, unwind⟩

theorem append (unwind : Unwind enclosing moments) (unwind' : Unwind enclosing others) :
    Unwind enclosing (moments ++ others) := by
  induction moments with
  | nil => exact unwind'
  | cons moment rest ih =>
    refine ⟨fun cell text panics outer inside => ?_, ih unwind.2⟩
    rcases unwind.1 cell text panics outer inside with known | ⟨later, member, panics⟩
    · exact .inl known
    · exact .inr ⟨later, List.mem_append_left _ member, panics⟩

/-- The recipe for one more cell unwinds in the end, if any does. -/
theorem leave (unwind : Unwind (cell :: enclosing) moments) (left : last.after.enclosing = enclosing)
    (falls : ∀ moment ∈ moments, ∀ inner text, moment.Panics inner text → last.Panics cell text) :
    Unwind enclosing (moments ++ [last]) := by
  induction moments with
  | nil => exact ⟨fun _ _ _ outer inside => .inl (left ▸ inside), trivial⟩
  | cons moment rest ih =>
    obtain ⟨here, later⟩ := List.forall_mem_cons.mp falls
    refine ⟨fun inner text panics outer inside => ?_, ih unwind.2 later⟩
    rcases unwind.1 inner text panics outer inside with known | ⟨later, member, panics⟩
    · rcases List.mem_cons.mp known with rfl | known
      · exact .inr ⟨last, List.mem_concat_self, here inner text panics⟩
      · exact .inl known
    · exact .inr ⟨later, List.mem_append_left _ member, panics⟩

theorem split (unwind : Unwind enclosing (past ++ moment :: future)) {text : String}
    (panics : moment.Panics cell text) {outer : Nat} (inside : outer ∈ moment.after.enclosing) :
    outer ∈ enclosing ∨ ∃ later ∈ future, later.Panics outer text := by
  induction past with
  | nil => exact unwind.1 cell text panics outer inside
  | cons _ _ ih => exact ih unwind.2

end Unwind

/-- Where a recipe unwinds, the whole comes to the panic. -/
def Falls (moments : List (CellMoment E α)) (reply : Reply RuntimeError (Option α)) : Prop :=
  ∀ moment ∈ moments, ∀ cell text, moment.Panics cell text → reply = .panic text

namespace Falls

variable {moments others : List (CellMoment E α)} {reply : Reply RuntimeError (Option α)}

theorem cons {moment : CellMoment E α} (going : moment.turn.isEnd = false)
    (falls : Falls moments reply) : Falls (moment :: moments) reply :=
  List.forall_mem_cons.mpr ⟨fun _ _ panics => (CellMoment.not_panics going panics).elim, falls⟩

/-- Nothing can have unwound in what comes to something else. -/
theorem append {result : Reply RuntimeError (Option α)} (falls : Falls moments result)
    (still : ∀ text, result ≠ .panic text) (falls' : Falls others reply) :
    Falls (moments ++ others) reply :=
  List.forall_mem_append.mpr ⟨fun moment member cell text panics =>
    (still text (falls moment member cell text panics)).elim, falls'⟩

end Falls

section Filling

variable {created : CellAccount E α (Reply RuntimeError (Option α))} {cell : Nat}

private theorem falls_filling (cell : Nat) (enclosing : List Nat) (bank : CellBank E α)
    (falls : Falls created.history created.result) :
    Falls (created.filling cell enclosing bank) created.result := by
  refine List.forall_mem_append.mpr ⟨falls.cons rfl, List.forall_mem_singleton.mpr ?_⟩
  exact fun inner text panics => (CellTurn.ended.inj panics).2

private theorem unwind_filling (bank : CellBank E α) (falls : Falls created.history created.result)
    (unwind : Unwind (cell :: enclosing) created.history) :
    Unwind enclosing (created.filling cell enclosing bank) := by
  let start : CellMoment E α :=
    ⟨⟨enclosing, bank⟩, .started cell, ⟨cell :: enclosing, bank.set cell .creating⟩⟩
  have going : start.turn.isEnd = false := rfl
  refine (unwind.cons going).leave rfl fun moment member inner text panics => ?_
  exact congrArg (CellTurn.ended cell) (falls.cons going moment member inner text panics)

end Filling

namespace CellProgram

/-- In a run all recipes around one that unwinds do so, too, and so does the run. -/
theorem unwind_recount (program : CellProgram E α) (enclosing : List Nat) (bank : CellBank E α) :
    Falls (program.recount enclosing bank).history (program.recount enclosing bank).result ∧
      Unwind enclosing (program.recount enclosing bank).history := by
  induction program generalizing enclosing bank with
  | finish value => exact ⟨List.forall_mem_nil _, trivial⟩
  | fail error => exact ⟨List.forall_mem_nil _, trivial⟩
  | panic text => exact ⟨List.forall_mem_nil _, trivial⟩
  | access cell recipe next created continued =>
    rw [recount]
    split
    next answer answered =>
      obtain ⟨falls, unwind⟩ := continued answer enclosing bank
      exact ⟨falls.cons rfl, unwind.cons rfl⟩
    next unanswered =>
      obtain ⟨falls, unwind⟩ := created (cell :: enclosing) (bank.set cell .creating)
      have filled := falls_filling cell enclosing bank falls
      have around := unwind_filling bank falls unwind
      dsimp only
      split
      next value made =>
        obtain ⟨falls', unwind'⟩ := continued (.ok value) enclosing _
        refine ⟨filled.append (fun text panicked => ?_) falls', around.append unwind'⟩
        rw [panicked] at made
        cases made
      next error made =>
        obtain ⟨falls', unwind'⟩ := continued (.error error) enclosing _
        refine ⟨filled.append (fun text panicked => ?_) falls', around.append unwind'⟩
        rw [panicked] at made
        cases made
      next text made =>
        refine ⟨fun moment member inner text' panics => ?_, around⟩
        rw [filled moment member inner text' panics] at made
        cases made
        rfl
  | inspect cell next ih =>
    obtain ⟨falls, unwind⟩ := ih (bank.cells cell).state enclosing bank
    exact ⟨falls.cons rfl, unwind.cons rfl⟩
  | log event next ih =>
    obtain ⟨falls, unwind⟩ := ih enclosing (bank.log event)
    exact ⟨falls.cons rfl, unwind.cons rfl⟩

/-- In every recount a recipe that unwinds has those around it unwind too. -/
theorem unwind_recountAll (programs : List (CellProgram E α)) (bank : CellBank E α) :
    Unwind [] (recountAll programs bank).history := by
  induction programs generalizing bank with
  | nil => trivial
  | cons program rest ih => exact (program.unwind_recount [] bank).2.append (ih _)

end CellProgram

end Wiring
