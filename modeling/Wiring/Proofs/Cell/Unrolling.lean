import Wiring.Counting
import Wiring.Proofs.Cell.Settling

/-! # Recipes that use each other

Recipes that have names may use each other and themselves without end. A program with such recipes is
unrolled to some depth, with other recipes below. Since a recipe is only started for an empty cell, which
is not empty from then on, as many levels as there are empty cells are enough: nothing is ever run of what
stands below them. So a run ends, however recipes use each other.

Main statement: `CellScheme.recountAll_unroll`.
-/

namespace Wiring

variable {E α ι : Type} {n : Nat}

/-- A program over `n` cells with names for recipes. -/
inductive CellScheme (n : Nat) (ι E α : Type) where
  | finish (value : Option α)
  | fail (error : RuntimeError)
  | panic (text : String)
  /-- Accesses a cell; the recipe with the name runs if the cell is empty. -/
  | access (cell : Fin n) (recipe : ι) (next : Except RuntimeError α → CellScheme n ι E α)
  | inspect (cell : Fin n) (next : CellState → CellScheme n ι E α)
  | log (event : E) (next : CellScheme n ι E α)

namespace CellScheme

/-- The program with recipes in place of names. -/
def unroll (recipes : ι → CellProgram E α) : CellScheme n ι E α → CellProgram E α
  | finish value => .finish value
  | fail error => .fail error
  | panic text => .panic text
  | access cell recipe next => .access cell (recipes recipe) fun answer => (next answer).unroll recipes
  | inspect cell next => .inspect cell fun state => (next state).unroll recipes
  | log event next => .log event (next.unroll recipes)

/-- The recipes with these bodies to some depth, with other ones below. -/
def levels (bodies : ι → CellScheme n ι E α) (below : ι → CellProgram E α) : Nat → ι → CellProgram E α
  | 0 => below
  | depth + 1 => fun recipe => (bodies recipe).unroll (levels bodies below depth)

end CellScheme

/-! ## Empty cells -/

namespace CellBank

variable {bank : CellBank E α} {cell : Nat} {content : Cell α}

/-- How many of the first `n` cells are empty. -/
def vacant (bank : CellBank E α) (n : Nat) : Nat :=
  (List.range n).countP fun cell => (bank.cells cell).isEmpty

theorem vacant_le_of_imp {bank after : CellBank E α}
    (imp : ∀ cell, (after.cells cell).isEmpty = true → (bank.cells cell).isEmpty = true) :
    after.vacant n ≤ bank.vacant n :=
  List.countP_mono_left fun cell _ => imp cell

private theorem vacant_set_le (filled : content.isEmpty = false) :
    (bank.set cell content).vacant n ≤ bank.vacant n :=
  vacant_le_of_imp fun _ => isEmpty_of_set filled

private theorem vacant_set_lt (filled : content.isEmpty = false) (inside : cell < n)
    (empty : (bank.cells cell).isEmpty = true) : (bank.set cell content).vacant n < bank.vacant n := by
  refine countP_lt_of_imp (List.mem_range.mpr inside) (fun _ _ => isEmpty_of_set filled) ?_ empty
  rw [cells_set_same, filled]

theorem vacant_ofList (cells : List (String × Option α)) :
    (CellBank.ofList cells : CellBank E α).vacant cells.length = cells.countP (·.2.isNone) := by
  induction cells with
  | nil => rfl
  | cons cell rest ih =>
    obtain ⟨name, _ | value⟩ := cell
    all_goals
      rw [vacant, List.length_cons, List.range_succ_eq_map, List.countP_cons, List.countP_cons,
        List.countP_map, ← ih]
      rfl

end CellBank

private theorem CellCourse.vacant_le {here last : CellPoint E α} {moments : List (CellMoment E α)}
    (course : CellCourse here moments last) : last.bank.vacant n ≤ here.bank.vacant n := by
  induction course with
  | nil => exact Nat.le_refl _
  | cons takes _ ih => exact Nat.le_trans ih (CellBank.vacant_le_of_imp fun _ => takes.isEmpty)

theorem CellProgram.vacant_recount_le (program : CellProgram E α) (enclosing : List Nat)
    (bank : CellBank E α) : (program.recount enclosing bank).bank.vacant n ≤ bank.vacant n :=
  (program.course_recount enclosing bank).vacant_le

namespace CellScheme

/-- Recipes are the same to a run if they are the same with fewer empty cells. -/
theorem recount_unroll {recipes recipes' : ι → CellProgram E α} {bound : Nat}
    (agree : ∀ recipe enclosing (bank : CellBank E α), bank.vacant n < bound →
      (recipes recipe).recount enclosing bank = (recipes' recipe).recount enclosing bank)
    (scheme : CellScheme n ι E α) (enclosing : List Nat) {bank : CellBank E α}
    (few : bank.vacant n ≤ bound) :
    (scheme.unroll recipes).recount enclosing bank = (scheme.unroll recipes').recount enclosing bank := by
  induction scheme generalizing enclosing bank with
  | finish value => rfl
  | fail error => rfl
  | panic text => rfl
  | access cell recipe next ih =>
    cases answered : (bank.cells cell).answer? (bank.name cell) with
    | some answer =>
      simp only [unroll, CellProgram.recount, answered]
      rw [ih answer enclosing few]
    | none =>
      have empty := Cell.isEmpty_of_answer? answered
      have fewer : (bank.set cell .creating).vacant n < bank.vacant n :=
        CellBank.vacant_set_lt rfl cell.isLt empty
      have same := agree recipe (cell :: enclosing) _ (Nat.lt_of_lt_of_le fewer few)
      have few : (((recipes' recipe).recount (cell :: enclosing) (bank.set cell .creating)).settled cell
          (bank.name cell)).vacant n ≤ bound :=
        calc
          _ ≤ _ := CellBank.vacant_set_le (Cell.isEmpty_settled _ _)
          _ ≤ (bank.set cell .creating).vacant n := CellProgram.vacant_recount_le _ _ _
          _ ≤ bound := Nat.le_trans (Nat.le_of_lt fewer) few
      simp only [unroll, CellProgram.recount, answered, same]
      split
      next value => rw [ih _ enclosing few]
      next error => rw [ih _ enclosing few]
      next text => rfl
  | inspect cell next ih =>
    simp only [unroll, CellProgram.recount]
    rw [ih _ enclosing few]
  | log event next ih =>
    have few : (bank.log event).vacant n ≤ bound := few
    simp only [unroll, CellProgram.recount]
    rw [ih enclosing few]

/-- Depths above the number of empty cells are the same to recipes. -/
theorem recount_levels {bodies : ι → CellScheme n ι E α} {below below' : ι → CellProgram E α}
    {bound depth depth' : Nat} (deep : bound ≤ depth) (deep' : bound ≤ depth') (recipe : ι)
    (enclosing : List Nat) {bank : CellBank E α} (few : bank.vacant n < bound) :
    (levels bodies below depth recipe).recount enclosing bank =
      (levels bodies below' depth' recipe).recount enclosing bank := by
  induction bound generalizing depth depth' recipe enclosing bank with
  | zero => cases few
  | succ bound ih =>
    obtain ⟨depth, rfl⟩ := Nat.exists_eq_add_of_le' deep
    obtain ⟨depth', rfl⟩ := Nat.exists_eq_add_of_le' deep'
    refine recount_unroll (fun recipe enclosing bank few => ?_) _ enclosing (Nat.le_of_lt_succ few)
    exact ih (Nat.le_add_left _ _) (Nat.le_add_left _ _) recipe enclosing few

/-- Programs that are unrolled as deep as there are empty cells or deeper do not run what stands below. -/
theorem recountAll_unroll (bodies : ι → CellScheme n ι E α) (below below' : ι → CellProgram E α)
    {depth depth' : Nat} (schemes : List (CellScheme n ι E α)) {bank : CellBank E α}
    (deep : bank.vacant n ≤ depth) (deep' : bank.vacant n ≤ depth') :
    CellProgram.recountAll (schemes.map (·.unroll (levels bodies below depth))) bank =
      CellProgram.recountAll (schemes.map (·.unroll (levels bodies below' depth'))) bank := by
  induction schemes generalizing bank with
  | nil => rfl
  | cons scheme rest ih =>
    have same : (scheme.unroll (levels bodies below depth)).recount [] bank =
        (scheme.unroll (levels bodies below' depth')).recount [] bank :=
      recount_unroll (fun recipe enclosing _ => recount_levels deep deep' recipe enclosing) scheme []
        (Nat.le_refl (bank.vacant n))
    have fewer := CellProgram.vacant_recount_le (n := n)
      (scheme.unroll (levels bodies below' depth')) [] bank
    simp only [List.map_cons, CellProgram.recountAll, same]
    rw [ih (Nat.le_trans fewer deep) (Nat.le_trans fewer deep')]

end CellScheme

end Wiring
