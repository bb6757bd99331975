import Wiring.Proofs.Scope.Cellwise
import Wiring.Proofs.Scope.EagerReads

/-! # The footprint of a read

A read that is confined to the edges which the validator knows leaves the cells off these edges
alone. While no recipe reads the scope, every read is the same as such a one. Behind it the scope
may be closed, if nobody refers to it any more; the handles of the closers lead nowhere then, so
no cell changes.

Main statement: `Scope.confined_operate`.
-/

namespace Wiring

variable {σ V : Type}

/-- Only the cells of these identifiers change. -/
def World.Confined (inside : String → Prop) (w after : World σ V) : Prop :=
  ∀ slot, ¬ inside slot → after.cells slot = w.cells slot

theorem World.Confined.mono {inside wider : String → Prop} {w after : World σ V}
    (confined : w.Confined inside after) (weaker : ∀ {slot}, inside slot → wider slot) :
    w.Confined wider after :=
  fun slot outside => confined slot fun within => outside (weaker within)

theorem cellwise_confined (inside : String → Prop) :
    Cellwise (World.Confined inside : World σ V → World σ V → Prop) where
  same cells _ _ _ := by rw [cells]
  trans first second slot outside := (second slot outside).trans (first slot outside)

/-- In a scope that is gone, no cell changes. -/
def World.Numb (w after : World σ V) : Prop :=
  w.alive = false → after.cells = w.cells ∧ after.alive = false

private theorem cellwise_numb : Cellwise (World.Numb : World σ V → World σ V → Prop) where
  same cells alive gone := ⟨cells, alive.trans gone⟩
  trans first second gone := by
    obtain ⟨cells, alive⟩ := first gone
    obtain ⟨cells', alive'⟩ := second alive
    exact ⟨cells'.trans cells, alive'⟩

namespace Scope

variable {scope : Scope σ V} {w after : World σ V}

theorem numb_close (scope : Scope σ V) (level : Nat) :
    (scope.handler level).close.Within World.Numb := by
  induction level with
  | zero => exact .starved
  | succ level ih =>
    refine cellwise_numb.close (fun slot w reply after ran gone => ?_) ih
    simp only [Handler.readAlive, gone, Bool.false_eq_true, ↓reduceIte] at ran
    cases ran
    exact ⟨rfl, gone⟩

/-- Whatever closers do when nobody refers to the scope any more. -/
theorem cells_settle (scope : Scope σ V) (w : World σ V) : (scope.settle w).2.cells = w.cells := by
  have settled := settleWith_handler (Nat.lt_succ_self (scope.potential w))
  unfold settleWith at settled
  split at settled
  · rw [← Option.some_inj.mp settled]
  · exact (scope.numb_close _ _ _ _ settled rfl).1

/-- A scope that is closed because nobody refers to it stays gone, so one that is still alive afterwards
is held. -/
theorem held_of_alive_settle (scope : Scope σ V) {w : World σ V} (alive : (scope.settle w).2.alive = true) :
    (scope.settle w).2.held = true := by
  have settled := settleWith_handler (Nat.lt_succ_self (scope.potential w))
  unfold settleWith at settled
  split at settled
  next rests =>
    rw [← Option.some_inj.mp settled] at alive ⊢
    simpa [show w.alive = true from alive] using rests
  next => exact nomatch alive.symm.trans (scope.numb_close _ _ _ _ settled rfl).2

/-- So is a scope that is alive between two operations. -/
theorem held_of_alive_run (scope : Scope σ V) (operations : List (Operation V)) {w : World σ V}
    (attended : w.alive = true → w.held = true) (alive : (scope.run operations w).2.alive = true) :
    (scope.run operations w).2.held = true := by
  induction operations generalizing w with
  | nil => exact attended alive
  | cons operation rest ih => exact ih (fun alive => scope.held_of_alive_settle alive) alive

section Guided

private theorem confined_silent (scope : Scope σ V) (level : Nat) :
    (scope.silent level).close.Within (World.Confined fun _ => False) := by
  induction level with
  | zero => exact .starved
  | succ level ih =>
    have handles (slot : String) :
        ((scope.silent level).readAlive slot).Within (World.Confined fun _ => False) := by
      refine (cellwise_confined _).readAlive ?_
      cases level <;> exact .starved
    exact (cellwise_confined _).close handles ih

private theorem confined_guided (scope : Scope σ V) (depth : Nat) (identifier : String) :
    (scope.guided depth identifier).Within
      (World.Confined (Relation.ReflTransGen scope.plan.Eager identifier)) := by
  induction depth generalizing identifier with
  | zero => exact .starved
  | succ depth ih =>
    have cellwise : Cellwise (World.Confined (Relation.ReflTransGen scope.plan.Eager identifier) :
        World σ V → World σ V → Prop) := cellwise_confined _
    have reads (next : String) : ((scope.along identifier (scope.guided depth)).read next).Within
        (World.Confined (Relation.ReflTransGen scope.plan.Eager identifier)) := by
      simp only [along]
      split
      next member =>
        have eager := Plan.mem_edges_iff.mp member
        exact .mono (ih next) fun confined => confined.mono fun walk => .head eager walk
      next => exact .starved
    have closes : (scope.along identifier (scope.guided depth)).close.Within
        (World.Confined (Relation.ReflTransGen scope.plan.Eager identifier)) :=
      fun w reply after ran => (scope.confined_silent (scope.potential w + 1) w reply after ran).mono False.elim
    cases served : scope.served? identifier with
    | none =>
      simp only [guided, served]
      exact .error cellwise.refl _
    | some found =>
      cases found with
      | ready value =>
        simp only [guided, served]
        exact .ok cellwise.refl value
      | aliased target =>
        simp only [guided, served]
        exact reads target
      | cached slot =>
        obtain ⟨_, rfl⟩ := mem_cached_of_served? served
        simp only [guided, served]
        intro w reply after ran
        dsimp only at ran
        split at ran
        · cases ran
        · rcases access_cases ran with ⟨_, _, _, rfl⟩ | ⟨_, middle, created, rfl⟩
          · exact cellwise.refl _
          · have creation := cellwise.create reads closes slot _ _ _ created
            intro other outside
            have different : other ≠ slot.identifier := fun same => outside (same ▸ .refl)
            rw [middle.cells_setCell_of_ne _ different, creation other outside,
              w.cells_setCell_of_ne _ different]

end Guided

/-- While no recipe reads the scope, a client's read changes no cell but those that the slot reaches
along eager edges. -/
theorem confined_operate (checked : scope.check = .ok ()) (quiet : scope.Quiet .any)
    (steady : w.Steady scope.quiet scope) (identifier : String) :
    w.Confined (Relation.ReflTransGen scope.plan.Eager identifier)
      (scope.operate (.read identifier) w).2 := by
  have below := Nat.lt_succ_self (scope.potential w)
  have performed := performWith_handler (.read identifier) below
  obtain ⟨depth, reaches⟩ := exists_reaches checked quiet identifier
  obtain ⟨reply, after, ran, _, _⟩ := reaches depth (Nat.le_refl _) _ (fun _ _ => id) _ steady
  have read : (scope.handler (scope.potential w + 1)).read identifier w = some (reply, after) := by
    rw [← unbounded_read_eq below]
    exact refines_guided checked depth identifier w _ ran
  have confined : w.Confined (Relation.ReflTransGen scope.plan.Eager identifier)
      (scope.perform (.read identifier) w).2 := by
    simp only [performWith, Handler.readAlive] at performed
    split at performed
    · rw [read] at performed
      rw [← Option.some_inj.mp performed]
      exact scope.confined_guided depth identifier w reply after ran
    · rw [← Option.some_inj.mp performed]
      exact (cellwise_confined _).refl w
  intro slot outside
  exact (congrFun (scope.cells_settle _) slot).trans (confined slot outside)

end Scope

end Wiring
