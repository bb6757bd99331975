import Wiring.Proofs.Scope.Simulation

/-! # Levels do not matter

A handler of a higher level gives every answer that a lower one gives: each rule passes answers on
and makes none up when one is missing. As a level above the potential always answers, any two such
levels give the same answer, and the answers of these levels make one handler of their own. It reads
by the rules, calling itself for what it reads, without any level.
-/

namespace Wiring

variable {σ V ε α : Type}

/-- The second step gives every answer that the first one gives. -/
def Effect.Refines {W : Type} (first second : Effect W ε α) : Prop :=
  ∀ w result, first w = some result → second w = some result

theorem Effect.Refines.refl {W : Type} (step : Effect W ε α) : step.Refines step := fun _ _ ran => ran

/-- A simulation that leaves the host states as they are. -/
theorem Effect.Refines.of_simulates {first second : ScopeStep σ V ε α}
    (simulates : first.Simulates (World.map id) second) : first.Refines second :=
  fun w result ran => simulates w result.1 result.2 ran

/-- Both requests are answered by the second handler wherever the first one answers them. -/
structure Handler.Refines (first second : Handler σ V) : Prop where
  read (slot : String) : (first.read slot).Refines (second.read slot)
  close : first.close.Refines second.close

/-- A handler that refines another one is simulated by it. -/
theorem Handler.Refines.simulates {first second : Handler σ V} (refines : first.Refines second) :
    first.Simulates id second :=
  ⟨fun slot w reply after ran => refines.read slot w (reply, after) ran,
    fun w reply after ran => refines.close w (reply, after) ran⟩

namespace Scope

variable {scope : Scope σ V} {first second : Handler σ V}

/-! The rules of a scope refine, since the scope mirrors itself. -/

theorem refines_access (refines : first.Refines second) (slot : CachedSlot) :
    (scope.access first slot).Refines (scope.access second slot) :=
  .of_simulates (simulates_access scope.mirrors_self refines.simulates slot)

theorem refines_read (refines : first.Refines second) (identifier : String) :
    (scope.read first identifier).Refines (scope.read second identifier) :=
  .of_simulates (simulates_read scope.mirrors_self refines.simulates identifier)

/-- Closing is refined as the handler is. -/
theorem refines_close (refines : first.Refines second) :
    (scope.close first).Refines (scope.close second) :=
  .of_simulates (simulates_close scope.mirrors_self refines.simulates)

/-- A level refines the next one, since the rules refine. -/
theorem refines_handler_succ (scope : Scope σ V) : (level : Nat) →
    (scope.handler level).Refines (scope.handler (level + 1))
  | 0 => ⟨fun _ _ _ ran => (by cases ran), fun _ _ ran => (by cases ran)⟩
  | level + 1 => ⟨refines_read (refines_handler_succ scope level),
      refines_close (refines_handler_succ scope level)⟩

theorem refines_handler (scope : Scope σ V) {level higher : Nat} (above : level ≤ higher) :
    (scope.handler level).Refines (scope.handler higher) := by
  induction above with
  | refl => exact ⟨fun _ => .refl _, .refl _⟩
  | @step middle _ ih =>
    have next := refines_handler_succ scope middle
    exact ⟨fun slot w result ran => next.read slot w result (ih.read slot w result ran),
      fun w result ran => next.close w result (ih.close w result ran)⟩

/-- Answers requests however deeply they nest. -/
def unbounded (scope : Scope σ V) : Handler σ V where
  read slot w := (scope.handler (scope.potential w + 1)).read slot w
  close w := (scope.handler (scope.potential w + 1)).close w

/-- Above the potential, every level gives the same answer to a step over a handler. -/
theorem handler_eq_of_potential_lt (step : Handler σ V → ScopeStep σ V ε α)
    (refines : ∀ {first second : Handler σ V}, first.Refines second → (step first).Refines (step second))
    {level higher : Nat} {w : World σ V}
    (answers : (step (scope.handler level)).Answers scope.potential level)
    (below : scope.potential w < level) (above : level ≤ higher) :
    step (scope.handler higher) w = step (scope.handler level) w := by
  obtain ⟨reply, after, ran, _⟩ := answers w below
  rw [ran]
  exact refines (refines_handler scope above) w _ ran

/-- Above the potential every level reads alike. -/
theorem unbounded_read_eq {level : Nat} {w : World σ V} (below : scope.potential w < level)
    (slot : String) :
    scope.unbounded.read slot w = (scope.handler level).read slot w :=
  (handler_eq_of_potential_lt (·.read slot) (·.read slot)
    ((answers_handler scope _).read slot) (Nat.lt_succ_self _) below).symm

private theorem unbounded_close_eq {level : Nat} {w : World σ V} (below : scope.potential w < level) :
    scope.unbounded.close w = (scope.handler level).close w :=
  (handler_eq_of_potential_lt (·.close) (·.close)
    (answers_handler scope _).close (Nat.lt_succ_self _) below).symm

/-- What some level answers, the handler without levels answers. -/
theorem refines_unbounded (scope : Scope σ V) (level : Nat) :
    (scope.handler level).Refines scope.unbounded where
  read slot w result ran := by
    rw [unbounded_read_eq (Nat.lt_of_lt_of_le (Nat.lt_succ_self _) (Nat.le_max_right level _))]
    exact (refines_handler scope (Nat.le_max_left level _)).read slot w result ran
  close w result ran := by
    rw [unbounded_close_eq (Nat.lt_of_lt_of_le (Nat.lt_succ_self _) (Nat.le_max_right level _))]
    exact (refines_handler scope (Nat.le_max_left level _)).close w result ran

/-- Reading calls itself for what it reads. -/
theorem unbounded_read (scope : Scope σ V) (slot : String) :
    scope.unbounded.read slot = scope.read scope.unbounded slot := by
  funext w
  obtain ⟨reply, after, ran, _⟩ := (answers_handler scope _).read slot w (Nat.lt_succ_self _)
  have refined := refines_read (refines_unbounded scope (scope.potential w)) slot w _ ran
  exact ran.trans refined.symm

end Scope

end Wiring
