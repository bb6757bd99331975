import Wiring.Proofs.Scope.Cellwise

/-! # A slot that is cached has what it reads

A creation reads whatever its slot reads eagerly before the recipe is started, and a read succeeds
only with an instance that is there. Cells that are not empty are left alone by everything but the
creation that has marked them. So the slots that are cached are grounded: what they read eagerly is
there and stays there. This is so in every world that a run leads to, also within a creation and
after one that has failed or unwound, whatever the programs do.

Main statement: `Scope.grounding_handler`.
-/

namespace Wiring

variable {σ V ε α : Type}

/-- Reading the identifier ends at an instance that is there. -/
def Scope.Fulfilled (scope : Scope σ V) (w : World σ V) (identifier : String) : Prop :=
  match scope.served? (scope.target identifier) with
  | some (.ready _) => True
  | some (.cached slot) => (w.cells slot.identifier).state = .cached
  | some (.aliased _) | none => False

/-- Whatever a cached slot reads eagerly is there once the slot is cached. -/
def Scope.Grounded (scope : Scope σ V) (w : World σ V) : Prop :=
  ∀ slot, scope.served? slot.identifier = some (.cached slot) →
    (w.cells slot.identifier).state = .cached →
      ∀ read ∈ (Slot.cached slot).eagerDependencies, scope.Fulfilled w read

theorem Scope.Fulfilled.mono {scope : Scope σ V} {w after : World σ V} {identifier : String}
    (fulfilled : scope.Fulfilled w identifier)
    (stays : ∀ slot, (w.cells slot).state = .cached → (after.cells slot).state = .cached) :
    scope.Fulfilled after identifier := by
  unfold Fulfilled at fulfilled ⊢
  cases served : scope.served? (scope.target identifier) with
  | none => simp [served] at fulfilled
  | some found =>
    rw [served] at fulfilled
    cases found with
    | ready value => trivial
    | aliased target => exact fulfilled.elim
    | cached slot => exact stays slot.identifier fulfilled

/-- Cells that are not empty stay as they are, and what is cached stays grounded. -/
structure Grounds (scope : Scope σ V) (w after : World σ V) : Prop where
  cells slot : (w.cells slot).isEmpty = false → after.cells slot = w.cells slot
  grounded : scope.Grounded w → scope.Grounded after

namespace Grounds

variable {scope : Scope σ V} {w middle after : World σ V}

private theorem stays (grounds : Grounds scope w after) (slot : String)
    (cached : (w.cells slot).state = .cached) : (after.cells slot).state = .cached := by
  rw [grounds.cells slot (Cell.isEmpty_of_state cached nofun), cached]

/-- What is cached stays grounded over two steps. -/
theorem trans (first : Grounds scope w middle) (second : Grounds scope middle after) :
    Grounds scope w after where
  cells := World.KeepsFilled.trans first.cells second.cells
  grounded grounded := second.grounded (first.grounded grounded)

/-- What is cached stays grounded where no cell changes. -/
theorem same (cells : after.cells = w.cells) : Grounds scope w after where
  cells slot _ := by rw [cells]
  grounded grounded slot served cached read member :=
    (grounded slot served (cells ▸ cached) read member).mono fun slot cached => by rwa [cells]

end Grounds

/-- Staying grounded is a matter of single cells, so all steps of a scope keep to it. -/
theorem cellwise_grounds (scope : Scope σ V) : Cellwise (Grounds scope) where
  same cells _ := .same cells
  trans := .trans

section Settling

/-! ## Settling a cell -/

variable {scope : Scope σ V} {w middle : World σ V} {slot : CachedSlot}
  {reply : Reply RuntimeError (Instance V)}

private theorem grounds_mark (empty : w.cells slot.identifier = .empty) :
    Grounds scope w (w.setCell slot.identifier .creating) := by
  have kept : w.KeepsFilled (w.setCell slot.identifier .creating) := .mark empty
  refine ⟨kept, fun grounded cached served filled read member => ?_⟩
  by_cases same : cached.identifier = slot.identifier
  · simp [same, Cell.state] at filled
  · have before : (w.cells cached.identifier).state = .cached := by
      rwa [w.cells_setCell_of_ne _ same] at filled
    refine (grounded cached served before read member).mono fun name cached => ?_
    rw [kept name (Cell.isEmpty_of_state cached nofun), cached]

/-- The cell that a creation has marked is settled. If that makes it cached, then all that the slot
reads must be there. -/
theorem grounds_settle (served : scope.served? slot.identifier = some (.cached slot))
    (creating : middle.cells slot.identifier = .creating)
    (fulfilled : ∀ value, reply = .ok value →
      ∀ read ∈ (Slot.cached slot).eagerDependencies, scope.Fulfilled middle read)
    (grounded : scope.Grounded middle) :
    scope.Grounded (middle.setCell slot.identifier (.settled slot.identifier reply)) := by
  have stays (name : String) (cached : (middle.cells name).state = .cached) :
      ((middle.setCell slot.identifier (.settled slot.identifier reply)).cells name).state =
        .cached := by
    have other : name ≠ slot.identifier := fun same => by simp [same, creating, Cell.state] at cached
    rwa [middle.cells_setCell_of_ne _ other]
  intro cached known filled read member
  by_cases same : cached.identifier = slot.identifier
  · obtain rfl : cached = slot := by simpa [same, served] using known.symm
    rw [World.cells_setCell_self] at filled
    cases reply with
    | ok value => exact (fulfilled value rfl read member).mono stays
    | error failure => cases filled
    | panic text => cases filled
  · rw [middle.cells_setCell_of_ne _ same] at filled
    exact (grounded cached known filled read member).mono stays

end Settling

namespace Scope

variable {scope : Scope σ V} {handler : Handler σ V} {w after : World σ V}
  {reply : Reply RuntimeError (Instance V)}

/-- What is cached stays grounded, and a read succeeds with what is there. -/
structure Grounding (scope : Scope σ V) (handler : Handler σ V) : Prop where
  reads identifier : (handler.read identifier).Within (Grounds scope)
  fulfilled identifier : (handler.read identifier).Ends (scope.Fulfilled · identifier)
  closes : handler.close.Within (Grounds scope)

section Steps

variable (grounding : scope.Grounding handler)

include grounding

/-- A creation that succeeds has read everything that the slot reads eagerly. -/
theorem fulfilled_create {slot : CachedSlot} {value : Instance V}
    (ran : scope.create handler slot w = some (.ok value, after)) :
    ∀ read ∈ (Slot.cached slot).eagerDependencies, scope.Fulfilled after read := by
  have cellwise := cellwise_grounds scope
  have handles := fun slot => cellwise.readAlive (grounding.reads slot)
  have stable {read : String} {w after : World σ V} (grounds : Grounds scope w after)
      (fulfilled : scope.Fulfilled w read) : scope.Fulfilled after read :=
    fulfilled.mono grounds.stays
  obtain ⟨_, opened, _, creating⟩ := Effect.andThen_eq_ok ran
  obtain ⟨values, given, argued, producing⟩ := Effect.andThen_eq_ok creating
  obtain ⟨made, middle, produced, owning⟩ := Effect.andThen_eq_ok producing
  have last : Grounds scope middle after := by
    split at owning
    · exact cellwise.andThen (cellwise.own handles grounding.closes _ made)
        (fun _ => .ok cellwise.refl made) _ _ _ owning
    · exact Effect.Within.ok cellwise.refl made _ _ _ owning
  intro read member
  refine stable last ?_
  rcases CachedSlot.eager_cases member with ⟨type, method, provided⟩ | listed
  · unfold produce at produced
    rw [provided] at produced
    obtain ⟨receiver, held, received, calling⟩ := Effect.andThen_eq_ok produced
    have called := cellwise.provided grounding.reads grounding.closes receiver _ _ _ calling
    exact stable called (grounding.fulfilled read _ _ _ received)
  · have fulfilled := ends_arguments cellwise.refl cellwise.trans grounding.reads stable
      (grounding.fulfilled read) slot.arguments listed _ _ _ argued
    exact stable (cellwise.produce grounding.reads grounding.closes slot values _ _ _ produced) fulfilled

private theorem grounds_access {slot : CachedSlot}
    (served : scope.served? slot.identifier = some (.cached slot))
    (ran : scope.access handler slot w = some (reply, after)) :
    Grounds scope w after ∧
      ∀ value, reply = .ok value → (after.cells slot.identifier).state = .cached := by
  rcases access_cases ran with ⟨answer, answered, rfl, rfl⟩ | ⟨empty, middle, created, rfl⟩
  · refine ⟨.same rfl, fun value same => ?_⟩
    cases answer with
    | ok _ => cases cell : after.cells slot.identifier <;> simp_all [Cell.answer?, Cell.state]
    | error failure => cases same
  · have marked : Grounds scope w (w.setCell slot.identifier .creating) := grounds_mark empty
    have creation := (cellwise_grounds scope).create grounding.reads grounding.closes slot _ _ _ created
    have creating : middle.cells slot.identifier = .creating := World.KeepsFilled.creating creation.cells
    refine ⟨⟨World.KeepsFilled.settle empty creation.cells _, fun grounded => ?_⟩, fun value same => ?_⟩
    · refine grounds_settle served creating (fun value same => ?_)
        ((marked.trans creation).grounded grounded)
      subst same
      exact fulfilled_create grounding created
    · subst same
      simp [Cell.settled, Cell.state]

private theorem grounding_read (identifier : String) :
    (scope.read handler identifier).Within (Grounds scope) ∧
      (scope.read handler identifier).Ends (scope.Fulfilled · identifier) := by
  refine ⟨fun w reply after ran => ?_, fun w value after ran => ?_⟩
  · rcases read_cases ran with ⟨slot, served, accessed⟩ | ⟨_, rfl⟩
    · rw [← (mem_cached_of_served? served).2] at served
      exact (grounds_access grounding served accessed).1
    · exact (cellwise_grounds scope).refl _
  · simp only [Fulfilled]
    cases served : scope.served? (scope.target identifier) with
    | none =>
      simp only [read, served] at ran
      cases ran
    | some found =>
      cases found with
      | ready _ => trivial
      | aliased target =>
        simp only [read, served] at ran
        cases ran
      | cached slot =>
        simp only [read, served] at ran
        rw [← (mem_cached_of_served? served).2] at served
        exact (grounds_access grounding served ran).2 value rfl

end Steps

/-- However deeply requests nest. -/
theorem grounding_handler (scope : Scope σ V) (level : Nat) : scope.Grounding (scope.handler level) := by
  induction level with
  | zero =>
    exact ⟨fun _ => .starved, fun _ => .starved, .starved⟩
  | succ level ih =>
    have cellwise := cellwise_grounds scope
    exact ⟨fun identifier => (grounding_read ih identifier).1,
      fun identifier => (grounding_read ih identifier).2,
      cellwise.close (fun slot => cellwise.readAlive (ih.reads slot)) ih.closes⟩

/-- Every run keeps what is cached grounded. -/
theorem grounds_run (scope : Scope σ V) (operations : List (Operation V)) (w : World σ V) :
    Grounds scope w (scope.run operations w).2 := by
  have grounding := grounding_handler scope (scope.potential w + 1)
  have ran := runWith_handler operations (Nat.lt_succ_self (scope.potential w))
  refine within_runWith (cellwise_grounds scope).refl .trans
    (fun operation _ w answer middle _ after performed settled => ?_) ran
  have performs := (cellwise_grounds scope).performWith grounding.reads grounding.closes performed
  exact performs.trans
    (within_settleWith (.same rfl) grounding.closes .trans (.same rfl) settled)

end Scope

end Wiring
