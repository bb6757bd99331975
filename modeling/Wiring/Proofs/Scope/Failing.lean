import Wiring.Proofs.Scope.Calling

/-! # How a creation meets a failure

A creation reads its arguments, then the holder of a provider, and then runs its recipe, which may read
through handles. Wherever one of these reads fails, the failure is met: as an argument or as the holder
it ends the creation, and a recipe that is answered it may pass it on. In each of these ways the very
failure that was met becomes that of the slot. A fault that the recipe raises itself becomes the failure
of the slot as well, and is wrapped if it is an error of the recipe's own.

Main statements: `Scope.access_of_meets` and `Scope.access_of_raised`.
-/

namespace Wiring

variable {σ V α β : Type}

section Programs

/-! ## Where a program comes to -/

/-- The program, run from the first world, comes to the other program in the second world. Each request
on the way is answered as the scope answers it. -/
inductive Program.Comes (scope : Scope σ V) :
    Program σ V α → World σ V → Program σ V α → World σ V → Prop
  | here {program : Program σ V α} {w : World σ V} : Comes scope program w program w
  | read {slot : String} {next : Except RuntimeError (Instance V) → Program σ V α}
      {program : Program σ V α} {w middle after : World σ V} {answer : Except RuntimeError (Instance V)}
      (answered : scope.unbounded.readAlive slot w = some (.ofExcept answer, middle))
      (rest : Comes scope (next answer) middle program after) :
      Comes scope (.read slot next) w program after
  | close {next : Except CloseError Unit → Program σ V α} {program : Program σ V α}
      {w middle after : World σ V} {answer : Except CloseError Unit}
      (answered : scope.unbounded.close w = some (.ofExcept answer, middle))
      (rest : Comes scope (next answer) middle program after) :
      Comes scope (.close next) w program after
  | release {next program : Program σ V α} {w after : World σ V}
      (rest : Comes scope next { w with held := false } program after) :
      Comes scope (.release next) w program after
  | inspect {next : ScopeView → Program σ V α} {program : Program σ V α} {w after : World σ V}
      (rest : Comes scope (next (scope.view w)) w program after) :
      Comes scope (.inspect next) w program after
  | update {change : σ → σ} {next : σ → Program σ V α} {program : Program σ V α} {w after : World σ V}
      (rest : Comes scope (next w.host) { w with host := change w.host } program after) :
      Comes scope (.update change next) w program after

/-- A step that is answered is answered the same when it is attempted. -/
theorem Effect.attempt_andThen {W ε ε' : Type} {step : Effect W ε α}
    {next : Except ε α → Effect W ε' β} {w middle : W} {answer : Except ε α}
    (answered : step w = some (.ofExcept answer, middle)) :
    (step.attempt.andThen next) w = next answer middle := by
  unfold Effect.andThen Effect.attempt
  rw [answered]
  cases answer <;> rfl

/-- A program ends as the one that it comes to. -/
theorem Program.Comes.exec_eq {scope : Scope σ V} {program other : Program σ V α} {w after : World σ V}
    (comes : program.Comes scope w other after) :
    program.exec scope scope.unbounded w = other.exec scope scope.unbounded after := by
  induction comes with
  | here => rfl
  | read answered _ ih => exact (Effect.attempt_andThen answered).trans ih
  | close answered _ ih => exact (Effect.attempt_andThen answered).trans ih
  | release _ ih => exact ih
  | inspect _ ih => exact ih
  | update _ ih => exact ih

end Programs

namespace Scope

variable {scope : Scope σ V} {slot outer : CachedSlot} {before asked met started middle after : World σ V}
  {via : String} {error : RuntimeError} {program : Program σ V α}

/-- The creation of the slot that begins in the first world reads these of its arguments, and all of
them are there in the second world. -/
structure Reads (scope : Scope σ V) (slot : CachedSlot) (before : World σ V) (arguments : List Argument)
    (values : List (Arg V)) (after : World σ V) : Prop where
  opened : before.teardown.closed = false
  empty : before.cells slot.identifier = .empty
  given : Scope.arguments scope.unbounded slot.identifier [] arguments
    (before.setCell slot.identifier .creating) = some (.ok values, after)

/-- The creation of the slot that begins in the first world starts this recipe in the second world. -/
inductive Launches (scope : Scope σ V) (slot : CachedSlot) (before : World σ V) :
    {α : Type} → Program σ V α → World σ V → Prop
  | constructor {type : TypeExpr} {recipe : ConstructorRecipe σ V} {values : List (Arg V)}
      {started : World σ V} (called : slot.recipe = .constructor type)
      (reads : scope.Reads slot before slot.arguments values started)
      (found : scope.recipes.findConstructor type = .ok recipe) :
      Launches scope slot before (recipe ⟨slot.identifier, values⟩) started
  | method {holder method : String} {type : TypeExpr} {recipe : MethodRecipe σ V}
      {values : List (Arg V)} {receiver : Instance V} {reached started : World σ V}
      (called : slot.recipe = .provider holder type method)
      (reads : scope.Reads slot before slot.arguments values reached)
      (held : scope.unbounded.read holder reached = some (.ok receiver, started))
      (found : scope.recipes.findMethod type method = .ok recipe) :
      Launches scope slot before (recipe receiver ⟨slot.identifier, values⟩) started

/-- The creation of the outer slot that begins in the world `before` reads the identifier in the world
`asked`. The failure that it is answered in the world `met` is that of an argument, that of the holder,
or one that its recipe is answered through a handle and raises in the end. -/
inductive Meets (scope : Scope σ V) (outer : CachedSlot) (before : World σ V) (via : String)
    (asked : World σ V) (error : RuntimeError) (met : World σ V) : Prop
  | argument {earlier later : List Argument} {values : List (Arg V)}
      (listed : outer.arguments = earlier ++ .slot via :: later)
      (reads : scope.Reads outer before earlier values asked)
      (failed : scope.unbounded.read via asked = some (.error error, met))
  | holder {type : TypeExpr} {method : String} {values : List (Arg V)}
      (called : outer.recipe = .provider via type method)
      (reads : scope.Reads outer before outer.arguments values asked)
      (failed : scope.unbounded.read via asked = some (.error error, met))
  | handle {α : Type} {program : Program σ V α} {started last : World σ V}
      {next : Except RuntimeError (Instance V) → Program σ V α}
      (launched : scope.Launches outer before program started)
      (comes : program.Comes scope started (.read via next) asked) (alive : asked.alive = true)
      (failed : scope.unbounded.read via asked = some (.error error, met))
      (raised : (next (.error error)).exec scope scope.unbounded met =
        some (.error (.runtime error), last))

/-- A recipe is only started for an empty cell. -/
theorem Launches.empty (launches : scope.Launches slot before program started) :
    before.cells slot.identifier = .empty := by
  cases launches with
  | constructor _ reads _ => exact reads.empty
  | method _ reads _ _ => exact reads.empty

/-- A slot is empty when a creation begins that meets a failure. -/
theorem Meets.empty (meets : scope.Meets outer before via asked error met) :
    before.cells outer.identifier = .empty := by
  cases meets with
  | argument _ reads _ => exact reads.empty
  | holder _ reads _ => exact reads.empty
  | handle launched _ _ _ _ => exact launched.empty

/-! ## What becomes of a failure -/

/-- The arguments fail as the first of them that fails. -/
theorem arguments_of_failed {handler : Handler σ V} {name : String} {curried : List (Instance V)}
    {earlier later : List Argument} {argument : Argument} {values : List (Arg V)} {w : World σ V}
    (given : Scope.arguments handler name curried earlier w = some (.ok values, asked))
    (failed : Scope.argument handler name curried argument asked = some (.error error, met)) :
    Scope.arguments handler name curried (earlier ++ argument :: later) w = some (.error error, met) := by
  induction earlier generalizing w values with
  | nil =>
    cases given
    simp [Scope.arguments, Effect.andThen, failed]
  | cons argument rest ih =>
    obtain ⟨value, middle, first, given⟩ := Effect.andThen_eq_ok given
    obtain ⟨others, last, later, ended⟩ := Effect.andThen_eq_ok given
    cases ended
    simp [Scope.arguments, Effect.andThen, first, ih later]

/-- A creation in an open scope begins with the arguments. -/
theorem create_of_open {handler : Handler σ V} (opened : before.teardown.closed = false) :
    scope.create handler slot (before.setCell slot.identifier .creating) =
      ((arguments handler slot.identifier [] slot.arguments).andThen fun values =>
        (scope.produce handler slot values).andThen fun value =>
          if slot.closeOnTeardown then
            (scope.own handler slot.identifier value).andThen fun _ => .ok value
          else .ok value) (before.setCell slot.identifier .creating) := by
  have passes : checkOpen slot.identifier (before.setCell slot.identifier .creating) =
      Effect.ok () (before.setCell slot.identifier .creating) := by
    simp [checkOpen, Teardown.checkOpen, World.setCell, opened, Effect.ofExcept]
  unfold create
  rw [Effect.andThen, passes]
  rfl

/-- What fails after the arguments have been read is the failure of the creation. -/
theorem create_of_produce {values : List (Arg V)}
    (reads : scope.Reads slot before slot.arguments values started)
    (failed : scope.produce scope.unbounded slot values started = some (.error error, after)) :
    scope.create scope.unbounded slot (before.setCell slot.identifier .creating) =
      some (.error error, after) := by
  rw [create_of_open reads.opened, Effect.andThen, reads.given]
  simp only [Effect.andThen, failed]

/-- A recipe that raises a fault makes the creation fail with it. -/
theorem create_of_raised {fault : Fault} (launches : scope.Launches slot before program started)
    (raised : program.exec scope scope.unbounded started = some (.error fault, after)) :
    scope.create scope.unbounded slot (before.setCell slot.identifier .creating) =
      some (.error (fault.atSlot slot.identifier), after) := by
  cases launches with
  | constructor called reads found =>
    refine create_of_produce reads ?_
    simp only [produce, called, found, Effect.ofExcept_ok_andThen]
    simp only [Effect.andThen, runRecipe, Effect.mapError, raised]
  | method called reads held found =>
    refine create_of_produce reads ?_
    simp only [produce, called, found, Effect.ofExcept_ok_andThen]
    simp only [Effect.andThen, held, runRecipe, Effect.mapError, raised]

/-- A creation fails with the failure that it meets. What was in the cells by then stays there. -/
theorem create_of_meets (meets : scope.Meets outer before via asked error met) :
    ∃ middle, scope.create scope.unbounded outer (before.setCell outer.identifier .creating) =
      some (.error error, middle) ∧ Grounds scope met middle := by
  have cellwise := cellwise_grounds scope
  cases meets with
  | argument listed reads failed =>
    have refused : Scope.argument scope.unbounded outer.identifier [] (.slot via) asked =
        some (.error error, met) := by simp only [Scope.argument, Effect.andThen, failed]
    refine ⟨met, ?_, cellwise.refl met⟩
    rw [create_of_open reads.opened, listed, Effect.andThen, arguments_of_failed reads.given refused]
  | holder called reads failed =>
    refine ⟨met, create_of_produce reads ?_, cellwise.refl met⟩
    simp only [produce, called, Effect.andThen, failed]
  | @handle _ program started last next launched comes alive failed raised =>
    -- the recipe ends as its rest does, which raises the failure once it is answered it
    have answered : scope.unbounded.readAlive via asked = some (.ofExcept (.error error), met) := by
      rw [Handler.readAlive, if_pos alive]
      exact failed
    have ended : program.exec scope scope.unbounded started = some (.error (.runtime error), last) := by
      rw [comes.exec_eq]
      exact (Effect.attempt_andThen answered).trans raised
    have giving := scope.giving_unbounded
    refine ⟨last, create_of_raised launched ended, ?_⟩
    exact cellwise.exec (fun slot => cellwise.readAlive (giving.reads slot)) giving.closes _ _ _ _ raised

/-- Accessing an empty slot creates it and settles its cell. -/
theorem access_of_create {reply : Reply RuntimeError (Instance V)} {handler : Handler σ V}
    (empty : before.cells slot.identifier = .empty)
    (created : scope.create handler slot (before.setCell slot.identifier .creating) =
      some (reply, middle)) :
    scope.access handler slot before =
      some (reply, middle.setCell slot.identifier (.settled slot.identifier reply)) := by
  simp only [access, empty, Cell.answer?, created]

/-- A creation leaves the cell alone that it has marked. -/
theorem creating_of_create {reply : Reply RuntimeError (Instance V)}
    (created : scope.create scope.unbounded slot (before.setCell slot.identifier .creating) =
      some (reply, middle)) : middle.cells slot.identifier = .creating := by
  have giving := scope.giving_unbounded
  have creation := (cellwise_grounds scope).create giving.reads giving.closes slot _ _ _ created
  exact World.KeepsFilled.creating creation.cells

/-- A slot fails with the failure that its creation meets, and all that was settled by then stays
settled. -/
theorem access_of_meets (meets : scope.Meets outer before via asked error met) :
    ∃ after, scope.access scope.unbounded outer before = some (.error error, after) ∧
      after.cells outer.identifier = .failed error ∧
      ∀ name result, (met.cells name).outcome? = some result → after.cells name = met.cells name := by
  obtain ⟨middle, created, grounds⟩ := create_of_meets meets
  refine ⟨_, access_of_create meets.empty created, World.cells_setCell_self _ _ _,
    fun name result settled => ?_⟩
  have kept : middle.cells name = met.cells name :=
    grounds.cells name (Cell.isEmpty_of_outcome? settled)
  have other : name ≠ outer.identifier := fun same => by
    rw [← kept, same, creating_of_create created] at settled
    cases settled
  rw [World.cells_setCell_of_ne _ _ other, kept]

/-- A slot whose recipe raises a fault fails with it. -/
theorem access_of_raised {fault : Fault} (launches : scope.Launches slot before program started)
    (raised : program.exec scope scope.unbounded started = some (.error fault, middle)) :
    ∃ after, scope.access scope.unbounded slot before =
        some (.error (fault.atSlot slot.identifier), after) ∧
      after.cells slot.identifier = .failed (fault.atSlot slot.identifier) :=
  ⟨_, access_of_create launches.empty (create_of_raised launches raised), World.cells_setCell_self _ _ _⟩

end Scope

end Wiring
