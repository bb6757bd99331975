import Wiring.Proofs.Scope.Failing
import Wiring.Proofs.Scope.Handing

/-! # Where a wrapped failure comes from

An error of a recipe's own is wrapped where the recipe has been started, and nowhere else. So a creation
that fails with a wrapped failure has wrapped the error of its own recipe, or it has been told the
failure. Then the failure is in the cell of another slot, unless a program has made it up.

Main statement: `Scope.accounts_create`.
-/

namespace Wiring

variable {σ V ε ε' α β : Type}

section Failing

/-! ## Steps that fail -/

variable {W : Type} {bad : ε → W → Prop}

/-- Wherever the step fails, its failure and the world that it leaves are as wanted. -/
def Effect.FailsAs (bad : ε → W → Prop) (step : Effect W ε α) : Prop :=
  ∀ w failure after, step w = some (.error failure, after) → bad failure after

/-- A sequence fails where its first step fails, or behind it. -/
theorem Effect.andThen_eq_error {first : Effect W ε α} {next : α → Effect W ε β} {w after : W}
    {failure : ε} (ran : first.andThen next w = some (.error failure, after)) :
    (∃ value middle, first w = some (.ok value, middle) ∧
      next value middle = some (.error failure, after)) ∨ first w = some (.error failure, after) := by
  rcases Effect.andThen_cases ran with going | ⟨_, failed, same⟩ | ⟨_, _, same⟩
  · exact .inl going
  · cases same
    exact .inr failed
  · cases same

namespace Effect.FailsAs

theorem ok (value : α) : (Effect.ok value : Effect W ε α).FailsAs bad := fun _ _ _ ran => by cases ran

theorem error {failure : ε} (wanted : ∀ w, bad failure w) :
    (Effect.error failure : Effect W ε α).FailsAs bad := by
  rintro w _ _ ⟨⟩
  exact wanted w

theorem andThen {first : Effect W ε α} {next : α → Effect W ε β} (start : first.FailsAs bad)
    (rest : ∀ value, (next value).FailsAs bad) : (first.andThen next).FailsAs bad := by
  intro w failure after ran
  rcases Effect.andThen_eq_error ran with ⟨value, middle, _, ended⟩ | failed
  · exact rest value middle failure after ended
  · exact start w failure after failed

theorem attempt (step : Effect W ε' α) (bad : ε → W → Prop) :
    (step.attempt : Effect W ε (Except ε' α)).FailsAs bad := by
  intro w failure after ran
  obtain ⟨answered, _, same⟩ := Effect.attempt_eq_some.mp ran
  cases answered <;> cases same

end Effect.FailsAs

/-- What is attempted is answered with what the step comes to. -/
theorem Effect.attempt_eq_ok {step : Effect W ε' α} {w after : W} {answer : Except ε' α}
    (ran : (step.attempt : Effect W ε (Except ε' α)) w = some (.ok answer, after)) :
    step w = some (.ofExcept answer, after) := by
  obtain ⟨answered, answer, same⟩ := Effect.attempt_eq_some.mp ran
  cases answered <;> cases same <;> exact answer

/-- What fails behind an attempt has been given its answer. -/
theorem Effect.attempt_andThen_eq_error {step : Effect W ε' α} {next : Except ε' α → Effect W ε β}
    {w after : W} {failure : ε}
    (ran : (step.attempt.andThen next) w = some (.error failure, after)) :
    ∃ answer middle, step w = some (.ofExcept answer, middle) ∧
      next answer middle = some (.error failure, after) := by
  rcases Effect.andThen_eq_error ran with ⟨answer, middle, answered, ended⟩ | failed
  · exact ⟨answer, middle, Effect.attempt_eq_ok answered, ended⟩
  · exact (Effect.FailsAs.attempt step (fun _ _ => False) _ _ _ failed).elim

private theorem Effect.mapError_eq_error {step : Effect W ε α} {change : ε → ε'} {w after : W}
    {failure : ε'} (ran : step.mapError change w = some (.error failure, after)) :
    ∃ cause, step w = some (.error cause, after) ∧ failure = change cause := by
  obtain ⟨answered, answer, same⟩ := Effect.mapError_eq_some.mp ran
  cases answered with
  | error cause =>
    cases same
    exact ⟨cause, answer, rfl⟩
  | _ => cases same

end Failing

namespace Scope

variable {scope : Scope σ V} {handler : Handler σ V} {slot : CachedSlot} {w after before : World σ V}
  {error : RuntimeError}

/-- A wrapped failure is in a cell, unless a program raises it of its own accord. Other failures do not
matter. -/
def Knows (scope : Scope σ V) (error : RuntimeError) (w : World σ V) : Prop :=
  ∀ name source, error = .creationFailed name source →
    (∃ slot, w.cells slot = .failed error) ∨ scope.Raises scope.plan.Hands error

theorem knows_of_ne (other : ∀ name source, error ≠ .creationFailed name source) : scope.Knows error w :=
  fun name source same => (other name source same).elim

theorem Knows.mono (knows : scope.Knows error w) (grounds : Grounds scope w after) :
    scope.Knows error after := by
  intro name source wrapped
  rcases knows name source wrapped with ⟨slot, failed⟩ | raises
  · exact .inl ⟨slot, by rw [grounds.cells slot (by rw [failed]; rfl), failed]⟩
  · exact .inr raises

/-- A program or a closer fails with a failure that is known, or with an error of its own. -/
def KnowsFault (scope : Scope σ V) (fault : Fault) (w : World σ V) : Prop :=
  ∀ error, fault = .runtime error → scope.Knows error w

/-- Cells that are not empty stay as they are, and wrapped failures that are told are known. -/
structure Informs (scope : Scope σ V) (handler : Handler σ V) : Prop where
  reads identifier : (handler.read identifier).Within (Grounds scope)
  closes : handler.close.Within (Grounds scope)
  failed identifier : (handler.read identifier).FailsAs scope.Knows
  unclosed : handler.close.FailsAs fun unclosed w =>
    ∀ failure ∈ unclosed.failures, scope.KnowsFault failure.fault w

section Steps

variable (informs : scope.Informs handler)

include informs

/-! ## Programs and closing -/

private theorem Informs.readAlive (identifier : String) :
    (handler.readAlive identifier).FailsAs scope.Knows := by
  intro w failure after ran
  unfold Handler.readAlive at ran
  split at ran
  · exact informs.failed identifier w failure after ran
  · cases ran
    exact knows_of_ne (by simp)

/-- What a program has not been told it raises of its own accord. -/
theorem knows_exec {program : Program σ V α}
    (raises : ∀ error, program.Raises error → scope.Raises scope.plan.Hands error) :
    (program.exec scope handler).FailsAs scope.KnowsFault := by
  have cellwise := cellwise_grounds scope
  have handles := fun slot => cellwise.readAlive (informs.reads slot)
  have kept {β : Type} {program : Program σ V β} {w after : World σ V} {reply : Reply Fault β}
      (ran : program.exec scope handler w = some (reply, after)) : Grounds scope w after :=
    cellwise.exec handles informs.closes program w reply after ran
  suffices told : (program.exec scope handler).FailsAs fun fault w =>
      ∀ error, fault = .runtime error → program.Raises error ∨ scope.Knows error w by
    intro w fault after ran error same
    exact (told w fault after ran error same).elim (fun raised _ _ _ => .inr (raises error raised)) id
  clear raises
  -- along the program: what it is answered on the way is known by then, and stays known
  induction program with
  | finish result => exact .ok result
  | fail fault => exact .error fun w error same => .inl same
  | panic text => exact fun _ _ _ ran => by cases ran
  | read slot next ih =>
    intro w fault after ran error same
    obtain ⟨answer, middle, answered, ran⟩ := Effect.attempt_andThen_eq_error ran
    by_cases told : answer = .error error
    · subst told
      have knows := informs.readAlive slot _ _ _ answered
      exact .inr (knows.mono (kept ran))
    · exact (ih answer _ _ _ ran error same).imp_left fun raised => ⟨answer, told, raised⟩
  | close next ih =>
    intro w fault after ran error same
    obtain ⟨answer, middle, answered, ran⟩ := Effect.attempt_andThen_eq_error ran
    by_cases told : ∃ unclosed, answer = .error unclosed ∧
        ∃ failure ∈ unclosed.failures, failure.fault = .runtime error
    · obtain ⟨unclosed, rfl, failure, member, fault⟩ := told
      have knows := informs.unclosed _ _ _ answered failure member error fault
      exact .inr (knows.mono (kept ran))
    · refine (ih answer _ _ _ ran error same).imp_left fun raised => ⟨answer, ?_, raised⟩
      intro unclosed same failure member fault
      exact told ⟨unclosed, same, failure, member, fault⟩
  | release next ih => exact fun w fault after ran => ih _ fault after ran
  | inspect next ih =>
    intro w fault after ran error same
    exact (ih _ w fault after ran error same).imp_left fun raised => ⟨_, raised⟩
  | update change next ih =>
    intro w fault after ran error same
    exact (ih w.host _ fault after ran error same).imp_left fun raised => ⟨_, raised⟩

omit informs in
theorem closeInstance_fails (bad : ε → World σ V → Prop) (value : Instance V) :
    (scope.closeInstance handler value : ScopeStep σ V ε (Except Fault Unit)).FailsAs bad := by
  unfold closeInstance
  split
  · exact .attempt _ bad
  · exact .ok _

/-- The closer of an instance is a closer of the host. -/
theorem knows_closeInstance {value : Instance V} {fault : Fault}
    (ran : (scope.closeInstance handler value : ScopeStep σ V ε (Except Fault Unit)) w =
      some (.ok (.error fault), after)) : scope.KnowsFault fault after := by
  cases found : scope.host.closerOf value.content with
  | none =>
    simp only [closeInstance, found] at ran
    cases ran
  | some closer =>
    simp only [closeInstance, found] at ran
    refine knows_exec informs (fun error raised => ?_) _ _ _ (Effect.attempt_eq_ok ran)
    cases content : value.content with
    | host held =>
      rw [content] at found
      exact .inr (.inr ⟨held, closer, found, raised⟩)
    | factory slot =>
      rw [content] at found
      cases found
    | injector slot =>
      rw [content] at found
      cases found

private theorem knows_closeAll {owned : List (String × Instance V)} {failures : List CloseFailure}
    (ran : (Teardown.closeAll (scope.closeInstance handler) owned :
      ScopeStep σ V CloseError (List CloseFailure)) w = some (.ok failures, after)) :
    ∀ failure ∈ failures, scope.KnowsFault failure.fault after := by
  have cellwise := cellwise_grounds scope
  have handles := fun slot => cellwise.readAlive (informs.reads slot)
  induction owned generalizing w failures with
  | nil =>
    cases ran
    exact List.forall_mem_nil _
  | cons resource rest ih =>
    obtain ⟨outcome, middle, closed, ran⟩ := Effect.andThen_eq_ok ran
    obtain ⟨others, last, later, ended⟩ := Effect.andThen_eq_ok ran
    have kept : Grounds scope middle last := cellwise.closeAll handles informs.closes rest _ _ _ later
    cases outcome with
    | ok _ =>
      cases ended
      exact ih later
    | error fault =>
      cases ended
      refine List.forall_mem_cons.mpr ⟨fun error same => ?_, ih later⟩
      exact (knows_closeInstance informs closed error same).mono kept

omit informs in
private theorem closeAll_fails (bad : CloseError → World σ V → Prop) :
    (owned : List (String × Instance V)) →
    (Teardown.closeAll (scope.closeInstance handler) owned :
      ScopeStep σ V CloseError (List CloseFailure)).FailsAs bad
  | [] => .ok []
  | (_, resource) :: rest =>
    .andThen (closeInstance_fails bad resource) fun outcome =>
      .andThen (closeAll_fails bad rest) fun failures => by
        cases outcome <;> exact .ok _

private theorem knows_close : (scope.close handler).FailsAs fun unclosed w =>
    ∀ failure ∈ unclosed.failures, scope.KnowsFault failure.fault w := by
  intro w unclosed after ran
  unfold Scope.close at ran
  split at ran
  · cases ran
  · rcases Effect.andThen_eq_error ran with ⟨failures, middle, closed, ended⟩ | failed
    · cases failures with
      | nil => cases ended
      | cons failure rest =>
        cases ended
        exact knows_closeAll informs closed
    · exact (closeAll_fails (fun _ _ => False) _ _ _ _ failed).elim

end Steps

/-! ## Reads -/

/-- A read that fails with a wrapped failure leaves it in the cell. -/
theorem knows_read (identifier : String) : (scope.read handler identifier).FailsAs scope.Knows := by
  rintro w _ after ran name source rfl
  rcases read_cases ran with ⟨slot, _, accessed⟩ | ⟨unserved, _⟩
  · refine .inl ⟨slot.identifier, ?_⟩
    rcases access_cases accessed with ⟨answer, answered, same, rfl⟩ | ⟨_, middle, _, rfl⟩
    · cases answer with
      | ok value => cases same
      | error error =>
        cases same
        cases cell : after.cells slot.identifier <;> simp_all [Cell.answer?]
    · simp [Cell.settled]
  · cases served : scope.served? (scope.target identifier) with
    | none =>
      simp only [read, served] at ran
      cases ran
    | some found =>
      simp only [read, served] at ran
      cases found with
      | ready value => cases ran
      | aliased target => cases ran
      | cached slot => exact (unserved slot served).elim

/-- However deeply requests nest. -/
theorem informs_handler (scope : Scope σ V) (level : Nat) : scope.Informs (scope.handler level) := by
  induction level with
  | zero =>
    exact ⟨fun _ _ _ _ ran => (by cases ran), fun _ _ _ ran => (by cases ran),
      fun _ _ _ _ ran => (by cases ran), fun _ _ _ ran => (by cases ran)⟩
  | succ level ih =>
    have grounding := grounding_handler scope (level + 1)
    exact ⟨grounding.reads, grounding.closes, knows_read, knows_close ih⟩

theorem informs_unbounded (scope : Scope σ V) : scope.Informs scope.unbounded where
  reads identifier w := (informs_handler scope (scope.potential w + 1)).reads identifier w
  closes w := (informs_handler scope (scope.potential w + 1)).closes w
  failed identifier w := (informs_handler scope (scope.potential w + 1)).failed identifier w
  unclosed w := (informs_handler scope (scope.potential w + 1)).unclosed w

/-! ## Creations -/

/-- The recipe of the slot, started by the creation that begins in the world, raises an error of its
own. -/
def Wraps (scope : Scope σ V) (slot : CachedSlot) (before : World σ V) (source : String) : Prop :=
  ∃ (α : Type) (program : Program σ V α) (started ended : World σ V),
    scope.Launches slot before program started ∧
      program.exec scope scope.unbounded started = some (.error (.foreign source), ended)

/-- The creation that begins in the world wraps the error of its own recipe, or else it fails with a
failure that is known. -/
def Accounts (scope : Scope σ V) (slot : CachedSlot) (before : World σ V) (error : RuntimeError)
    (w : World σ V) : Prop :=
  (∃ source, error = .creationFailed slot.identifier source ∧ scope.Wraps slot before source) ∨
    scope.Knows error w

private theorem knows_argument {name : String} {curried : List (Instance V)}
    (informs : scope.Informs handler)
    (argument : Argument) : (Scope.argument handler name curried argument).FailsAs scope.Knows := by
  cases argument with
  | slot identifier => exact .andThen (informs.failed identifier) fun _ => .ok _
  | lazy identifier => exact .ok _
  | curried index =>
    simp only [Scope.argument]
    split
    · exact .ok _
    · exact .error fun _ => knows_of_ne (by simp [missingArgument])

private theorem knows_arguments {name : String} {curried : List (Instance V)}
    (informs : scope.Informs handler) :
    (arguments : List Argument) → (Scope.arguments handler name curried arguments).FailsAs scope.Knows
  | [] => .ok []
  | argument :: rest =>
    .andThen (knows_argument informs argument) fun _ =>
      .andThen (knows_arguments informs rest) fun _ => .ok _

private theorem knows_own (name : String) (value : Instance V) :
    (scope.own handler name value).FailsAs scope.Knows := by
  unfold own
  split
  · intro w failure after ran
    unfold register at ran
    split at ran
    · exact Effect.FailsAs.andThen (closeInstance_fails _ value)
        (fun _ => .error fun _ => knows_of_ne (by simp)) _ _ _ ran
    · cases ran
  · exact .error fun _ => knows_of_ne (by simp)

private theorem instance_fails (bad : ε → World σ V → Prop) (made : Made V) :
    (made.instance : ScopeStep σ V ε (Instance V)).FailsAs bad := by
  cases made with
  | existing shared => exact .ok shared
  | fresh value => exact fun _ _ _ ran => by cases ran

/-- What the recipe raises of its own is wrapped, and everything else passes as it is. -/
theorem accounts_runRecipe {program : Program σ V α} {started : World σ V}
    (raises : ∀ error, program.Raises error → scope.Raises scope.plan.Hands error)
    (launches : scope.Launches slot before program started)
    (ran : scope.runRecipe scope.unbounded slot.identifier program started = some (.error error, after)) :
    scope.Accounts slot before error after := by
  obtain ⟨fault, raised, rfl⟩ := Effect.mapError_eq_error ran
  cases fault with
  | foreign source => exact .inl ⟨source, rfl, α, program, started, after, launches, raised⟩
  | runtime error => exact .inr (knows_exec scope.informs_unbounded raises _ _ _ raised error rfl)

private theorem knows_findConstructor {type : TypeExpr}
    (found : scope.recipes.findConstructor type = .error error) :
    scope.Knows error w := by
  unfold RecipeTable.findConstructor at found
  split at found <;> cases found
  exact knows_of_ne (by simp)

private theorem knows_findMethod {type : TypeExpr} {method : String}
    (found : scope.recipes.findMethod type method = .error error) : scope.Knows error w := by
  unfold RecipeTable.findMethod at found
  split at found <;> cases found
  exact knows_of_ne (by simp)

private theorem accounts_produce (member : slot ∈ scope.plan.cached) {values : List (Arg V)}
    (reads : scope.Reads slot before slot.arguments values w)
    (ran : scope.produce scope.unbounded slot values w = some (.error error, after)) :
    scope.Accounts slot before error after := by
  have informs := scope.informs_unbounded
  have hands : scope.plan.Hands slot.recipe.callable ⟨slot.identifier, values⟩ :=
    ⟨_, Plan.mem_slots_of_cached member, _, _, .cached (handing_of_arguments reads.given)⟩
  cases called : slot.recipe with
  | constructor type =>
    simp only [produce, called] at ran
    cases found : scope.recipes.findConstructor type with
    | error failure =>
      rw [found] at ran
      cases ran
      exact .inr (knows_findConstructor found)
    | ok recipe =>
      rw [found, Effect.ofExcept_ok_andThen] at ran
      rcases Effect.andThen_eq_error ran with ⟨made, middle, _, ended⟩ | failed
      · exact (instance_fails (fun _ _ => False) made _ _ _ ended).elim
      · refine accounts_runRecipe (fun error raised => ?_) (.constructor called reads found) failed
        rw [called] at hands
        exact .inl ⟨type, recipe, found, _, hands, raised⟩
  | provider holder type method =>
    simp only [produce, called] at ran
    rcases Effect.andThen_eq_error ran with ⟨receiver, started, held, ran⟩ | failed
    · cases found : scope.recipes.findMethod type method with
      | error failure =>
        rw [found] at ran
        cases ran
        exact .inr (knows_findMethod found)
      | ok recipe =>
        rw [found, Effect.ofExcept_ok_andThen] at ran
        rcases Effect.andThen_eq_error ran with ⟨made, middle, _, ended⟩ | failed
        · cases made with
          | some made => exact (instance_fails (fun _ _ => False) made _ _ _ ended).elim
          | none =>
            cases ended
            exact .inr (knows_of_ne (by simp))
        · refine accounts_runRecipe (fun error raised => ?_) (.method called reads held found) failed
          rw [called] at hands
          exact .inr (.inl ⟨type, method, recipe, found, receiver, _, hands, raised⟩)
    · exact .inr (informs.failed holder _ _ _ failed)

/-- A creation that fails with a wrapped failure has wrapped the error of its own recipe, or it has been
told the failure. -/
theorem accounts_create (member : slot ∈ scope.plan.cached) (empty : before.cells slot.identifier = .empty)
    (ran : scope.create scope.unbounded slot (before.setCell slot.identifier .creating) =
      some (.error error, after)) : scope.Accounts slot before error after := by
  have informs := scope.informs_unbounded
  by_cases closed : before.teardown.closed = true
  · rw [create_of_closed (w := before.setCell slot.identifier .creating) closed] at ran
    cases ran
    exact .inr (knows_of_ne (by simp))
  · rw [create_of_open (by simpa using closed)] at ran
    rcases Effect.andThen_eq_error ran with ⟨values, started, given, ran⟩ | failed
    · rcases Effect.andThen_eq_error ran with ⟨value, middle, _, ran⟩ | failed
      · refine .inr ?_
        split at ran
        · exact Effect.FailsAs.andThen (knows_own _ value) (fun _ => .ok value) _ _ _ ran
        · cases ran
      · exact accounts_produce member ⟨by simpa using closed, empty, given⟩ failed
    · exact .inr (knows_arguments informs _ _ _ _ failed)

end Scope

end Wiring
