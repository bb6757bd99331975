import Wiring.Proofs.Scope.Evaluation
import Wiring.Proofs.Scope.Passage
import Wiring.Proofs.Scope.Runs

/-! # Cells hold what evaluation tells

While a scope is open, reading a slot gives what evaluating it from scratch gives, whatever has been
read before. A cell that is settled holds the outcome of its slot, failures included; a creation
reads only slots whose outcomes are right already or will be, and its recipe makes of them what the
meaning says, so the cell that it settles holds the right outcome too. Closing ends all this, since
nothing is created from then on; but it is never undone, so a scope that is open after a step was
open all along.

The recipes may change the state of the host, look at the scope, give up the client's reference and
even close the scope, as long as what they end with depends on nothing but their receiver and
arguments.
-/

namespace Wiring

variable {σ V D ε ε' α β γ δ : Type}

/-- The reply is this outcome, as far as it can be seen. -/
def Reply.Shows (look : α → β) (outcome : Except ε β) : Reply ε α → Prop
  | ok value => outcome = .ok (look value)
  | error failure => outcome = .error failure
  | panic _ => False

/-- The answer is this outcome, as far as it can be seen. -/
def Answer.Shows (look : Content V → D) (outcome : Except RuntimeError D) : Answer V → Prop
  | shared value => outcome = .ok (look value.content)
  | failed error => outcome = .error error
  | nothing => False
  | done => False
  | unclosed _ => False
  | panicked _ => False

section Meaning

/-! ## Recipes with a meaning -/

/-- Wherever the program runs, this is its outcome, unless it leaves the scope closed. -/
def Program.Yields (scope : Scope σ V) (look : α → β) (outcome : Except Fault β)
    (program : Program σ V α) : Prop :=
  ∀ w reply after, program.exec scope scope.unbounded w = some (reply, after) →
    after.teardown.closed = false → reply.Shows look outcome

def Made.look (look : Content V → D) : Made V → D
  | existing shared => look shared.content
  | fresh value => look (.host value)

/-- Recipes depend on nothing but how their receiver and arguments look, and so does whether an
instance can be closed. -/
structure Scope.Means (scope : Scope σ V) (meaning : Meaning V D) : Prop where
  closeable (content : Content V) :
    meaning.closeable (meaning.look content) = (scope.host.closerOf content).isSome
  constructors (type : TypeExpr) (recipe : ConstructorRecipe σ V) :
    scope.recipes.findConstructor type = .ok recipe → ∀ arguments,
      (recipe arguments).Yields scope (Made.look meaning.look)
        (meaning.construct type arguments.slot (arguments.values.map (Arg.datum meaning.look)))
  methods (type : TypeExpr) (name : String) (recipe : MethodRecipe σ V) :
    scope.recipes.findMethod type name = .ok recipe → ∀ receiver arguments,
      (recipe receiver arguments).Yields scope (Option.map (Made.look meaning.look))
        (meaning.call type name (meaning.look receiver.content) arguments.slot
          (arguments.values.map (Arg.datum meaning.look)))

end Meaning

section WhileOpen

/-! ## Steps that leave a scope open -/

/-- If the scope is open after the step it was open before, and the step keeps the invariant of the
cells with a good reply. -/
def Effect.WhileOpen (invariant : (String → Cell (Instance V)) → Prop) (good : Reply ε α → Prop)
    (step : ScopeStep σ V ε α) : Prop :=
  ∀ w reply after, step w = some (reply, after) → after.teardown.closed = false →
    w.teardown.closed = false ∧ after.alive = w.alive ∧
      (invariant w.cells → invariant after.cells ∧ good reply)

/-- All that is known of the step is that it does not undo a closing. -/
abbrev Effect.Stays (step : ScopeStep σ V ε α) : Prop :=
  step.WhileOpen (fun _ => False) fun _ => True

namespace Effect.WhileOpen

variable {invariant invariant' : (String → Cell (Instance V)) → Prop} {good good' : Reply ε α → Prop}
  {step : ScopeStep σ V ε α}

private theorem stays (open? : step.WhileOpen invariant good) :
    step.Stays := fun w reply after ran opened =>
  have ⟨before, alive, _⟩ := open? w reply after ran opened
  ⟨before, alive, False.elim⟩

/-- Another invariant, which agrees with the first one wherever it holds before. -/
theorem change (open? : step.WhileOpen invariant good)
    (first : ∀ {cells}, invariant' cells → invariant cells)
    (last : ∀ {cells cells'}, invariant' cells → invariant cells' → invariant' cells')
    (better : ∀ {reply}, good reply → good' reply) : step.WhileOpen invariant' good' := by
  intro w reply after ran opened
  obtain ⟨before, alive, keeps⟩ := open? w reply after ran opened
  refine ⟨before, alive, fun holds => ?_⟩
  obtain ⟨kept, wanted⟩ := keeps (first holds)
  exact ⟨last holds kept, better wanted⟩

/-- A step that changes neither cells nor the closing. -/
theorem rest (rests : ∀ w reply after, step w = some (reply, after) →
      after.cells = w.cells ∧ after.teardown.closed = w.teardown.closed ∧ after.alive = w.alive ∧
        good reply) : step.WhileOpen invariant good := by
  intro w reply after ran opened
  obtain ⟨cells, closed, alive, wanted⟩ := rests w reply after ran
  exact ⟨closed ▸ opened, alive, fun holds => ⟨cells ▸ holds, wanted⟩⟩

theorem ok {value : α} (wanted : good (.ok value)) :
    (Effect.ok value : ScopeStep σ V ε α).WhileOpen invariant good :=
  rest fun _ _ _ ran => by
    cases ran
    exact ⟨rfl, rfl, rfl, wanted⟩

theorem error {failure : ε} (wanted : good (.error failure)) :
    (Effect.error failure : ScopeStep σ V ε α).WhileOpen invariant good :=
  rest fun _ _ _ ran => by
    cases ran
    exact ⟨rfl, rfl, rfl, wanted⟩

theorem ofExcept {result : Except ε α} (wanted : good (.ofExcept result)) :
    (Effect.ofExcept result : ScopeStep σ V ε α).WhileOpen invariant good :=
  rest fun w _ _ ran => by
    rw [Effect.ofExcept_eq] at ran
    cases ran
    exact ⟨rfl, rfl, rfl, wanted⟩

theorem ofExcept_andThen {result : Except ε β} {next : β → ScopeStep σ V ε α}
    (going : ∀ value, result = .ok value → (next value).WhileOpen invariant good)
    (failed : ∀ failure, result = .error failure → good (.error failure)) :
    ((Effect.ofExcept result).andThen next).WhileOpen invariant good := by
  cases result with
  | ok value => exact going value rfl
  | error failure => exact error (failed failure rfl)

/-- A sequence of steps; what its first step is known to reply is known further on. -/
theorem andThen {first : ScopeStep σ V ε β} {next : β → ScopeStep σ V ε α} {known : Reply ε β → Prop}
    (start : first.WhileOpen invariant known)
    (rest : ∀ value, (next value).WhileOpen invariant fun reply => known (.ok value) → good reply)
    (failed : ∀ failure, known (.error failure) → good (.error failure))
    (unwound : ∀ text, known (.panic text) → good (.panic text)) :
    (first.andThen next).WhileOpen invariant good := by
  intro w reply after ran opened
  rcases Effect.andThen_cases ran with ⟨value, middle, begun, ended⟩ | ⟨failure, ended, rfl⟩ |
    ⟨text, ended, rfl⟩
  · obtain ⟨between, alive', going⟩ := rest value middle reply after ended opened
    obtain ⟨before, alive, keeps⟩ := start w _ middle begun between
    refine ⟨before, alive'.trans alive, fun holds => ?_⟩
    obtain ⟨kept, told⟩ := keeps holds
    exact ⟨(going kept).1, (going kept).2 told⟩
  · obtain ⟨before, alive, keeps⟩ := start w _ after ended opened
    exact ⟨before, alive, fun holds => ⟨(keeps holds).1, failed failure (keeps holds).2⟩⟩
  · obtain ⟨before, alive, keeps⟩ := start w _ after ended opened
    exact ⟨before, alive, fun holds => ⟨(keeps holds).1, unwound text (keeps holds).2⟩⟩

/-- Sequences of which nothing but the invariant is of interest. -/
theorem keeps_andThen {first : ScopeStep σ V ε β} {next : β → ScopeStep σ V ε α}
    {known : Reply ε β → Prop} (start : first.WhileOpen invariant known)
    (rest : ∀ value, (next value).WhileOpen invariant fun _ => True) :
    (first.andThen next).WhileOpen invariant fun _ => True :=
  andThen start (fun value => (rest value).change id (fun _ => id) fun _ _ => trivial)
    (fun _ _ => trivial) fun _ _ => trivial

/-- Sequences of outcomes. -/
theorem bind {first : ScopeStep σ V ε α} {next : α → ScopeStep σ V ε γ} {look : α → β}
    {look' : γ → δ} {outcome : Except ε β} {further : β → Except ε δ}
    (start : first.WhileOpen invariant (Reply.Shows look outcome))
    (rest : ∀ value, (next value).WhileOpen invariant (Reply.Shows look' (further (look value)))) :
    (first.andThen next).WhileOpen invariant (Reply.Shows look' (outcome >>= further)) := by
  refine andThen start (fun value => (rest value).change id (fun _ => id) fun {reply} shows told => ?_)
    (fun failure told => ?_) fun _ => False.elim
  · obtain rfl : outcome = .ok (look value) := told
    exact shows
  · obtain rfl : outcome = .error failure := told
    rfl

/-- A step of which the outcome is passed on. -/
theorem pass {first : ScopeStep σ V ε α} {next : α → ScopeStep σ V ε γ} {look : α → β}
    {look' : γ → β} {outcome : Except ε β} (start : first.WhileOpen invariant (Reply.Shows look outcome))
    (rest : ∀ value, (next value).WhileOpen invariant (Reply.Shows look' (.ok (look value)))) :
    (first.andThen next).WhileOpen invariant (Reply.Shows look' outcome) := by
  have same : (outcome >>= Except.ok) = outcome := by cases outcome <;> rfl
  exact same ▸ bind start rest

theorem mapError {look : α → β} {outcome : Except ε β} (change : ε → ε')
    (open? : step.WhileOpen invariant (Reply.Shows look outcome)) :
    (step.mapError change).WhileOpen invariant (Reply.Shows look (outcome.mapError change)) := by
  intro w reply after ran opened
  obtain ⟨answered, answer, rfl⟩ := Effect.mapError_eq_some.mp ran
  obtain ⟨before, alive, keeps⟩ := open? w answered after answer opened
  refine ⟨before, alive, fun holds => ⟨(keeps holds).1, ?_⟩⟩
  have shows := (keeps holds).2
  cases answered with
  | ok value =>
    obtain rfl : outcome = .ok (look value) := shows
    rfl
  | error failure =>
    obtain rfl : outcome = .error failure := shows
    rfl
  | panic text => exact shows

theorem attempt (open? : step.WhileOpen invariant fun _ => True) :
    (step.attempt : ScopeStep σ V ε' (Except ε α)).WhileOpen invariant fun _ => True := by
  intro w reply after ran opened
  obtain ⟨answered, ran, _⟩ := Effect.attempt_eq_some.mp ran
  obtain ⟨before, alive, keeps⟩ := open? w answered after ran opened
  exact ⟨before, alive, fun holds => ⟨(keeps holds).1, trivial⟩⟩

theorem ite {test : World σ V → Bool} {other : ScopeStep σ V ε α} (yes : step.WhileOpen invariant good)
    (no : other.WhileOpen invariant good) :
    Effect.WhileOpen invariant good fun w => if test w then step w else other w := by
  intro w reply after ran
  cases tested : test w with
  | true =>
    simp only [tested, ↓reduceIte] at ran
    exact yes w reply after ran
  | false =>
    simp only [tested, Bool.false_eq_true, ↓reduceIte] at ran
    exact no w reply after ran

end Effect.WhileOpen

end WhileOpen

namespace Scope

section Rules

/-! ## Rules -/

variable {scope : Scope σ V} {handler : Handler σ V} {meaning : Meaning V D}
  {invariant : (String → Cell (Instance V)) → Prop} {read : String → Except RuntimeError D}

/-- An instance, seen as recipes see it. -/
abbrev shows (meaning : Meaning V D) : Except ε D → Reply ε (Instance V) → Prop :=
  Reply.Shows fun value => meaning.look value.content

private theorem whileOpen_instance (made : Made V) :
    (made.instance : ScopeStep σ V ε (Instance V)).WhileOpen invariant
      (shows meaning (.ok (made.look meaning.look))) := by
  cases made with
  | existing shared => exact .ok rfl
  | fresh value =>
    refine .rest fun w _ _ ran => ?_
    cases ran
    exact ⟨rfl, rfl, rfl, rfl⟩

theorem keeps_instance (made : Made V) :
    (made.instance : ScopeStep σ V ε (Instance V)).WhileOpen invariant fun _ => True := by
  cases made with
  | existing shared => exact .ok trivial
  | fresh value =>
    refine .rest fun w _ _ ran => ?_
    cases ran
    exact ⟨rfl, rfl, rfl, trivial⟩

/-- Where closing has begun the scope is closed afterwards, so only the other case counts. -/
theorem whileOpen_checkOpen {slot : String} {next : Unit → ScopeStep σ V RuntimeError α}
    {good : Reply RuntimeError α → Prop} (rest : (next ()).WhileOpen invariant good) :
    ((checkOpen slot).andThen next).WhileOpen invariant good := by
  intro w reply after ran opened
  unfold checkOpen Teardown.checkOpen Effect.andThen at ran
  cases closed : w.teardown.closed with
  | true =>
    simp only [closed, ↓reduceIte] at ran
    cases ran
    exact absurd opened (by simp [closed])
  | false =>
    simp only [closed, Bool.false_eq_true, ↓reduceIte] at ran
    exact closed ▸ rest w reply after ran opened

private theorem whileOpen_argument {slot : String} {curried : List (Instance V)} {argument : Argument}
    (reads : ∀ next ∈ argument.eagerSlot?,
      (handler.read next).WhileOpen invariant (shows meaning (read next))) :
    (Scope.argument handler slot curried argument).WhileOpen invariant
      (Reply.Shows (Arg.datum meaning.look)
        (Meaning.argument read slot (curried.map fun value => meaning.look value.content) argument)) := by
  cases argument with
  | slot identifier => exact .bind (reads identifier rfl) fun value => .ok rfl
  | lazy identifier => exact .ok rfl
  | curried index =>
    simp only [Scope.argument, Meaning.argument, List.getElem?_map, List.length_map]
    cases curried[index.toNat]? with
    | some value => exact .ok rfl
    | none => exact .error rfl

theorem whileOpen_arguments {slot : String} {curried : List (Instance V)} :
    {arguments : List Argument} →
    (∀ argument ∈ arguments, ∀ next ∈ argument.eagerSlot?,
      (handler.read next).WhileOpen invariant (shows meaning (read next))) →
    (Scope.arguments handler slot curried arguments).WhileOpen invariant
      (Reply.Shows (List.map (Arg.datum meaning.look))
        (Meaning.arguments read slot (curried.map fun value => meaning.look value.content) arguments))
  | [], _ => .ok rfl
  | _ :: _, reads =>
    .bind (whileOpen_argument (reads _ List.mem_cons_self)) fun _ =>
      .bind (whileOpen_arguments fun other later => reads other (List.mem_cons_of_mem _ later))
        fun _ => .ok rfl

section Programs

variable (shut : ∀ w reply after, handler.close w = some (reply, after) → after.teardown.closed = true)

include shut

private theorem whileOpen_close {good : Reply CloseError Unit → Prop} :
    handler.close.WhileOpen invariant good := by
  intro w reply after ran opened
  rw [shut w reply after ran] at opened
  cases opened

/-- A program keeps the invariant if its reads do, or if it reads nothing. -/
theorem keeps_exec {program : Program σ V α}
    (reads : program.ReadFree ∨
      ∀ identifier, (handler.read identifier).WhileOpen invariant fun _ => True) :
    (program.exec scope handler).WhileOpen invariant fun _ => True := by
  induction program with
  | finish result => exact .ok trivial
  | fail fault => exact .error trivial
  | panic text =>
    refine .rest fun w _ _ ran => ?_
    cases ran
    exact ⟨rfl, rfl, rfl, trivial⟩
  | read slot next ih =>
    have each := reads.resolve_left id
    refine .keeps_andThen (.attempt ?_) fun answer => ih answer (.inr each)
    exact .ite (each slot) (.error trivial)
  | close next ih =>
    exact .keeps_andThen (.attempt (whileOpen_close shut))
      fun answer => ih answer (reads.imp_left (· answer))
  | release next ih => exact fun w => ih reads { w with held := false }
  | inspect next ih => exact fun w => ih (scope.view w) (reads.imp_left (· _)) w
  | update change next ih =>
    exact fun w => ih w.host (reads.imp_left (· _)) { w with host := change w.host }

theorem whileOpen_runRecipe (refines : handler.Refines scope.unbounded) {look : α → β}
    {outcome : Except Fault β} {recipe : Program σ V α} (readFree : recipe.ReadFree)
    (yields : recipe.Yields scope look outcome) (slot : String) :
    (scope.runRecipe handler slot recipe).WhileOpen invariant
      (Reply.Shows look (outcome.mapError (·.atSlot slot))) := by
  refine .mapError _ fun w reply after ran opened => ?_
  obtain ⟨before, alive, keeps⟩ := keeps_exec shut (.inl readFree) w reply after ran opened
  have unbounded := follows_self scope recipe handler scope.unbounded refines.simulates w reply after ran
  exact ⟨before, alive, fun holds => ⟨(keeps holds).1, yields w reply after unbounded opened⟩⟩

section Closers

variable (stays : ∀ identifier, (handler.read identifier).Stays)

include stays

theorem stays_closeInstance (value : Instance V) :
    (scope.closeInstance handler value : ScopeStep σ V ε (Except Fault Unit)).Stays := by
  unfold closeInstance
  split
  · exact .attempt (keeps_exec shut (.inr stays))
  · exact .ok trivial

private theorem whileOpen_own (means : scope.Means meaning) (slot : String) (value : Instance V) :
    (scope.own handler slot value).WhileOpen invariant (Reply.Shows id
      (if meaning.closeable (meaning.look value.content) then .ok () else .error (.missingCloser slot))) := by
  unfold own
  rw [means.closeable]
  split
  · intro w reply after ran opened
    unfold register at ran
    split at ran
    next closed =>
      -- What arrives late is closed at once, which does not open the scope again.
      have late := Effect.WhileOpen.keeps_andThen (stays_closeInstance shut stays value)
        (fun _ => Effect.WhileOpen.error trivial) w reply after ran opened
      exact absurd late.1 (by simp [closed])
    next =>
      cases ran
      exact ⟨opened, rfl, fun holds => ⟨holds, rfl⟩⟩
  · exact .error rfl

end Closers

variable (refines : handler.Refines scope.unbounded) (means : scope.Means meaning)
  (readFree : scope.recipes.All Program.ReadFree) {slot : CachedSlot}
  (recipes : scope.recipes.require slot.recipe.callable = .ok ())
  (reads : ∀ next ∈ (Slot.cached slot).eagerDependencies,
    (handler.read next).WhileOpen invariant (shows meaning (read next)))

include refines means readFree recipes reads

private theorem whileOpen_produce (values : List (Arg V)) :
    (scope.produce handler slot values).WhileOpen invariant
      (shows meaning (meaning.produce read slot (values.map (Arg.datum meaning.look)))) := by
  unfold produce Meaning.produce
  cases called : slot.recipe with
  | constructor type =>
    rw [called] at recipes
    obtain ⟨recipe, found⟩ := RecipeTable.exists_constructor recipes
    dsimp only
    rw [found, Effect.ofExcept_ok_andThen]
    exact .pass (whileOpen_runRecipe shut refines (readFree.constructor found _)
      (means.constructors type recipe found _) _) whileOpen_instance
  | provider holder type method =>
    rw [called] at recipes
    obtain ⟨recipe, found⟩ := RecipeTable.exists_method recipes
    have held : holder ∈ (Slot.cached slot).eagerDependencies := by simp [Slot.eagerDependencies, called]
    refine .bind (reads holder held) fun receiver => ?_
    rw [found, Effect.ofExcept_ok_andThen]
    refine .bind (whileOpen_runRecipe shut refines (readFree.method found receiver _)
      (means.methods type method recipe found receiver _) _) fun made => ?_
    cases made with
    | some made => exact whileOpen_instance made
    | none => exact .error rfl

private theorem whileOpen_create (stays : ∀ identifier, (handler.read identifier).Stays) :
    (scope.create handler slot).WhileOpen invariant (shows meaning (meaning.create read slot)) := by
  refine whileOpen_checkOpen (.bind (whileOpen_arguments fun argument listed next eager => ?_) fun values =>
    .bind (whileOpen_produce shut refines means readFree recipes reads values) fun value => ?_)
  · exact reads next (List.mem_append_right _ (List.mem_filterMap.mpr ⟨argument, listed, eager⟩))
  · cases slot.closeOnTeardown with
    | false => exact .ok rfl
    | true =>
      have owned : ((scope.own handler slot.identifier value).andThen fun _ => .ok value).WhileOpen
          invariant (shows meaning ((if meaning.closeable (meaning.look value.content) then .ok ()
            else .error (.missingCloser slot.identifier)) >>= fun _ => .ok (meaning.look value.content))) :=
        .bind (whileOpen_own shut stays means slot.identifier value) fun _ => .ok rfl
      cases closeable : meaning.closeable (meaning.look value.content) <;>
      · rw [closeable] at owned
        exact owned

end Programs

end Rules

section Cells

/-! ## Cells with the outcomes of their slots -/

variable {scope : Scope σ V} {handler : Handler σ V} {meaning : Meaning V D}
  {checked : scope.check = .ok ()} {marks : Marks} {w : World σ V} {slot : String}

/-- Settled cells hold what their slots evaluate to, and only marked slots are being created; nothing
else of the marks matters. -/
structure Evaluated (scope : Scope σ V) (meaning : Meaning V D) (checked : scope.check = .ok ())
    (marks : Marks) (cells : String → Cell (Instance V)) : Prop where
  creating : ∀ slot, cells slot = .creating → marks.creating slot
  settled : ∀ slot result, (cells slot).outcome? = some result →
    shows meaning (scope.evaluate meaning checked slot) (.ofExcept result)

/-- A slot can be read where neither it nor what it reads is being created. -/
abbrev Readable (scope : Scope σ V) (meaning : Meaning V D) (checked : scope.check = .ok ())
    (marks : Marks) (slot : String) (cells : String → Cell (Instance V)) : Prop :=
  scope.Apart marks slot ∧ scope.Evaluated meaning checked marks cells

namespace Evaluated

private theorem mark (evaluated : scope.Evaluated meaning checked marks w.cells) :
    scope.Evaluated meaning checked (marks.inside slot) (w.setCell slot .creating).cells where
  creating other creating := by
    by_cases same : other = slot
    · exact .inl same
    · exact .inr (evaluated.creating other (by simpa [World.setCell, same] using creating))
  settled other result settled := by
    by_cases same : other = slot
    · simp [World.setCell, same, Cell.outcome?] at settled
    · exact evaluated.settled other result (by simpa [World.setCell, same] using settled)

private theorem settle {reply : Reply RuntimeError (Instance V)}
    (evaluated : scope.Evaluated meaning checked (marks.inside slot) w.cells)
    (shown : shows meaning (scope.evaluate meaning checked slot) reply) :
    scope.Evaluated meaning checked marks (w.setCell slot (.settled slot reply)).cells where
  creating other creating := by
    by_cases same : other = slot
    · cases reply <;> simp [World.setCell, same, Cell.settled] at creating
    · have inside := evaluated.creating other (by simpa [World.setCell, same] using creating)
      exact inside.resolve_left same
  settled other result settled := by
    by_cases same : other = slot
    · subst same
      cases reply with
      | ok value =>
        obtain rfl : .ok value = result := by
          simpa [World.setCell, Cell.settled, Cell.outcome?] using settled
        exact shown
      | error failure =>
        obtain rfl : .error failure = result := by
          simpa [World.setCell, Cell.settled, Cell.outcome?] using settled
        exact shown
      | panic text => exact shown.elim
    · exact evaluated.settled other result (by simpa [World.setCell, same] using settled)

end Evaluated

/-- Reads give what evaluation tells, and the scope is closed after a closing. -/
structure Evaluates (scope : Scope σ V) (meaning : Meaning V D) (checked : scope.check = .ok ())
    (handler : Handler σ V) : Prop where
  read (marks : Marks) (slot : String) : (handler.read slot).WhileOpen
    (scope.Readable meaning checked marks slot) (shows meaning (scope.evaluate meaning checked slot))
  shut : ∀ w reply after, handler.close w = some (reply, after) → after.teardown.closed = true

theorem Evaluates.stays (evaluates : scope.Evaluates meaning checked handler) (slot : String) :
    (handler.read slot).Stays :=
  (evaluates.read ⟨fun _ => False, false, 0⟩ slot).stays

variable (evaluates : scope.Evaluates meaning checked handler) (refines : handler.Refines scope.unbounded)
  (means : scope.Means meaning) (readFree : scope.recipes.All Program.ReadFree)

include evaluates refines means readFree

private theorem evaluates_access {slot : CachedSlot}
    (served : scope.served? slot.identifier = some (.cached slot)) :
    (scope.access handler slot).WhileOpen (scope.Readable meaning checked marks slot.identifier)
      (shows meaning (scope.evaluate meaning checked slot.identifier)) := by
  have acyclic := Plan.acyclic_of_checkCycles (checkCycles_of_check checked)
  have outcome : scope.evaluate meaning checked slot.identifier =
      meaning.create (scope.evaluate meaning checked) slot := by rw [evaluate_eq, served, Meaning.outcome]
  intro w reply after ran opened
  rcases access_cases ran with ⟨answer, answered, rfl, rfl⟩ | ⟨_, middle, created, rfl⟩
  · refine ⟨opened, rfl, ?_⟩
    rintro ⟨apart, evaluated⟩
    refine ⟨⟨apart, evaluated⟩, ?_⟩
    refine evaluated.settled slot.identifier answer ?_
    cases cell : after.cells slot.identifier with
    | empty => simp [cell, Cell.answer?] at answered
    | creating => exact (apart _ .refl (evaluated.creating _ cell)).elim
    | cached value => simpa [cell, Cell.answer?, Cell.outcome?] using answered
    | failed failure => simpa [cell, Cell.answer?, Cell.outcome?] using answered
  · have creation : (scope.create handler slot).WhileOpen
        (fun cells => scope.Apart marks slot.identifier ∧
          scope.Evaluated meaning checked (marks.inside slot.identifier) cells)
        (shows meaning (meaning.create (scope.evaluate meaning checked) slot)) := by
      refine whileOpen_create evaluates.shut refines means readFree
        (require_of_check checked (Plan.mem_callables_of_cached (mem_cached_of_served? served).1))
        (fun next listed => ?_) evaluates.stays
      have eager : scope.plan.Eager slot.identifier next :=
        (eager_iff_served? (supplied_of_check checked)).mpr ⟨_, served, listed⟩
      exact (evaluates.read (marks.inside slot.identifier) next).change
        (.imp_left (·.inside acyclic eager)) (fun before after => ⟨before.1, after.2⟩) id
    obtain ⟨before, alive, keeps⟩ := creation _ reply middle created opened
    refine ⟨before, alive, ?_⟩
    rintro ⟨apart, evaluated⟩
    obtain ⟨⟨_, inner⟩, shown⟩ := keeps ⟨apart, evaluated.mark⟩
    rw [outcome]
    exact ⟨⟨apart, inner.settle (outcome ▸ shown)⟩, shown⟩

private theorem evaluates_read (slot : String) : (scope.read handler slot).WhileOpen
    (scope.Readable meaning checked marks slot) (shows meaning (scope.evaluate meaning checked slot)) := by
  have supplied := supplied_of_check checked
  have acyclic := Plan.acyclic_of_checkCycles (checkCycles_of_check checked)
  rw [← evaluate_target slot]
  unfold read
  split
  next value served =>
    rw [evaluate_eq, served]
    exact .ok rfl
  next cached served =>
    obtain ⟨_, same⟩ := mem_cached_of_served? served
    rw [← same] at served ⊢
    refine (evaluates_access evaluates refines means readFree served).change
      (.imp_left fun apart other walk => apart other ?_) (fun before after => ⟨before.1, after.2⟩) id
    exact (reaches_follow supplied _ slot).trans (same ▸ walk)
  next target served => exact (target_not_aliased supplied acyclic slot target served).elim
  next unserved =>
    rw [evaluate_eq, unserved]
    exact .error rfl

omit refines means readFree

private theorem stays_closeAll : (owned : List (String × Instance V)) →
    (Teardown.closeAll (scope.closeInstance handler) owned :
      ScopeStep σ V CloseError (List CloseFailure)).Stays
  | [] => .ok trivial
  | (_, resource) :: rest =>
    .keeps_andThen (stays_closeInstance evaluates.shut evaluates.stays resource) fun outcome =>
      .keeps_andThen (stays_closeAll rest) fun failures => by
        cases outcome <;> exact .ok trivial

private theorem shut_close {w after : World σ V} {reply : Reply CloseError Unit}
    (ran : scope.close handler w = some (reply, after)) : after.teardown.closed = true := by
  by_contra opened
  have opened : after.teardown.closed = false := by simpa using opened
  unfold close at ran
  split at ran
  next closed =>
    cases ran
    exact absurd opened (by simp [closed])
  next =>
    have begun := Effect.WhileOpen.keeps_andThen (stays_closeAll evaluates w.teardown.owned)
      (fun failures => .ofExcept trivial) _ reply after ran opened
    exact absurd begun.1 (by simp [Teardown.begun])

end Cells

variable {scope : Scope σ V} {meaning : Meaning V D} {checked : scope.check = .ok ()}

private theorem evaluates_handler (means : scope.Means meaning)
    (readFree : scope.recipes.All Program.ReadFree)
    (level : Nat) : scope.Evaluates meaning checked (scope.handler level) := by
  induction level with
  | zero => exact ⟨fun _ _ _ _ _ ran => (by cases ran), fun _ _ _ ran => (by cases ran)⟩
  | succ level ih =>
    exact ⟨fun marks slot => evaluates_read ih (refines_unbounded scope level) means readFree slot,
      fun w reply after ran => shut_close ih ran⟩

section Operations

/-! ## Operations -/

variable {handler : Handler σ V} {w after : World σ V}

def idle : Marks := ⟨fun _ => False, false, 0⟩

/-- If the scope is open afterwards it was open before, and its cells still hold the outcomes of their
slots. -/
def Holds (scope : Scope σ V) (meaning : Meaning V D) (checked : scope.check = .ok ())
    (w after : World σ V) : Prop :=
  after.teardown.closed = false → w.teardown.closed = false ∧ after.alive = w.alive ∧
    (scope.Evaluated meaning checked idle w.cells → scope.Evaluated meaning checked idle after.cells)

theorem Holds.refl (w : World σ V) : scope.Holds meaning checked w w := fun opened => ⟨opened, rfl, id⟩

theorem Holds.trans {middle : World σ V} (first : scope.Holds meaning checked w middle)
    (second : scope.Holds meaning checked middle after) : scope.Holds meaning checked w after := by
  intro opened
  obtain ⟨between, alive', kept'⟩ := second opened
  obtain ⟨before, alive, kept⟩ := first between
  exact ⟨before, alive'.trans alive, kept' ∘ kept⟩

private theorem within_holds {step : ScopeStep σ V ε α} {good : Reply ε α → Prop}
    (open? : step.WhileOpen (scope.Evaluated meaning checked idle) good) :
    step.Within (scope.Holds meaning checked) := by
  intro w reply after ran opened
  obtain ⟨before, alive, keeps⟩ := open? w reply after ran opened
  exact ⟨before, alive, fun evaluated => (keeps evaluated).1⟩

theorem Evaluates.read_idle (evaluates : scope.Evaluates meaning checked handler) (slot : String) :
    (handler.read slot).WhileOpen (scope.Evaluated meaning checked idle)
      (shows meaning (scope.evaluate meaning checked slot)) :=
  (evaluates.read idle slot).change (fun evaluated => ⟨fun _ _ => id, evaluated⟩)
    (fun _ readable => readable.2) id

theorem whileOpen_checkArity {invariant : (String → Cell (Instance V)) → Prop} (slot : String)
    (expected actual : Nat) :
    (checkArity slot expected actual : ScopeStep σ V RuntimeError Unit).WhileOpen invariant
      fun _ => True := by
  unfold checkArity
  split
  · exact .ok trivial
  · exact .error trivial

theorem whileOpen_checkAlive {invariant : (String → Cell (Instance V)) → Prop} (slot : String) :
    (checkAlive slot : ScopeStep σ V RuntimeError Unit).WhileOpen invariant fun _ => True :=
  .ite (.ok trivial) (.error trivial)

variable (evaluates : scope.Evaluates meaning checked handler) (refines : handler.Refines scope.unbounded)
  (means : scope.Means meaning) (readFree : scope.recipes.All Program.ReadFree)

include evaluates refines means readFree

private theorem keeps_callFactory (slot : FactorySlot) (given : List (Instance V)) :
    (scope.callFactory handler slot given).WhileOpen (scope.Evaluated meaning checked idle)
      fun _ => True := by
  refine .keeps_andThen (whileOpen_checkArity _ _ _) fun _ =>
    .keeps_andThen (whileOpen_checkAlive _) fun _ => whileOpen_checkOpen ?_
  refine .keeps_andThen (whileOpen_arguments fun _ _ next _ => evaluates.read_idle next) fun values => ?_
  refine .ofExcept_andThen (fun recipe found => ?_) fun _ _ => trivial
  refine .keeps_andThen (whileOpen_runRecipe evaluates.shut refines (readFree.constructor found _)
    (means.constructors _ recipe found _) _) fun made => ?_
  exact keeps_instance made

private theorem keeps_callInjector (slot : InjectorSlot) (given : List (Instance V)) :
    (scope.callInjector handler slot given).WhileOpen (scope.Evaluated meaning checked idle)
      fun _ => True := by
  refine .keeps_andThen (whileOpen_checkArity _ _ _) fun _ =>
    .keeps_andThen (whileOpen_checkAlive _) fun _ => whileOpen_checkOpen ?_
  refine .keeps_andThen (evaluates.read_idle slot.receiver) fun receiver => ?_
  refine .keeps_andThen (whileOpen_arguments fun _ _ next _ => evaluates.read_idle next) fun values => ?_
  refine .ofExcept_andThen (fun recipe found => ?_) fun _ _ => trivial
  refine .keeps_andThen (whileOpen_runRecipe evaluates.shut refines (readFree.method found receiver _)
    (means.methods _ _ recipe found receiver _) _) fun made => ?_
  cases made with
  | some made => exact .keeps_andThen (keeps_instance made) fun _ => .ok trivial
  | none =>
    dsimp only
    split
    · exact .ok trivial
    · exact .error trivial

private theorem holds_operate {operation : Operation V} {answer : Answer V} {middle : World σ V}
    (performed : scope.performWith handler operation w = some (answer, middle))
    {reply : Reply CloseError Unit}
    (settled : settleWith handler middle = some (reply, after)) :
    scope.Holds meaning checked w after := by
  have shut {w after : World σ V} {reply : Reply CloseError Unit}
      (ran : handler.close w = some (reply, after)) : scope.Holds meaning checked w after :=
    fun opened => absurd opened (by simp [evaluates.shut _ _ _ ran])
  have performing : scope.Holds meaning checked w middle :=
    within_performWith
      (fun slot _ => within_holds (.ite
        ((evaluates.read_idle slot).change id (fun _ => id) fun _ => trivial) (.error trivial)))
      (fun slot given _ => within_holds (keeps_callFactory evaluates refines means readFree slot given))
      (fun slot given _ => within_holds (keeps_callInjector evaluates refines means readFree slot given))
      (fun _ _ _ ran => shut ran) (fun _ opened => ⟨opened, rfl, id⟩) performed
  refine performing.trans ?_
  unfold settleWith at settled
  split at settled
  · cases settled
    exact .refl _
  · exact fun opened => absurd opened (by simp [evaluates.shut _ _ _ settled])

private theorem holds_runWith {operations : List (Operation V)} {answers : List (Answer V)}
    (ran : scope.runWith handler operations w = some (answers, after)) :
    scope.Holds meaning checked w after :=
  within_runWith Holds.refl Holds.trans
    (fun _ _ _ _ _ _ _ performed settled =>
      holds_operate evaluates refines means readFree performed settled) ran

end Operations

/-- Whatever has been asked of a scope before, an answer to a read that leaves the scope open is what
the slot evaluates to, and so are the outcomes in its settled cells. Evaluation knows nothing of
hosts and earlier operations, so no outcome depends on the order of accesses. -/
theorem read_eq_evaluate (checked : scope.check = .ok ()) (readFree : scope.recipes.All Program.ReadFree)
    (means : scope.Means meaning) (host : σ) (operations : List (Operation V)) (identifier : String)
    (opened : (scope.perform (.read identifier)
      (scope.run operations (start host)).2).2.teardown.closed = false) :
    (scope.perform (.read identifier) (scope.run operations (start host)).2).1.Shows meaning.look
        (scope.evaluate meaning checked identifier) ∧
      ∀ slot result, ((scope.perform (.read identifier)
          (scope.run operations (start host)).2).2.cells slot).outcome? = some result →
        Reply.Shows (fun value => meaning.look value.content) (scope.evaluate meaning checked slot)
          (.ofExcept result) := by
  generalize ran : scope.run operations (start host) = run at opened ⊢
  obtain ⟨answers, w⟩ := run
  have held : scope.Holds meaning checked (start host) w := by
    have running :=
      runWith_handler operations (Nat.lt_succ_self (scope.potential (start host : World σ V)))
    rw [ran] at running
    exact holds_runWith (evaluates_handler means readFree _) (refines_unbounded scope _) means
      readFree running
  have performed := performWith_handler (.read identifier) (Nat.lt_succ_self (scope.potential w))
  generalize scope.perform (.read identifier) w = last at performed opened ⊢
  obtain ⟨answer, after⟩ := last
  obtain ⟨⟨reply, after⟩, found, rfl, rfl⟩ := by
    simpa only [performWith, Option.map_eq_some_iff, Prod.ext_iff] using performed
  have evaluates : scope.Evaluates meaning checked (scope.handler (scope.potential w + 1)) :=
    evaluates_handler means readFree _
  have closed : w.teardown.closed = false :=
    (Effect.WhileOpen.ite (evaluates.stays identifier) (.error trivial) w reply after found opened).1
  obtain ⟨_, alive, kept⟩ := held closed
  have read : (scope.handler (scope.potential w + 1)).read identifier w = some (reply, after) := by
    simpa only [Handler.readAlive, alive, start, ↓reduceIte] using found
  have fresh : scope.Evaluated meaning checked idle (start host : World σ V).cells := by
    constructor <;> simp [start, Cell.outcome?]
  obtain ⟨_, _, keeps⟩ := evaluates.read_idle identifier w reply after read opened
  obtain ⟨evaluated, shown⟩ := keeps (kept fresh)
  refine ⟨?_, evaluated.settled⟩
  cases reply with
  | ok value => exact shown
  | error failure => exact shown
  | panic text => exact shown

end Scope

/-- A loaf of two helpings of dough, baked in an oven that goes by another name, and toast of it. -/
def Plan.bakery : Plan where
  package := "demo"
  scopeName := "Bakery"
  values := [⟨"oven", "Oven", "Oven", .declared⟩]
  aliases := [⟨"stove", "Stove", "Stove", "oven"⟩]
  cached := [
    ⟨0, "dough", "Dough", "Dough", .constructor (.named "Dough"), [], false⟩,
    ⟨1, "loaf", "Loaf", "Loaf", .provider "stove" (.named "Oven") "bake", [.slot "dough", .slot "dough"],
      false⟩,
    ⟨2, "toast", "Toast", "Toast", .constructor (.named "Toast"), [.slot "loaf"], true⟩]
  factories := []
  injectors := []

namespace Scope

/-- A bakery that counts what it makes and burns its toast. -/
def bakery : Scope Nat Nat where
  plan := .bakery
  values := .ofList [("oven", 7)]
  recipes := {
    constructors := [
      ("Dough", fun _ => .update (· + 1) fun _ => .finish (.fresh 1)),
      ("Toast", fun _ => .fail (.foreign "burnt"))]
    methods := [
      (("Oven", "bake"), fun _ arguments =>
        .update (· + 1) fun _ => .finish (some (.fresh arguments.values.length)))] }
  host := {
    typeName := fun _ => "Food"
    factoryName := "Factory"
    injectorName := "Injector"
    closer := fun _ => none }

/-- What the bakery makes of things, for whom one dough is as good as another. -/
def baking : Meaning Nat (Content Nat) where
  look := id
  closeable _ := false
  construct type _ _ := if type.name = "Dough" then .ok (.host 1) else .error (.foreign "burnt")
  call _ _ _ _ values := .ok (some (.host values.length))

private theorem means_bakery : bakery.Means baking where
  closeable content := by cases content <;> rfl
  constructors type recipe found arguments := by
    unfold RecipeTable.findConstructor at found
    by_cases dough : type.name = "Dough"
    · rw [dough] at found
      cases found
      rintro w _ _ ⟨⟩ _
      simp [Reply.Shows, baking, dough, Made.look]
    · by_cases toast : type.name = "Toast"
      · rw [toast] at found
        cases found
        rintro w _ _ ⟨⟩ _
        simp [Reply.Shows, baking, dough]
      · simp [bakery, List.lookup_cons, beq_eq_false_iff_ne.mpr dough, beq_eq_false_iff_ne.mpr toast] at found
  methods type name recipe found receiver arguments := by
    unfold RecipeTable.findMethod at found
    by_cases bake : (type.name, name) = ("Oven", "bake")
    · rw [bake] at found
      cases found
      rintro w _ _ ⟨⟩ _
      simp [Reply.Shows, baking, Made.look]
    · simp [bakery, List.lookup_cons, beq_eq_false_iff_ne.mpr bake] at found

private theorem readFree_bakery : bakery.recipes.All Program.ReadFree := by
  refine ⟨fun entry member arguments => ?_, fun entry member receiver arguments => ?_⟩
  · rcases List.mem_pair.mp member with rfl | rfl
    · exact fun _ => trivial
    · trivial
  · obtain rfl := List.mem_singleton.mp member
    exact fun _ => trivial

theorem read_eq_evaluate_bakery :
    let operations : List (Operation Nat) := [.read "toast", .read "dough", .read "toast"]
    let last := bakery.perform (.read "toast") (bakery.run operations (start 0)).2
    let burnt := RuntimeError.creationFailed "toast" "burnt"
    bakery.recipes.All Program.ReadFree ∧ bakery.Means baking ∧ last.2.teardown.closed = false ∧
      (bakery.run operations (start 0)).1 =
        [.failed burnt, .shared ⟨.made 0, .host 1⟩, .failed burnt] ∧
      ∃ checked : bakery.check = .ok (), bakery.evaluate baking checked "toast" = .error burnt ∧
        bakery.evaluate baking checked "loaf" = .ok (.host 2) := by
  intro operations last burnt
  have checked : bakery.check = .ok () := check_of_checkCycles (by cbv)
  have opened : last.2.teardown.closed = false := by rfl
  obtain ⟨shown, settled⟩ :=
    read_eq_evaluate checked readFree_bakery means_bakery 0 operations "toast" opened
  exact ⟨readFree_bakery, means_bakery, opened, by rfl, checked, shown,
    settled "loaf" (.ok ⟨.made 1, .host 2⟩) (by rfl)⟩

end Scope

end Wiring
