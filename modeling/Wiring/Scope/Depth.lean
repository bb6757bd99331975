import Wiring.Counting
import Wiring.Scope.Access

/-! # How deeply a scope nests

A request nests inside another only from within a creation or a closing. A creation has found its
cell empty and a cell never becomes empty again; closing begins once. So the potential of the
world bounds the depth, no step raises it, and a level above the potential always has an answer.

Main statement: `Scope.answers_handler`, the handler of a level answers every request from a world
whose potential is below the level.
-/

namespace Wiring

variable {σ V ε ε' α β : Type}

/-- From a world whose measure is below the bound the step has an answer, and it does not raise
the measure. -/
def Effect.Answers {W : Type} (measure : W → Nat) (bound : Nat) (step : Effect W ε α) : Prop :=
  ∀ w, measure w < bound →
    ∃ reply after, step w = some (reply, after) ∧ measure after ≤ measure w

namespace Effect.Answers

variable {W : Type} {measure : W → Nat} {bound : Nat}

theorem ok (value : α) : Answers measure bound (Effect.ok value : Effect W ε α) :=
  fun w _ => ⟨_, w, rfl, Nat.le_refl _⟩

theorem error (error : ε) : Answers measure bound (Effect.error error : Effect W ε α) :=
  fun w _ => ⟨_, w, rfl, Nat.le_refl _⟩

theorem panic (text : String) : Answers measure bound (Effect.panic text : Effect W ε α) :=
  fun w _ => ⟨_, w, rfl, Nat.le_refl _⟩

theorem get : Answers measure bound (Effect.get : Effect W ε W) :=
  fun w _ => ⟨_, w, rfl, Nat.le_refl _⟩

theorem modify {change : W → W} (lower : ∀ w, measure (change w) ≤ measure w) :
    Answers measure bound (Effect.modify change : Effect W ε Unit) :=
  fun w _ => ⟨_, change w, rfl, lower w⟩

theorem ofExcept : (result : Except ε α) →
    Answers measure bound (Effect.ofExcept result : Effect W ε α)
  | .ok value => ok value
  | .error failure => error failure

/-- A sequence has an answer if its parts have. -/
theorem andThen {first : Effect W ε α} {next : α → Effect W ε β}
    (start : Answers measure bound first) (rest : ∀ value, Answers measure bound (next value)) :
    Answers measure bound (first.andThen next) := by
  intro w below
  obtain ⟨reply, middle, ran, lower⟩ := start w below
  cases reply with
  | ok value =>
    obtain ⟨reply, after, ended, lowest⟩ := rest value middle (by omega)
    exact ⟨reply, after, by simp [Effect.andThen, ran, ended], by omega⟩
  | error failure => exact ⟨.error failure, middle, by simp [Effect.andThen, ran], lower⟩
  | panic text => exact ⟨.panic text, middle, by simp [Effect.andThen, ran], lower⟩

theorem mapError {step : Effect W ε α} (change : ε → ε') (answers : Answers measure bound step) :
    Answers measure bound (step.mapError change) := by
  intro w below
  obtain ⟨reply, after, ran, lower⟩ := answers w below
  exact ⟨_, after, Effect.mapError_eq_some.mpr ⟨reply, ran, rfl⟩, lower⟩

theorem attempt {step : Effect W ε α} (answers : Answers measure bound step) :
    Answers measure bound (step.attempt : Effect W ε' (Except ε α)) := by
  intro w below
  obtain ⟨reply, after, ran, lower⟩ := answers w below
  exact ⟨_, after, Effect.attempt_eq_some.mpr ⟨reply, ran, rfl⟩, lower⟩

theorem ite {step other : Effect W ε α} (test : W → Bool)
    (yes : Answers measure bound step) (no : Answers measure bound other) :
    Answers measure bound (fun w => if test w then step w else other w) := by
  intro w below
  cases h : test w
  · simpa only [Bool.false_eq_true, ↓reduceIte, h] using no w below
  · simpa only [↓reduceIte, h] using yes w below

theorem closeAll {ρ : Type} {close : ρ → Effect W ε (Except Fault Unit)}
    (each : ∀ resource, Answers measure bound (close resource)) :
    (owned : List (String × ρ)) → Answers measure bound (Teardown.closeAll close owned)
  | [] => ok _
  | (_, resource) :: rest =>
    andThen (each resource) fun outcome => andThen (closeAll each rest) fun failures => by
      cases outcome <;> exact ok _

end Effect.Answers

namespace World

variable {scope : Scope σ V}

/-- Settling or marking a cell never makes it empty. -/
theorem potential_setCell_le (w : World σ V) (slot : String) {content : Cell (Instance V)}
    (filled : content.isEmpty = false) :
    scope.potential (w.setCell slot content) ≤ scope.potential w := by
  refine Nat.add_le_add (List.countP_mono_left fun other _ => ?_) (Nat.le_refl _)
  simp only [setCell]
  split <;> simp_all

/-- Marking the empty cell of a slot of the plan lowers the potential. -/
theorem potential_setCell_lt {w : World σ V} {slot : CachedSlot}
    (member : slot ∈ scope.plan.cached) (empty : (w.cells slot.identifier).isEmpty = true)
    {content : Cell (Instance V)} (filled : content.isEmpty = false) :
    scope.potential (w.setCell slot.identifier content) < scope.potential w := by
  refine Nat.add_lt_add_of_lt_of_le (countP_lt_of_imp member (fun other _ => ?_) ?_ empty)
    (Nat.le_refl _)
  · simp only [setCell]
    split <;> simp_all
  · simp [setCell, filled]

end World

namespace Scope

variable {scope : Scope σ V} {handler : Handler σ V} {bound : Nat}

/-- Both requests are answered below the bound. -/
structure Answering (scope : Scope σ V) (bound : Nat) (handler : Handler σ V) : Prop where
  read (slot : String) : (handler.read slot).Answers scope.potential bound
  close : handler.close.Answers scope.potential bound

theorem answers_readAlive (answering : scope.Answering bound handler) (slot : String) :
    (handler.readAlive slot).Answers scope.potential bound :=
  .ite World.alive (answering.read slot) (.error _)

theorem answers_exec (answering : scope.Answering bound handler) (program : Program σ V α) :
    (program.exec scope handler).Answers scope.potential bound := by
  induction program with
  | finish result => exact .ok result
  | fail fault => exact .error fault
  | panic text => exact .panic text
  | read slot next ih => exact .andThen (.attempt (answers_readAlive answering slot)) ih
  | close next ih => exact .andThen (.attempt answering.close) ih
  | release next ih => exact .andThen (.modify fun _ => Nat.le_refl _) fun _ => ih
  | inspect next ih => exact .andThen .get fun w => ih _
  | update change next ih =>
    exact .andThen .get fun w => .andThen (.modify fun _ => Nat.le_refl _) fun _ => ih _

theorem answers_checkOpen (slot : String) :
    (checkOpen slot : ScopeStep σ V RuntimeError Unit).Answers scope.potential bound :=
  fun w below => Effect.Answers.ofExcept (w.teardown.checkOpen slot) w below

theorem answers_checkAlive (slot : String) :
    (checkAlive slot : ScopeStep σ V RuntimeError Unit).Answers scope.potential bound :=
  .ite World.alive (.ok ()) (.error _)

theorem answers_checkArity (slot : String) (expected actual : Nat) :
    (checkArity slot expected actual : ScopeStep σ V RuntimeError Unit).Answers
      scope.potential bound := by
  unfold checkArity
  split
  · exact .ok ()
  · exact .error _

theorem answers_instance (made : Made V) :
    (made.instance : ScopeStep σ V ε (Instance V)).Answers scope.potential bound := by
  cases made with
  | existing shared => exact .ok shared
  | fresh value => exact fun w _ => ⟨_, _, rfl, Nat.le_refl _⟩

private theorem answers_argument (answering : scope.Answering bound handler) (slot : String)
    (curried : List (Instance V)) (argument : Argument) :
    (Scope.argument handler slot curried argument).Answers scope.potential bound := by
  cases argument with
  | slot identifier => exact .andThen (answering.read identifier) fun value => .ok _
  | lazy identifier => exact .ok _
  | curried index =>
    simp only [Scope.argument]
    split
    · exact .ok _
    · exact .error _

/-- Reading arguments has an answer if reads have. -/
theorem answers_arguments (answering : scope.Answering bound handler) (slot : String)
    (curried : List (Instance V)) : (arguments : List Argument) →
    (Scope.arguments handler slot curried arguments).Answers scope.potential bound
  | [] => .ok []
  | argument :: rest =>
    .andThen (answers_argument answering slot curried argument) fun _ =>
      .andThen (answers_arguments answering slot curried rest) fun _ => .ok _

theorem answers_runRecipe (answering : scope.Answering bound handler) (slot : String)
    (recipe : Program σ V α) :
    (scope.runRecipe handler slot recipe).Answers scope.potential bound :=
  .mapError _ (answers_exec answering recipe)

theorem answers_closeInstance (answering : scope.Answering bound handler) (value : Instance V) :
    (scope.closeInstance handler value : ScopeStep σ V ε (Except Fault Unit)).Answers
      scope.potential bound := by
  unfold closeInstance
  split
  · exact .attempt (answers_exec answering _)
  · exact .ok _

private theorem answers_own (answering : scope.Answering bound handler) (slot : String)
    (value : Instance V) : (scope.own handler slot value).Answers scope.potential bound := by
  unfold own
  split
  · refine .ite (fun w : World σ V => w.teardown.closed) ?_ ?_
    · exact .andThen (answers_closeInstance answering value) fun _ => .error _
    · exact .modify fun w => Nat.le_refl _
  · exact .error _

private theorem answers_produce (answering : scope.Answering bound handler) (slot : CachedSlot)
    (values : List (Arg V)) :
    (scope.produce handler slot values).Answers scope.potential bound := by
  unfold produce
  split
  · exact .andThen (.ofExcept _) fun _ =>
      .andThen (answers_runRecipe answering _ _) answers_instance
  · refine .andThen (answering.read _) fun _ => .andThen (.ofExcept _) fun _ =>
      .andThen (answers_runRecipe answering _ _) fun made => ?_
    cases made with
    | some made => exact answers_instance made
    | none => exact .error _

private theorem answers_create (answering : scope.Answering bound handler) (slot : CachedSlot) :
    (scope.create handler slot).Answers scope.potential bound := by
  refine .andThen (answers_checkOpen _) fun _ =>
    .andThen (answers_arguments answering _ _ _) fun _ =>
      .andThen (answers_produce answering slot _) fun value => ?_
  split
  · exact .andThen (answers_own answering _ value) fun _ => .ok value
  · exact .ok value

/-- A creation nests one level deeper, and has one empty cell less to fill. -/
theorem answers_access (answering : scope.Answering bound handler) {slot : CachedSlot}
    (member : slot ∈ scope.plan.cached) :
    (scope.access handler slot).Answers scope.potential (bound + 1) := by
  intro w below
  unfold access
  split
  · exact Effect.Answers.ofExcept _ w below
  · next unanswered =>
    have marked : scope.potential (w.setCell slot.identifier .creating) < scope.potential w :=
      World.potential_setCell_lt member (Cell.isEmpty_of_answer? unanswered) rfl
    obtain ⟨reply, after, ran, lower⟩ :=
      answers_create answering slot (w.setCell slot.identifier .creating) (by omega)
    have settled : scope.potential
        (after.setCell slot.identifier (.settled slot.identifier reply)) ≤ scope.potential after :=
      World.potential_setCell_le _ _ (Cell.isEmpty_settled _ reply)
    exact ⟨reply, _, by rw [ran], by omega⟩

/-- What is served is an entry of the table. -/
theorem mem_entries_of_served? {identifier : String} {served : Served V}
    (found : scope.served? identifier = some served) : (identifier, served) ∈ scope.entries := by
  obtain ⟨later, earlier, split, _⟩ := List.lookup_eq_some_iff.mp found
  rw [← List.mem_reverse, split]
  simp

/-- A cached slot that is served is one of the plan, under this identifier. -/
theorem mem_cached_of_served? {identifier : String} {slot : CachedSlot}
    (served : scope.served? identifier = some (.cached slot)) :
    slot ∈ scope.plan.cached ∧ slot.identifier = identifier := by
  simpa [entries] using mem_entries_of_served? served

/-- A read needs one level more than those it asks for. -/
theorem answers_read (answering : scope.Answering bound handler) (identifier : String) :
    (scope.read handler identifier).Answers scope.potential (bound + 1) := by
  unfold read
  split
  · exact .ok _
  · next served => exact answers_access answering (mem_cached_of_served? served).1
  · exact .error _
  · exact .error _

/-- Closing nests one level deeper, and cannot begin again. -/
theorem answers_close (answering : scope.Answering bound handler) :
    (scope.close handler).Answers scope.potential (bound + 1) := by
  intro w below
  unfold close
  split
  · exact Effect.Answers.ok () w below
  · next opened =>
    have begun : scope.potential { w with teardown := .begun } < scope.potential w := by
      simp [potential, Teardown.begun, opened]
    have closing : Effect.Answers scope.potential bound
        (Effect.andThen (Teardown.closeAll (scope.closeInstance handler) w.teardown.owned)
          (fun failures => Effect.ofExcept (CloseError.ofFailures failures))) :=
      .andThen (.closeAll (answers_closeInstance answering) _) fun _ => .ofExcept _
    obtain ⟨reply, after, ran, lower⟩ := closing { w with teardown := .begun } (by omega)
    exact ⟨reply, after, ran, by omega⟩

/-- A factory call has an answer if reads have. -/
theorem answers_callFactory (answering : scope.Answering bound handler) (slot : FactorySlot)
    (given : List (Instance V)) :
    (scope.callFactory handler slot given).Answers scope.potential bound :=
  .andThen (answers_checkArity _ _ _) fun _ => .andThen (answers_checkAlive _) fun _ =>
    .andThen (answers_checkOpen _) fun _ => .andThen (answers_arguments answering _ _ _) fun _ =>
      .andThen (.ofExcept _) fun _ =>
        .andThen (answers_runRecipe answering _ _) answers_instance

/-- So has an injector call. -/
theorem answers_callInjector (answering : scope.Answering bound handler) (slot : InjectorSlot)
    (given : List (Instance V)) :
    (scope.callInjector handler slot given).Answers scope.potential bound := by
  refine .andThen (answers_checkArity _ _ _) fun _ => .andThen (answers_checkAlive _) fun _ =>
    .andThen (answers_checkOpen _) fun _ => .andThen (answering.read _) fun _ =>
      .andThen (answers_arguments answering _ _ _) fun _ => .andThen (.ofExcept _) fun _ =>
        .andThen (answers_runRecipe answering _ _) fun made => ?_
  cases made with
  | some made => exact .andThen (answers_instance made) fun value => .ok _
  | none =>
    show Effect.Answers _ _ (if _ then _ else _)
    split
    · exact .ok none
    · exact .error _

/-- The handler of a level answers below the level. -/
theorem answers_handler (scope : Scope σ V) : (level : Nat) →
    scope.Answering level (scope.handler level)
  | 0 => ⟨fun _ _ below => absurd below (Nat.not_lt_zero _),
      fun _ below => absurd below (Nat.not_lt_zero _)⟩
  | level + 1 => ⟨answers_read (answers_handler scope level),
      answers_close (answers_handler scope level)⟩

end Scope

end Wiring
