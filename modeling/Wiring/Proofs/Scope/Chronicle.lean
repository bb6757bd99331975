import Wiring.Proofs.Scope.Level
import Wiring.Scope.Opening

/-! # The chronicle of a run

A run answers its operations and leaves a world; what goes on inside of an operation is not seen.
A chronicle tells it: which reads are asked for and how they are answered, at any depth and by
whomever, which recipes are started, and which closers, and how these end. It is written by the
programs of the scope, each of which first notes that it is started, and by the handler, which notes
every read, so that the rules of the scope stay what they are.

Main statement: `Scope.exists_chronicle`, a run has a chronicle, which is written while the
operations are answered as they are without it.
-/

namespace Wiring

variable {σ τ ρ V ε α : Type}

/-- What a chronicle tells. -/
inductive Event (σ V : Type) where
  /-- A read of the identifier is asked for. -/
  | asked (identifier : String) (w : World σ V)
  /-- The read that was asked for in the world `before` is answered. -/
  | answered (identifier : String) (before : World σ V) (reply : Reply RuntimeError (Instance V))
      (after : World σ V)
  /-- A recipe is started for the slot; a cached slot is at this stage. -/
  | started (slot : String) (stage : Option CellState)
  /-- The closer of a value is started. -/
  | closing (value : V)
  /-- The closer of a value ends so. -/
  | closed (value : V) (reply : Reply Fault Unit)

/-- The world in which a read is asked for or answered. -/
def Event.world? : Event σ V → Option (World σ V)
  | asked _ w => some w
  | answered _ _ _ after => some after
  | started _ _ => none
  | closing _ => none
  | closed _ _ => none

/-- A closer is started or ends. -/
def Event.isClosing : Event σ V → Bool
  | asked _ _ => false
  | answered _ _ _ _ => false
  | started _ _ => false
  | closing _ => true
  | closed _ _ => true

/-- A closing is told of when it begins and when it has ended. -/
theorem Event.cases_of_isClosing {event : Event σ V} (closing : event.isClosing = true) :
    (∃ value, event = .closing value) ∨ ∃ value reply, event = .closed value reply := by
  cases event with
  | closing value => exact .inl ⟨value, rfl⟩
  | closed value reply => exact .inr ⟨value, reply, rfl⟩
  | _ => cases closing

/-- A world whose host keeps a chronicle beside its state. -/
abbrev Recorded (σ V : Type) := World (σ × List (Event σ V)) V

/-- The world without what the host keeps beside its state. -/
def World.plain (w : World (σ × ρ) V) : World σ V := w.map Prod.fst

def World.events (w : Recorded σ V) : List (Event σ V) := w.host.2

def World.note (w : Recorded σ V) (event : Event σ V) : Recorded σ V :=
  { w with host := (w.host.1, w.host.2 ++ [event]) }

namespace Program

/-- The same program beside something that it does not touch. -/
def lift : Program σ V α → Program (σ × ρ) V α
  | finish result => .finish result
  | fail fault => .fail fault
  | panic text => .panic text
  | read slot next => .read slot fun answer => (next answer).lift
  | close next => .close fun answer => (next answer).lift
  | release next => .release next.lift
  | inspect next => .inspect fun view => (next view).lift
  | update change next => .update (fun state => (change state.1, state.2)) fun before =>
      (next before.1).lift

/-- Writes an event down, then goes on as the program does. -/
def noting (event : ScopeView → Event σ V) (program : Program σ V α) :
    Program (σ × List (Event σ V)) V α :=
  .inspect fun view => .update (fun state => (state.1, state.2 ++ [event view])) fun _ => program.lift

/-- Does as the program does, and writes down how it ends. A request of the program that unwinds
takes this along. -/
def ending (event : Reply Fault α → Event σ V) :
    Program (σ × List (Event σ V)) V α → Program (σ × List (Event σ V)) V α
  | finish result => .update (fun state => (state.1, state.2 ++ [event (.ok result)])) fun _ =>
      .finish result
  | fail fault => .update (fun state => (state.1, state.2 ++ [event (.error fault)])) fun _ =>
      .fail fault
  | panic text => .update (fun state => (state.1, state.2 ++ [event (.panic text)])) fun _ =>
      .panic text
  | read slot next => .read slot fun answer => (next answer).ending event
  | close next => .close fun answer => (next answer).ending event
  | release next => .release (next.ending event)
  | inspect next => .inspect fun view => (next view).ending event
  | update change next => .update change fun before => (next before).ending event

/-- A closer that notes when it is started and how it ends. -/
def telling (value : V) (closer : Program σ V Unit) : Program (σ × List (Event σ V)) V Unit :=
  (closer.noting fun _ => .closing value).ending (.closed value)

end Program

/-- A recipe is started with these arguments. -/
def Event.start (arguments : Arguments V) (view : ScopeView) : Event σ V :=
  .started arguments.slot (view.state arguments.slot)

/-- Notes every read that is asked for, and its answer. -/
def Handler.noting (handler : Handler (σ × List (Event σ V)) V) :
    Handler (σ × List (Event σ V)) V where
  read identifier w :=
    match handler.read identifier (w.note (.asked identifier w.plain)) with
    | none => none
    | some (reply, after) => some (reply, after.note (.answered identifier w.plain reply after.plain))
  close := handler.close

namespace Scope

/-- The scope whose recipes and closers note that they are started, and its closers also how they
end. -/
def chronicled (scope : Scope σ V) : Scope (σ × List (Event σ V)) V where
  plan := scope.plan
  values := scope.values
  recipes := {
    constructors := scope.recipes.constructors.map fun entry =>
      (entry.1, fun arguments => (entry.2 arguments).noting (.start arguments))
    methods := scope.recipes.methods.map fun entry =>
      (entry.1, fun receiver arguments => (entry.2 receiver arguments).noting (.start arguments)) }
  host := {
    typeName := scope.host.typeName
    factoryName := scope.host.factoryName
    injectorName := scope.host.injectorName
    closer := fun value => (scope.host.closer value).map (.telling value) }

/-- Answers requests that nest at most this deeply, and notes the reads. -/
def chronicler (scope : Scope σ V) : Nat → Handler (σ × List (Event σ V)) V
  | 0 => ⟨fun _ => .starved, .starved⟩
  | level + 1 =>
    Handler.noting ⟨scope.chronicled.read (scope.chronicler level),
      scope.chronicled.close (scope.chronicler level)⟩

section Attending

/-! ## Operations with a given handler -/

/-- Performs an operation with these answers to the requests that can nest. -/
def performWith (scope : Scope σ V) (handler : Handler σ V) (operation : Operation V) (w : World σ V) :
    Option (Answer V × World σ V) :=
  match operation with
  | .read slot => (handler.readAlive slot w).map (.map (·.answer .shared .failed) id)
  | .callFactory slot given =>
    (scope.callFactory handler slot given w).map (.map (·.answer .shared .failed) id)
  | .callInjector slot given =>
    (scope.callInjector handler slot given w).map (.map (·.answer .ofOption .failed) id)
  | .close => (handler.close w).map (.map (·.answer (fun _ => .done) .unclosed) id)
  | .release => some (.done, { w with held := false })

/-- Closes a scope that nobody refers to any more. -/
def settleWith (handler : Handler σ V) : ScopeStep σ V CloseError Unit := fun w =>
  if w.held || !w.alive then Effect.ok () w else handler.close { w with alive := false }

/-- Performs operations in order, each to its end. -/
def runWith (scope : Scope σ V) (handler : Handler σ V) :
    List (Operation V) → World σ V → Option (List (Answer V) × World σ V)
  | [], w => some ([], w)
  | operation :: rest, w =>
    (scope.performWith handler operation w).bind fun performed =>
      (settleWith handler performed.2).bind fun settled =>
        (scope.runWith handler rest settled.2).map (.map (performed.1.settled settled.1 :: ·) id)

end Attending

/-- The answers of a run, and the world that it leaves together with its chronicle. -/
def chronicle (scope : Scope σ V) (host : σ) (operations : List (Operation V)) :
    Option (List (Answer V) × Recorded σ V) :=
  scope.chronicled.runWith (scope.chronicler (scope.potential (start host) + 1)) operations
    (start (host, []))

/-- The same from any world, as if nothing had been written down before. -/
def chronicleFrom (scope : Scope σ V) (w : World σ V) (operations : List (Operation V)) :
    Option (List (Answer V) × Recorded σ V) :=
  scope.chronicled.runWith (scope.chronicler (scope.potential w + 1)) operations
    (w.map fun host => (host, []))

end Scope

/-! ## A handler above the potential -/

namespace Scope

variable {scope : Scope σ V} {handler : Handler σ V} {level : Nat}

/-- An operation is performed by every level above the potential. -/
theorem exists_performWith (answering : scope.Answering level handler) (operation : Operation V)
    {w : World σ V} (below : scope.potential w < level) :
    ∃ answer after, scope.performWith handler operation w = some (answer, after) ∧
      scope.potential after ≤ scope.potential w := by
  cases operation with
  | read slot =>
    obtain ⟨reply, after, ran, lower⟩ := answers_readAlive answering slot w below
    exact ⟨_, after, by rw [performWith, ran]; rfl, lower⟩
  | callFactory slot given =>
    obtain ⟨reply, after, ran, lower⟩ := answers_callFactory answering slot given w below
    exact ⟨_, after, by simp only [performWith, ran]; rfl, lower⟩
  | callInjector slot given =>
    obtain ⟨reply, after, ran, lower⟩ := answers_callInjector answering slot given w below
    exact ⟨_, after, by simp only [performWith, ran]; rfl, lower⟩
  | close =>
    obtain ⟨reply, after, ran, lower⟩ := answering.close w below
    exact ⟨_, after, by rw [performWith, ran]; rfl, lower⟩
  | release => exact ⟨_, _, rfl, Nat.le_refl _⟩

theorem exists_settleWith (answering : scope.Answering level handler) {w : World σ V}
    (below : scope.potential w < level) :
    ∃ reply after, settleWith handler w = some (reply, after) ∧
      scope.potential after ≤ scope.potential w := by
  unfold settleWith
  split
  · exact ⟨.ok (), w, rfl, Nat.le_refl _⟩
  · exact answering.close { w with alive := false } below

private theorem exists_runWith (answering : scope.Answering level handler) (operations : List (Operation V))
    {w : World σ V} (below : scope.potential w < level) :
    ∃ answers last, scope.runWith handler operations w = some (answers, last) := by
  induction operations generalizing w with
  | nil => exact ⟨[], w, rfl⟩
  | cons operation rest ih =>
    obtain ⟨answer, middle, performed, lower⟩ := exists_performWith answering operation below
    obtain ⟨reply, after, settled, lowest⟩ := exists_settleWith answering (w := middle) (by omega)
    obtain ⟨answers, last, ran⟩ := ih (w := after) (by omega)
    refine ⟨answer.settled reply :: answers, last, ?_⟩
    simp only [runWith, performed, settled, ran, Option.bind_some, Option.map_some]
    rfl

/-- A level above the potential gives the answer of the lowest level that is sure to have one. -/
theorem handler_eq_runAbove (step : Handler σ V → ScopeStep σ V ε α)
    (answers : ∀ {bound : Nat} {handler : Handler σ V}, scope.Answering bound handler →
      (step handler).Answers scope.potential bound)
    (simulates : ∀ {first second : Handler σ V}, first.Simulates id second →
      (step first).Simulates (World.map id) (step second))
    {w : World σ V} (below : scope.potential w < level) :
    step (scope.handler level) w = some (scope.runAbove step answers w) := by
  rw [handler_eq_of_potential_lt step (fun refines => .of_simulates (simulates refines.simulates))
    (answers (answers_handler scope _)) (Nat.lt_succ_self _) below]
  exact (Option.some_get _).symm

/-- Every level above the potential performs an operation in the same way. -/
theorem performWith_handler (operation : Operation V) {w : World σ V}
    (below : scope.potential w < level) :
    scope.performWith (scope.handler level) operation w = some (scope.perform operation w) := by
  cases operation with
  | read slot =>
    simp only [performWith, perform]
    rw [handler_eq_runAbove (·.readAlive slot) (fun answering => answers_readAlive answering slot)
      (fun simulates => simulates_readAlive simulates slot) below]
    rfl
  | callFactory slot given =>
    simp only [performWith, perform]
    rw [handler_eq_runAbove (scope.callFactory · slot given)
      (fun answering => answers_callFactory answering slot given)
      (fun simulates => simulates_callFactory scope.mirrors_self simulates slot given) below]
    rfl
  | callInjector slot given =>
    simp only [performWith, perform]
    rw [handler_eq_runAbove (scope.callInjector · slot given)
      (fun answering => answers_callInjector answering slot given)
      (fun simulates => simulates_callInjector scope.mirrors_self simulates slot given) below]
    rfl
  | close =>
    simp only [performWith, perform]
    rw [handler_eq_runAbove (·.close) (·.close) (·.close) below]
    rfl
  | release => rfl

/-- Every such level also closes alike what nobody refers to any more. -/
theorem settleWith_handler {w : World σ V} (below : scope.potential w < level) :
    settleWith (scope.handler level) w = some (scope.settle w) := by
  unfold settleWith settle
  split
  · rfl
  · exact handler_eq_runAbove (w := { w with alive := false }) (·.close) (·.close) (·.close) below

/-- No operation raises the potential. -/
theorem potential_perform_le (scope : Scope σ V) (operation : Operation V) (w : World σ V) :
    scope.potential (scope.perform operation w).2 ≤ scope.potential w := by
  have below := Nat.lt_succ_self (scope.potential w)
  obtain ⟨answer, after, performed, lower⟩ :=
    exists_performWith (answers_handler scope _) operation below
  rw [performWith_handler operation below, Option.some_inj] at performed
  rwa [performed]

theorem potential_settle_le (scope : Scope σ V) (w : World σ V) :
    scope.potential (scope.settle w).2 ≤ scope.potential w := by
  have below := Nat.lt_succ_self (scope.potential w)
  obtain ⟨reply, after, settled, lower⟩ := exists_settleWith (answers_handler scope _) below
  rw [settleWith_handler below, Option.some_inj] at settled
  rwa [settled]

/-- A scope that the client refers to as long as it is alive need not be settled. -/
theorem settle_of_attended {w : World σ V} (attended : w.alive = true → w.held = true) :
    scope.settle w = (.ok (), w) := by
  refine if_pos ?_
  cases alive : w.alive with
  | true => rw [attended alive, Bool.true_or]
  | false => exact Bool.or_true w.held

/-- With a level above the potential, the operations are answered as in any run. -/
theorem runWith_handler (operations : List (Operation V)) {w : World σ V}
    (below : scope.potential w < level) :
    scope.runWith (scope.handler level) operations w = some (scope.run operations w) := by
  induction operations generalizing w with
  | nil => rfl
  | cons operation rest ih =>
    have lower := scope.potential_perform_le operation w
    have lowest := scope.potential_settle_le (scope.perform operation w).2
    simp only [runWith, performWith_handler operation below, Option.bind_some]
    rw [settleWith_handler (Nat.lt_of_le_of_lt lower below), Option.bind_some, ih (by omega)]
    rfl

/-- Operations are performed one after another. -/
theorem runWith_append (earlier later : List (Operation V)) (w : World σ V) :
    scope.runWith handler (earlier ++ later) w =
      (scope.runWith handler earlier w).bind fun ran =>
        (scope.runWith handler later ran.2).map (.map (ran.1 ++ ·) id) := by
  induction earlier generalizing w with
  | nil =>
    cases ran : scope.runWith handler later w with
    | none => simp [runWith, ran]
    | some last =>
      simp only [List.nil_append, runWith, Option.bind_some, ran]
      rfl
  | cons operation rest ih =>
    simp only [List.cons_append, runWith, ih]
    cases performed : scope.performWith handler operation w with
    | none => rfl
    | some answered =>
      cases settled : settleWith handler answered.2 with
      | none => simp [settled]
      | some middle =>
        simp only [Option.bind_some, settled, Option.map_bind, Option.bind_map]
        refine congrArg _ (funext fun ran => ?_)
        simp only [Function.comp_apply, Option.map_map]
        rfl

/-- Operations of mirrored scopes are performed alike. -/
theorem simulates_performWith {view : σ → τ} {other : Scope τ V} {second : Handler τ V}
    (mirrors : Mirrors view scope other) (simulates : handler.Simulates view second)
    (operation : Operation V) {w after : World σ V} {answer : Answer V}
    (performed : scope.performWith handler operation w = some (answer, after)) :
    other.performWith second operation (w.map view) = some (answer, after.map view) := by
  have mapped {ε α : Type} {first : ScopeStep σ V ε α} {step : ScopeStep τ V ε α}
      (same : first.Simulates (World.map view) step) {change : Reply ε α → Answer V}
      (ran : (first w).map (.map change id) = some (answer, after)) :
      (step (w.map view)).map (.map change id) = some (answer, after.map view) := by
    obtain ⟨⟨reply, middle⟩, found, rfl, rfl⟩ := by
      simpa only [Option.map_eq_some_iff, Prod.ext_iff] using ran
    rw [same _ _ _ found]
    rfl
  cases operation with
  | read slot => exact mapped (simulates_readAlive simulates slot) performed
  | callFactory slot given => exact mapped (simulates_callFactory mirrors simulates slot given) performed
  | callInjector slot given =>
    exact mapped (simulates_callInjector mirrors simulates slot given) performed
  | close => exact mapped simulates.close performed
  | release =>
    cases performed
    rfl

/-- What nobody refers to any more is closed alike. -/
theorem simulates_settleWith {view : σ → τ} {second : Handler τ V}
    (simulates : handler.Simulates view second) :
    Effect.Simulates (World.map view) (settleWith handler) (settleWith second) := by
  have closes : Effect.Simulates (World.map view)
      (fun w : World σ V => handler.close { w with alive := false })
      (fun w => second.close { w with alive := false }) :=
    fun w reply after ran => simulates.close _ reply after ran
  unfold settleWith
  exact .ite _ (fun _ => rfl) (.ok ()) closes

private theorem simulates_runWith {view : σ → τ} {other : Scope τ V} {second : Handler τ V}
    (mirrors : Mirrors view scope other) (simulates : handler.Simulates view second)
    (operations : List (Operation V)) {w last : World σ V} {answers : List (Answer V)}
    (ran : scope.runWith handler operations w = some (answers, last)) :
    other.runWith second operations (w.map view) = some (answers, last.map view) := by
  induction operations generalizing w answers last with
  | nil =>
    cases ran
    rfl
  | cons operation rest ih =>
    obtain ⟨⟨answer, middle⟩, performed, settling⟩ := Option.bind_eq_some_iff.mp ran
    obtain ⟨⟨reply, after⟩, settled, going⟩ := Option.bind_eq_some_iff.mp settling
    obtain ⟨⟨others, final⟩, ended, same⟩ := Option.map_eq_some_iff.mp going
    have later := ih ended
    have first := simulates_performWith mirrors simulates operation performed
    have between := simulates_settleWith simulates _ _ _ settled
    cases same
    simp only [runWith, first, between, later, Option.bind_some]
    rfl

end Scope

/-! ## The chronicle says what happens in the run -/

/-- Whatever programs ask for keeps this of the world, and so does all that leaves the teardown alone. -/
structure Handler.Maintains (handler : Handler σ V) (holds : World σ V → Prop) : Prop where
  reads {slot : String} {w after : World σ V} {reply : Reply RuntimeError (Instance V)} :
    holds w → handler.readAlive slot w = some (reply, after) → holds after
  closes {w after : World σ V} {reply : Reply CloseError Unit} :
    holds w → handler.close w = some (reply, after) → holds after
  silent {w after : World σ V} : holds w → after.teardown = w.teardown → holds after

/-- Nothing has to be known of the world. -/
theorem Handler.maintains_true (handler : Handler σ V) : handler.Maintains fun _ => True where
  reads _ _ := trivial
  closes _ _ := trivial
  silent _ _ := trivial

/-- Where this holds, something that programs ask for unwinds. -/
inductive Handler.Unwinds (handler : Handler σ V) (holds : World σ V → Prop) (text : String)
    (after : World σ V) : Prop
  | read {slot : String} {w : World σ V} :
      holds w → handler.readAlive slot w = some (.panic text, after) → Unwinds handler holds text after
  | close {w : World σ V} :
      holds w → handler.close w = some (.panic text, after) → Unwinds handler holds text after

private theorem Effect.panicked_of_attempt {W ε' : Type} {step : Effect W ε α} {w after : W} {text : String}
    (unwound : (step.attempt : Effect W ε' (Except ε α)) w = some (.panic text, after)) :
    step w = some (.panic text, after) := by
  obtain ⟨reply, answered, same⟩ := Effect.attempt_eq_some.mp unwound
  cases reply <;> cases same
  exact answered

namespace Scope

variable (scope : Scope σ V)

private theorem follows_lift (program : Program σ V α) :
    Program.Follows Prod.fst scope.chronicled scope program.lift program := by
  intro first second simulates
  induction program with
  | finish result => exact .ok result
  | fail fault => exact .error fault
  | panic text => exact .panic text
  | read slot next ih => exact .andThen (.attempt (simulates_readAlive simulates slot)) ih
  | close next ih => exact .andThen (.attempt simulates.close) ih
  | release next ih => exact .andThen (.modify fun _ => rfl) fun _ => ih
  | inspect next ih => exact fun w reply after ran => ih _ w reply after ran
  | update change next ih => exact fun w reply after ran => ih _ _ reply after ran

theorem follows_noting (event : ScopeView → Event σ V) (program : Program σ V α) :
    Program.Follows Prod.fst scope.chronicled scope (program.noting event) program :=
  fun first second simulates w _ _ ran => scope.follows_lift program first second simulates
    (w.note (event (scope.chronicled.view w))) _ _ ran

/-- A program ends as it does without the note, which comes last. The note is missing only where the
program itself is unwound by what it has asked for. -/
theorem exec_ending {scope : Scope (σ × List (Event σ V)) V}
    {handler : Handler (σ × List (Event σ V)) V} {holds : Recorded σ V → Prop}
    (maintains : handler.Maintains holds) {event : Reply Fault α → Event σ V}
    {program : Program (σ × List (Event σ V)) V α} {w after : Recorded σ V} {reply : Reply Fault α}
    (starts : holds w) (ran : (program.ending event).exec scope handler w = some (reply, after)) :
    ∃ middle, program.exec scope handler w = some (reply, middle) ∧
      (after = middle.note (event reply) ∨
        after = middle ∧ ∃ text, reply = .panic text ∧ handler.Unwinds holds text after) := by
  induction program generalizing w with
  | finish result =>
    cases ran
    exact ⟨w, rfl, .inl rfl⟩
  | fail fault =>
    cases ran
    exact ⟨w, rfl, .inl rfl⟩
  | panic text =>
    cases ran
    exact ⟨w, rfl, .inl rfl⟩
  | read slot next ih =>
    rcases Effect.attempt_andThen_cases ran with ⟨answer, middle, read, going⟩ | ⟨text, unwound, rfl⟩
    · obtain ⟨_, answered, _⟩ := Effect.attempt_eq_some.mp read
      obtain ⟨last, ended, noted⟩ := ih answer (maintains.reads starts answered) going
      exact ⟨last, by simpa only [Program.exec, Effect.andThen, read] using ended, noted⟩
    · exact ⟨after, by simp only [Program.exec, Effect.andThen, unwound],
        .inr ⟨rfl, text, rfl, .read starts (Effect.panicked_of_attempt unwound)⟩⟩
  | close next ih =>
    rcases Effect.attempt_andThen_cases ran with ⟨answer, middle, closed, going⟩ | ⟨text, unwound, rfl⟩
    · obtain ⟨_, answered, _⟩ := Effect.attempt_eq_some.mp closed
      obtain ⟨last, ended, noted⟩ := ih answer (maintains.closes starts answered) going
      exact ⟨last, by simpa only [Program.exec, Effect.andThen, closed] using ended, noted⟩
    · exact ⟨after, by simp only [Program.exec, Effect.andThen, unwound],
        .inr ⟨rfl, text, rfl, .close starts (Effect.panicked_of_attempt unwound)⟩⟩
  | release next ih => exact ih (maintains.silent starts rfl) ran
  | inspect next ih => exact ih _ starts ran
  | update change next ih => exact ih _ (maintains.silent starts rfl) ran

private theorem follows_telling (value : V) (closer : Program σ V Unit) :
    Program.Follows Prod.fst scope.chronicled scope (closer.telling value) closer := by
  intro first second simulates w reply after ran
  obtain ⟨middle, ended, noted⟩ := exec_ending first.maintains_true trivial ran
  have followed := scope.follows_noting _ closer first second simulates w reply middle ended
  rcases noted with rfl | ⟨rfl, _⟩
  · exact followed
  · exact followed

theorem lookup_map {κ ι ι' : Type} [BEq κ] (change : ι → ι') (entries : List (κ × ι)) (key : κ) :
    (entries.map fun entry => (entry.1, change entry.2)).lookup key =
      (entries.lookup key).map change := by
  induction entries with
  | nil => rfl
  | cons entry rest ih =>
    obtain ⟨name, value⟩ := entry
    simp only [List.map_cons, List.lookup_cons, ih]
    cases key == name <;> rfl

/-- A chronicled constructor is one that writes down its start. -/
theorem findConstructor_chronicled (type : TypeExpr) :
    scope.chronicled.recipes.findConstructor type =
      (scope.recipes.findConstructor type).map fun recipe arguments =>
        (recipe arguments).noting (.start arguments) := by
  simp only [RecipeTable.findConstructor, chronicled]
  rw [lookup_map (fun recipe : ConstructorRecipe σ V => fun arguments =>
    (recipe arguments).noting (.start arguments))]
  cases scope.recipes.constructors.lookup type.name <;> rfl

/-- So is a chronicled method. -/
theorem findMethod_chronicled (type : TypeExpr) (name : String) :
    scope.chronicled.recipes.findMethod type name =
      (scope.recipes.findMethod type name).map fun recipe receiver arguments =>
        (recipe receiver arguments).noting (.start arguments) := by
  simp only [RecipeTable.findMethod, chronicled]
  rw [lookup_map (fun recipe : MethodRecipe σ V => fun receiver arguments =>
    (recipe receiver arguments).noting (.start arguments))]
  cases scope.recipes.methods.lookup (type.name, name) <;> rfl

/-- The chronicled scope is the scope itself but for what it writes down. -/
theorem mirrors_chronicled : Mirrors Prod.fst scope.chronicled scope where
  plan := rfl
  values := rfl
  constructors type := by
    rw [findConstructor_chronicled]
    cases scope.recipes.findConstructor type with
    | ok recipe => exact fun arguments => scope.follows_noting _ _
    | error failure => rfl
  methods type name := by
    rw [findMethod_chronicled]
    cases scope.recipes.findMethod type name with
    | ok recipe => exact fun receiver arguments => scope.follows_noting _ _
    | error failure => rfl
  closers content := by
    cases content with
    | host value =>
      simp only [Host.closerOf, chronicled]
      cases scope.host.closer value with
      | some closer => exact .some (scope.follows_telling value closer)
      | none => exact .none
    | factory slot => exact .none
    | injector slot => exact .none

@[simp] theorem served?_chronicled (identifier : String) :
    scope.chronicled.served? identifier = scope.served? identifier := rfl

@[simp] theorem target_chronicled (identifier : String) :
    scope.chronicled.target identifier = scope.target identifier :=
  (scope.mirrors_chronicled.target identifier).symm

/-- A read notes what is asked for and how the level below answers. -/
theorem chronicler_read {level : Nat} {identifier : String} {w after : Recorded σ V}
    {reply : Reply RuntimeError (Instance V)}
    (ran : (scope.chronicler (level + 1)).read identifier w = some (reply, after)) :
    ∃ middle, scope.chronicled.read (scope.chronicler level) identifier
        (w.note (.asked identifier w.plain)) = some (reply, middle) ∧
      after = middle.note (.answered identifier w.plain reply middle.plain) := by
  simp only [chronicler, Handler.noting] at ran
  split at ran
  · cases ran
  next reply middle found =>
    cases ran
    exact ⟨middle, found, rfl⟩

/-- A handler that writes down is a handler but for what it writes down. -/
theorem simulates_chronicler : (level : Nat) →
    (scope.chronicler level).Simulates Prod.fst (scope.handler level)
  | 0 => ⟨fun _ _ _ _ ran => (by cases ran), fun _ _ _ ran => (by cases ran)⟩
  | level + 1 => by
    have inner := simulates_chronicler level
    refine ⟨fun identifier w reply after ran => ?_, simulates_close scope.mirrors_chronicled inner⟩
    obtain ⟨middle, found, rfl⟩ := scope.chronicler_read ran
    exact simulates_read scope.mirrors_chronicled inner identifier
      (w.note (.asked identifier w.plain)) reply middle found

/-- It answers where the handler does. -/
theorem answering_chronicler : (level : Nat) →
    scope.chronicled.Answering level (scope.chronicler level)
  | 0 => ⟨fun _ _ below => absurd below (Nat.not_lt_zero _),
      fun _ below => absurd below (Nat.not_lt_zero _)⟩
  | level + 1 => by
    have inner := answering_chronicler level
    refine ⟨fun identifier w below => ?_, answers_close inner⟩
    obtain ⟨reply, after, ran, lower⟩ :=
      answers_read inner identifier (w.note (.asked identifier w.plain)) below
    refine ⟨reply, after.note (.answered identifier w.plain reply after.plain), ?_, lower⟩
    simp only [chronicler, Handler.noting, ran]

/-- Every run has a chronicle, and is answered as it is without one. -/
theorem exists_chronicleFrom (w : World σ V) (operations : List (Operation V)) :
    ∃ answers last, scope.chronicleFrom w operations = some (answers, last) ∧
      scope.run operations w = (answers, last.plain) := by
  have below := Nat.lt_succ_self (scope.potential w)
  obtain ⟨answers, last, ran⟩ := exists_runWith (scope.answering_chronicler _) operations
    (w := w.map fun host => (host, ([] : List (Event σ V)))) below
  have plain := simulates_runWith scope.mirrors_chronicled (scope.simulates_chronicler _) operations ran
  exact ⟨answers, last, ran, Option.some_inj.mp ((runWith_handler operations below).symm.trans plain)⟩

/-- Every run has a chronicle, which ends as the run does. -/
theorem exists_chronicle (host : σ) (operations : List (Operation V)) :
    ∃ answers last, scope.chronicle host operations = some (answers, last) ∧
      scope.run operations (start host) = (answers, last.plain) :=
  scope.exists_chronicleFrom (start host) operations

end Scope

end Wiring
