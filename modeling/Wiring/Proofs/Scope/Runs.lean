import Wiring.Proofs.Scope.Conforming
import Wiring.Scope.Operation

/-! # Runs within a conduct

A level keeps to the conduct because the level below does: what a creation reads along eager edges
cannot lead back to it, and whoever reads otherwise may meet a slot that is being created only if
that failure is admitted. Between two operations nothing is being created, so every operation of a
run starts afresh.

Main statement: `Scope.run_fits`, what a run is answered keeps to the conduct.
-/

namespace Wiring

variable {σ V ε α : Type} {conduct : Conduct σ V} {scope : Scope σ V} {marks : Marks} {level : Nat}

/-- Neither the slot nor anything that it reads eagerly is being created. -/
def Scope.Apart (scope : Scope σ V) (marks : Marks) (slot : String) : Prop :=
  ∀ other, Relation.ReflTransGen scope.plan.Eager slot other → ¬ marks.creating other

/-- The slot can be read without meeting a slot that is being created, unless that failure may come
up. -/
def Scope.Clear (conduct : Conduct σ V) (scope : Scope σ V) (marks : Marks) (slot : String) : Prop :=
  (∀ other, conduct.fails (.circularDependency other)) ∨ scope.Apart marks slot

/-- Below the level the handler keeps to the conduct. -/
structure Handler.Conforms (conduct : Conduct σ V) (scope : Scope σ V) (level : Nat)
    (handler : Handler σ V) : Prop where
  read : ∀ marks : Marks, marks.limit < level → ∀ slot, conduct.known slot →
    scope.Clear conduct marks slot →
    (handler.read slot).Meets (World.Fits conduct scope marks) (Instance.Fits conduct) conduct.fails
  close : ∀ marks : Marks, marks.limit < level →
    (conduct.closersRead → ∀ slot, conduct.known slot → scope.Clear conduct marks slot) →
    ∀ w, World.Fits conduct scope marks w → ∃ reply after, handler.close w = some (reply, after) ∧
      after.Fits conduct scope { marks with closed := true } ∧
      reply.Meets (fun _ => True) (CloseError.Fits conduct)

namespace Handler.Conforms

variable {handler : Handler σ V}

theorem lets {reads closes : Prop} (conforms : handler.Conforms conduct scope level)
    (below : marks.limit < level)
    (clear : reads ∨ closes ∧ conduct.closersRead →
      ∀ slot, conduct.known slot → scope.Clear conduct marks slot)
    (closing : closes → conduct.recipesClose ∨ marks.closed = true) :
    handler.Lets conduct scope marks reads closes where
  read may slot known := conforms.read marks below slot known (clear (.inl may) slot known)
  close may w fits := by
    obtain ⟨reply, after, ran, kept, wanted⟩ :=
      conforms.close marks below (fun reads => clear (.inr ⟨may, reads⟩)) w fits
    exact ⟨reply, after, ran, kept.reopen (closing may), wanted⟩

theorem lets_recipes (admits : conduct.Admits) (conforms : handler.Conforms conduct scope level)
    (below : marks.limit < level) :
    handler.Lets conduct scope marks conduct.recipesRead conduct.recipesClose :=
  conforms.lets below (fun may _ _ => .inl (admits.circular may)) .inl

/-- A closer that a recipe starts. -/
theorem lets_late (admits : conduct.Admits) (conforms : handler.Conforms conduct scope level)
    (below : marks.limit < level) (late : conduct.recipesClose) :
    handler.Lets conduct scope marks conduct.closersRead True := by
  refine conforms.lets below (fun may _ _ => .inl (admits.circular (.inr ⟨late, ?_⟩))) fun _ => .inl late
  exact may.elim id And.right

end Handler.Conforms

namespace Scope

variable {handler : Handler σ V}

private theorem known_of_mem_eagerDependencies {slot : CachedSlot} (fits : slot.Fits conduct scope)
    {identifier : String} (member : identifier ∈ (Slot.cached slot).eagerDependencies) :
    conduct.known identifier := by
  rcases CachedSlot.eager_cases member with ⟨type, method, provided⟩ | listed
  · exact fits.holder _ _ _ provided
  · exact fits.arguments _ listed

/-- What is there from the start is a supplied value, a factory or an injector. -/
theorem fits_of_ready (behaves : scope.Behaves conduct) {identifier : String} {value : Instance V}
    (served : scope.served? identifier = some (.ready value)) : value.Fits conduct := by
  intro content same
  have listed := mem_entries_of_served? served
  have supplied : ∃ slot ∈ scope.plan.values, scope.values.find? slot.identifier = some value := by
    rcases (by simpa [entries] using listed) with
      ⟨slot, member, found, _⟩ | ⟨slot, _, _, rfl⟩ | ⟨slot, _, _, rfl⟩
    · exact ⟨slot, member, found⟩
    · cases same
    · cases same
  obtain ⟨slot, _, found⟩ := supplied
  obtain ⟨supplied, bound, rfl⟩ := Option.map_eq_some_iff.mp found
  cases same
  exact behaves.supplied (slot.identifier, content) (mem_of_lookup bound)

/-- What a slot reads is apart from the slot itself, which would read itself otherwise. -/
theorem Apart.inside (acyclic : scope.plan.Acyclic) {slot read : String} (apart : scope.Apart marks slot)
    (eager : scope.plan.Eager slot read) : scope.Apart (marks.inside slot) read := by
  rintro other walk (rfl | creating)
  · exact acyclic _ (.head' eager walk)
  · exact apart other (.head eager walk) creating

private theorem conforms_read (admits : conduct.Admits) (behaves : scope.Behaves conduct)
    (fits : scope.Fits conduct) (conforms : handler.Conforms conduct scope level)
    (below : marks.limit < level + 1) {identifier : String} (known : conduct.known identifier)
    (clear : scope.Clear conduct marks identifier) :
    (scope.read handler identifier).Meets (World.Fits conduct scope marks) (Instance.Fits conduct)
      conduct.fails := by
  have clear : scope.Clear conduct marks (scope.target identifier) :=
    clear.imp_right fun apart other walk =>
      apart other ((reaches_follow fits.supplied _ identifier).trans walk)
  unfold read
  split
  next value served => exact .ok (fits_of_ready behaves served)
  next slot served =>
    obtain ⟨member, same⟩ := mem_cached_of_served? served
    have slotFits := fits.cached slot member
    rw [← same] at clear
    refine meets_access admits member (fun creating => ?_) fun positive => ?_
    · exact clear.elim (fun fails => fails _) fun apart => (apart _ .refl creating).elim
    · have inner : (marks.inside slot.identifier).limit < level := by
        simp only [Marks.inside]
        omega
      refine meets_create admits behaves (conforms.lets_recipes admits inner)
        (conforms.lets_late admits inner) slotFits fun read listed => ?_
      have eager : scope.plan.Eager slot.identifier read :=
        (eager_iff_served? fits.supplied).mpr ⟨.cached slot, same ▸ served, listed⟩
      exact conforms.read _ inner read (known_of_mem_eagerDependencies slotFits listed)
        (clear.imp_right (·.inside fits.acyclic eager))
  next target served =>
    exact (target_not_aliased fits.supplied fits.acyclic identifier target served).elim
  next unserved => exact .error (fits.served identifier known unserved)

private theorem conforms_close (admits : conduct.Admits) (behaves : scope.Behaves conduct)
    (conforms : handler.Conforms conduct scope level) (below : marks.limit < level + 1)
    (clear : conduct.closersRead → ∀ slot, conduct.known slot → scope.Clear conduct marks slot)
    {w : World σ V} (held : w.Fits conduct scope marks) :
    ∃ reply after, scope.close handler w = some (reply, after) ∧
      after.Fits conduct scope { marks with closed := true } ∧
      reply.Meets (fun _ => True) (CloseError.Fits conduct) := by
  refine meets_close admits behaves (fun positive => ?_) held
  have inner : marks.closing.limit < level := by
    simp only [Marks.closing]
    omega
  exact conforms.lets inner (fun may => clear (may.elim id And.right)) fun _ => .inr rfl

theorem conforms_handler (admits : conduct.Admits) (behaves : scope.Behaves conduct)
    (fits : scope.Fits conduct) (level : Nat) : (scope.handler level).Conforms conduct scope level := by
  induction level with
  | zero =>
    exact ⟨fun _ below => absurd below (Nat.not_lt_zero _),
      fun _ below => absurd below (Nat.not_lt_zero _)⟩
  | succ level ih =>
    exact ⟨fun _ below _ known clear => conforms_read admits behaves fits ih below known clear,
      fun _ below clear _ held => conforms_close admits behaves ih below clear held⟩

end Scope

/-! ## Operations -/

/-- The marks between two operations. -/
def Scope.resting (scope : Scope σ V) (w : World σ V) : Marks where
  creating _ := False
  closed := w.teardown.closed
  limit := scope.potential w

/-- Nothing is being created, and what the world holds keeps to the conduct. -/
def World.Steady (conduct : Conduct σ V) (scope : Scope σ V) (w : World σ V) : Prop :=
  w.Fits conduct scope (scope.resting w)

theorem World.Fits.steady {w : World σ V} (fits : w.Fits conduct scope marks)
    (idle : ∀ slot, ¬ marks.creating slot) : w.Steady conduct scope :=
  ⟨fits.cached, fits.failed, fits.owned, fits.state,
    fun slot => (fits.creating slot).trans ⟨fun creating => idle slot creating, False.elim⟩,
    .inr rfl, Nat.le_refl _⟩

/-- A scope that has just been opened is steady. -/
theorem Scope.steady_start {host : σ} (state : conduct.state host) :
    (start host : World σ V).Steady conduct scope :=
  ⟨nofun, nofun, List.forall_mem_nil _, state, fun _ => ⟨nofun, False.elim⟩, .inr rfl, Nat.le_refl _⟩

/-- The client keeps to the conduct: it reads known slots, and calls factories and injectors with
as many arguments as they have parameters. -/
def Operation.Fits (conduct : Conduct σ V) (scope : Scope σ V) : Operation V → Prop
  | read slot => conduct.known slot
  | callFactory slot given => slot.Fits conduct scope ∧ (∀ value ∈ given, value.Fits conduct) ∧
      (slot.parameters.length = given.length ∨
        ∀ expected actual, conduct.fails (.arityMismatch slot.identifier expected actual))
  | callInjector slot given => slot.Fits conduct scope ∧ (∀ value ∈ given, value.Fits conduct) ∧
      (slot.parameters.length = given.length ∨
        ∀ expected actual, conduct.fails (.arityMismatch slot.identifier expected actual))
  | close => True
  | release => True

def Answer.Fits (conduct : Conduct σ V) : Answer V → Prop
  | shared value => value.Fits conduct
  | failed error => conduct.fails error
  | unclosed error => error.Fits conduct
  | nothing => True
  | done => True
  | panicked _ => True

private theorem Answer.Fits.settled {conduct : Conduct σ V} {answer : Answer V} (fits : answer.Fits conduct)
    (closing : Reply CloseError Unit) : (answer.settled closing).Fits conduct := by
  rcases answer.settled_cases closing with same | ⟨text, _, same⟩
  · rwa [same]
  · rw [same]
    trivial

namespace Scope

variable {handler : Handler σ V}

theorem meets_checkArity {slot : String} {expected actual : Nat}
    (either : expected = actual ∨
      ∀ expected actual, conduct.fails (.arityMismatch slot expected actual)) :
    (checkArity slot expected actual : ScopeStep σ V RuntimeError Unit).Meets
      (World.Fits conduct scope marks) (fun _ => expected = actual) conduct.fails := by
  unfold checkArity
  split
  next same => exact .ok same
  next different => exact .error (either.resolve_left different expected actual)

theorem meets_checkAlive (admits : conduct.Admits) (slot : String) :
    (checkAlive slot : ScopeStep σ V RuntimeError Unit).Meets (World.Fits conduct scope marks)
      (fun _ => True) conduct.fails :=
  .ite (.ok trivial) (.error (admits.closed slot))

theorem meets_checkOpen (admits : conduct.Admits) (slot : String) :
    (checkOpen slot : ScopeStep σ V RuntimeError Unit).Meets (World.Fits conduct scope marks)
      (fun _ => True) conduct.fails := by
  intro w held
  have open? : Answered (fun _ => True) conduct.fails (w.teardown.checkOpen slot) := by
    unfold Teardown.checkOpen
    split
    · exact admits.closed slot
    · trivial
  exact Effect.Meets.ofExcept open? w held

private theorem meets_callFactory (admits : conduct.Admits) (behaves : scope.Behaves conduct)
    (conforms : handler.Conforms conduct scope level) (below : marks.limit < level)
    (idle : ∀ slot, ¬ marks.creating slot) {slot : FactorySlot} {given : List (Instance V)}
    (fits : (Operation.callFactory slot given).Fits conduct scope) :
    (scope.callFactory handler slot given).Meets (World.Fits conduct scope marks) (Instance.Fits conduct)
      conduct.fails := by
  obtain ⟨slotFits, givenFit, arity⟩ := fits
  refine .andThen (meets_checkArity arity) fun _ counted => ?_
  refine .andThen (meets_checkAlive admits _) fun _ _ => .andThen (meets_checkOpen admits _) fun _ _ => ?_
  refine .andThen (meets_arguments counted.le givenFit _ slot.arguments slotFits.arguments
    fun identifier member => ?_) fun values ⟨fitting, handing⟩ => ?_
  · exact conforms.read marks below identifier (slotFits.arguments _ member)
      (.inr fun other _ => idle other)
  · have hands := slotFits.hands _ _ _ _ (.factory counted.symm handing)
    refine .andThen (.ofExcept (meets_findConstructor behaves slotFits.recipe)) fun recipe runs => ?_
    exact .andThen (meets_runRecipe admits (conforms.lets_recipes admits below) _
      (runs _ hands fitting)) fun _ => meets_instance

private theorem meets_callInjector (admits : conduct.Admits) (behaves : scope.Behaves conduct)
    (conforms : handler.Conforms conduct scope level) (below : marks.limit < level)
    (idle : ∀ slot, ¬ marks.creating slot) {slot : InjectorSlot} {given : List (Instance V)}
    (fits : (Operation.callInjector slot given).Fits conduct scope) :
    (scope.callInjector handler slot given).Meets (World.Fits conduct scope marks)
      (fun result => ∀ value ∈ result, value.Fits conduct) conduct.fails := by
  obtain ⟨slotFits, givenFit, arity⟩ := fits
  have read {identifier : String} (known : conduct.known identifier) :=
    conforms.read marks below identifier known (.inr fun other _ => idle other)
  refine .andThen (meets_checkArity arity) fun _ counted => ?_
  refine .andThen (meets_checkAlive admits _) fun _ _ => .andThen (meets_checkOpen admits _) fun _ _ => ?_
  refine .andThen (read slotFits.receiver) fun receiver held => ?_
  refine .andThen (meets_arguments counted.le givenFit _ slot.arguments slotFits.arguments
    fun identifier member => read (slotFits.arguments _ member)) fun values ⟨fitting, handing⟩ => ?_
  have hands := slotFits.hands _ _ _ _ (.injector counted.symm handing)
  refine .andThen (.ofExcept (meets_findMethod behaves slotFits.recipe)) fun recipe runs => ?_
  refine .andThen (meets_runRecipe admits (conforms.lets_recipes admits below) _
    (runs receiver _ hands held fitting)) fun made products => ?_
  cases made with
  | some product =>
    exact .andThen (meets_instance (products product rfl)) fun value made =>
      .ok fun other same => Option.mem_some.mp same ▸ made
  | none =>
    dsimp only
    split
    · exact .ok nofun
    · exact .error (admits.null _)

/-- An operation starts from a world at rest and is run at a level that is high enough. -/
theorem runAbove_fits (step : Handler σ V → ScopeStep σ V ε α) {good : α → Prop} {bad : ε → Prop}
    (answers : ∀ {bound : Nat} {handler : Handler σ V}, scope.Answering bound handler →
      (step handler).Answers scope.potential bound)
    {w : World σ V} (steady : w.Steady conduct scope)
    (meets : (step (scope.handler (scope.potential w + 1))).Meets
      (World.Fits conduct scope (scope.resting w)) good bad) :
    (scope.runAbove step answers w).1.Meets good bad ∧
      (scope.runAbove step answers w).2.Steady conduct scope := by
  obtain ⟨reply, after, ran, kept, wanted⟩ := meets w steady
  have result : scope.runAbove step answers w = (reply, after) := by simp [runAbove, ran]
  rw [result]
  exact ⟨wanted, kept.steady fun _ => id⟩

private theorem fits_answer {good : α → Prop} {bad : ε → Prop} {value : α → Answer V}
    {error : ε → Answer V} (values : ∀ result, good result → (value result).Fits conduct)
    (errors : ∀ failure, bad failure → (error failure).Fits conduct) {reply : Reply ε α}
    (meets : reply.Meets good bad) : (reply.answer value error).Fits conduct := by
  cases reply with
  | ok result => exact values result meets
  | error failure => exact errors failure meets
  | panic text => trivial

variable (admits : conduct.Admits) (behaves : scope.Behaves conduct) (fits : scope.Fits conduct)

include admits behaves fits

/-- Closing a world at rest. -/
theorem close_fits {w : World σ V} (steady : w.Steady conduct scope) :
    (scope.runAbove (·.close) (·.close) w).1.Meets (fun _ => True) (CloseError.Fits conduct) ∧
      (scope.runAbove (·.close) (·.close) w).2.Steady conduct scope := by
  obtain ⟨reply, after, ran, kept, wanted⟩ :=
    (conforms_handler admits behaves fits (scope.potential w + 1)).close (scope.resting w)
      (Nat.lt_succ_self _)
      (fun _ _ _ => .inr fun _ _ => id) w steady
  have result : scope.runAbove (·.close) (·.close) w = (reply, after) := by simp [runAbove, ran]
  rw [result]
  exact ⟨wanted, kept.steady fun _ => id⟩

private theorem perform_fits {operation : Operation V} (fitting : operation.Fits conduct scope)
    {w : World σ V} (steady : w.Steady conduct scope) :
    (scope.perform operation w).1.Fits conduct ∧ (scope.perform operation w).2.Steady conduct scope := by
  have conforms := conforms_handler admits behaves fits (scope.potential w + 1)
  have below : (scope.resting w).limit < scope.potential w + 1 := Nat.lt_succ_self _
  cases operation with
  | read slot =>
    have read := conforms.read _ below slot fitting (.inr fun _ _ => id)
    obtain ⟨wanted, rests⟩ := runAbove_fits (·.readAlive slot)
      (fun answering => answers_readAlive answering slot) steady (meets_readAlive admits read)
    exact ⟨fits_answer (fun _ => id) (fun _ => id) wanted, rests⟩
  | callFactory slot given =>
    obtain ⟨wanted, rests⟩ := runAbove_fits (scope.callFactory · slot given)
      (fun answering => answers_callFactory answering slot given) steady
      (meets_callFactory admits behaves conforms below (fun _ => id) fitting)
    exact ⟨fits_answer (fun _ => id) (fun _ => id) wanted, rests⟩
  | callInjector slot given =>
    obtain ⟨wanted, rests⟩ := runAbove_fits (scope.callInjector · slot given)
      (fun answering => answers_callInjector answering slot given) steady
      (meets_callInjector admits behaves conforms below (fun _ => id) fitting)
    refine ⟨fits_answer (fun result each => ?_) (fun _ => id) wanted, rests⟩
    cases result with
    | some value => exact each value rfl
    | none => trivial
  | close =>
    obtain ⟨wanted, rests⟩ := close_fits admits behaves fits steady
    exact ⟨fits_answer (fun _ => id) (fun _ => id) wanted, rests⟩
  | release => exact ⟨trivial, World.Fits.release steady⟩

private theorem settle_fits {w : World σ V} (steady : w.Steady conduct scope) :
    (scope.settle w).2.Steady conduct scope := by
  unfold settle
  split
  · exact steady
  · have gone : World.Steady conduct scope { w with alive := false } :=
      ⟨steady.cached, steady.failed, steady.owned, steady.state, steady.creating, steady.closed,
        steady.limit⟩
    exact (close_fits admits behaves fits gone).2

/-- What a run is answered keeps to the conduct, and it leaves a world at rest. -/
theorem run_fits {operations : List (Operation V)}
    (fitting : ∀ operation ∈ operations, operation.Fits conduct scope) {w : World σ V}
    (steady : w.Steady conduct scope) :
    (∀ answer ∈ (scope.run operations w).1, answer.Fits conduct) ∧
      (scope.run operations w).2.Steady conduct scope := by
  induction operations generalizing w with
  | nil => exact ⟨List.forall_mem_nil _, steady⟩
  | cons operation rest ih =>
    obtain ⟨first, rests⟩ := perform_fits admits behaves fits (fitting _ List.mem_cons_self) steady
    obtain ⟨others, last⟩ := ih (fun other later => fitting other (List.mem_cons_of_mem _ later))
      (settle_fits admits behaves fits rests)
    exact ⟨List.forall_mem_cons.mpr ⟨first.settled _, others⟩, last⟩

end Scope

end Wiring
