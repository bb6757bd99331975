import Wiring.Proofs.Scope.Calling
import Wiring.Proofs.Scope.Handing

/-! # How often a recipe is started

Reads start recipes of cached slots only, and so do programs, which can do no more than read. So a recipe
is started for a factory or an injector by a call that the client makes, and by no other call than one
that is accepted, which starts it once. While the recipe does not read the scope, nothing is put into a
cell or taken for the closing from its start on, since the closers that it may start find the scope
closed.

Main statements: `Scope.starts_runWith` and `Scope.retains_invoke`.
-/

namespace Wiring

variable {σ V : Type}

/-- How many recipes have been started for the slot. -/
def World.starts (w : Recorded σ V) (slot : String) : Nat := w.events.countP (Event.starts slot)

theorem World.starts_note (w : Recorded σ V) (event : Event σ V) (slot : String) :
    (w.note event).starts slot = w.starts slot + if event.starts slot then 1 else 0 := by
  rw [starts, starts, events, note, List.countP_append, List.countP_singleton]
  rfl

/-- No recipe is started for the slot. -/
def Mute (slot : String) (w after : Recorded σ V) : Prop := after.starts slot = w.starts slot

theorem passage_mute (slot : String) : Passage (Mute slot : Recorded σ V → Recorded σ V → Prop) where
  refl _ := rfl
  trans first second := Eq.trans second first
  release _ := rfl
  update _ _ := rfl
  share _ := rfl

private theorem mute_closing (slot : String) (w : Recorded σ V) {event : Event σ V}
    (closing : event.isClosing = true) : Mute slot w (w.note event) := by
  rcases Event.cases_of_isClosing closing with ⟨value, rfl⟩ | ⟨value, reply, rfl⟩ <;>
    simp [Mute, World.starts_note, Event.starts]

/-- What is started for another slot does not count. -/
theorem Scope.Starting.mute {scope : Scope σ V} {slot other : String} {w after : Recorded σ V}
    (different : other ≠ slot) (starting : scope.Starting (Mute slot) other w after) :
    Mute slot w after := by
  rcases starting with mute | ⟨middle, before, behind⟩
  · exact mute
  · refine (behind.trans ?_).trans before
    simp [World.starts_note, Event.starts, different]

namespace Scope

variable {scope : Scope σ V} {slot : String} {w after : Recorded σ V}

/-- Reads and closings start no recipe for a slot that is not created once. -/
theorem mute_chronicler (uncached : ∀ cached, scope.served? slot ≠ some (.cached cached)) (level : Nat) :
    (∀ identifier, ((scope.chronicler level).read identifier).Within (Mute slot)) ∧
      (scope.chronicler level).close.Within (Mute slot) := by
  have passage : Passage (Mute slot : Recorded σ V → Recorded σ V → Prop) := passage_mute slot
  refine within_chronicler passage (mute_closing slot) (fun _ _ => rfl)
    (fun level reads closes identifier w reply middle found => ?_) level
  have reading : Mute slot (w.note (.asked identifier w.plain)) middle := by
    rcases read_cases found with ⟨cached, served, accessed⟩ | ⟨_, rfl⟩
    · obtain ⟨_, named⟩ := mem_cached_of_served? served
      have different : cached.identifier ≠ slot := fun same =>
        uncached cached (by rw [← same, named]; exact served)
      rcases access_cases accessed with ⟨_, _, _, rfl⟩ | ⟨_, last, created, rfl⟩
      · exact passage.refl _
      · have starting := within_create passage reads (.inr closes)
          (within_own passage reads closes (mute_closing slot) (fun _ _ => rfl) _) _ _ _ created
        exact starting.mute different
    · exact passage.refl _
  simpa [Mute, World.starts_note, Event.starts] using reading

section Invoking

/-! ## The recipe of a call -/

variable {handler : Handler (σ × List (Event σ V)) V} {called : CallSlot} {given : List (Instance V)}

/-- What is called is started first, and there is nothing else to do. -/
theorem within_invoke {rel : Recorded σ V → Recorded σ V → Prop} (passage : Passage rel)
    (reads : ∀ identifier, (handler.read identifier).Within rel) (closes : handler.close.Within rel)
    (required : scope.recipes.require called.callable = .ok ()) (receiver : called.Receiver V)
    (values : List (Arg V)) :
    (scope.chronicled.invoke handler called receiver values).Within fun w after =>
      rel (w.note (.started called.identifier (scope.state? w.plain called.identifier))) after := by
  have behind {α β : Type} {first : ScopeStep (σ × List (Event σ V)) V RuntimeError α}
      {next : α → ScopeStep (σ × List (Event σ V)) V RuntimeError β} {event : ScopeView → Event σ V}
      (started : first.Within fun w after => rel (w.note (event (scope.view w.plain))) after)
      (rest : ∀ value, (next value).Within rel) :
      (first.andThen next).Within fun w after => rel (w.note (event (scope.view w.plain))) after :=
    .andThen id passage.trans started rest
  cases called with
  | factory slot =>
    obtain ⟨recipe, found⟩ := RecipeTable.exists_constructor required
    simp only [invoke, findConstructor_chronicled, found, Except.map, Effect.ofExcept_ok_andThen]
    refine behind (.mapError _ (within_noting passage reads _ (.inr closes))) fun made => ?_
    exact within_andThen passage (within_instance passage made) fun value => .ok passage.refl _
  | injector slot =>
    obtain ⟨recipe, found⟩ := RecipeTable.exists_method required
    simp only [invoke, findMethod_chronicled, found, Except.map, Effect.ofExcept_ok_andThen]
    refine behind (.mapError _ (within_noting passage reads _ (.inr closes))) fun made => ?_
    cases made with
    | some made => exact within_andThen passage (within_instance passage made) fun value => .ok passage.refl _
    | none =>
      dsimp only
      split
      · exact .ok passage.refl none
      · exact .error passage.refl _

end Invoking

section Chronicled

/-! ## Calls and their chronicle -/

variable {called : CallSlot} {given : List (Instance V)} {receiver : called.Receiver V}
  {values : List (Arg V)} {middle : World σ V} {level : Nat}

/-- A level of the chronicler answers as the scope does. -/
theorem simulates_unbounded (scope : Scope σ V) (level : Nat) :
    (scope.chronicler level).Simulates Prod.fst scope.unbounded where
  read slot w reply after ran :=
    have plain := (scope.simulates_chronicler level).read slot w reply after ran
    (refines_unbounded scope level).read slot _ _ plain
  close w reply after ran :=
    have plain := (scope.simulates_chronicler level).close w reply after ran
    (refines_unbounded scope level).close _ _ plain

/-- A call is accepted with a chronicle as it is without one. -/
theorem accepts_chronicler (below : scope.potential w.plain < level) :
    Accepts scope.unbounded called given w.plain receiver values middle ↔
      ∃ begun : Recorded σ V, begun.plain = middle ∧
        Accepts (scope.chronicler level) called given w receiver values begun := by
  have simulates := simulates_resolve (scope.simulates_unbounded level) called given
  constructor
  · intro accepts
    obtain ⟨reply, begun, ran, _⟩ := answers_resolve (scope.answering_chronicler level) called given w below
    have same := accepts.resolved.symm.trans (simulates w reply begun ran)
    cases same
    exact ⟨begun, rfl, accepts.arity, accepts.alive, accepts.opened, ran⟩
  · rintro ⟨begun, rfl, accepts⟩
    exact ⟨accepts.arity, accepts.alive, accepts.opened, simulates w _ begun accepts.resolved⟩

/-- The slot is the only one that is called under its identifier, which serves no other. -/
structure Callee (scope : Scope σ V) (called : CallSlot) : Prop where
  uncached slot : scope.served? called.identifier ≠ some (.cached slot)
  required : scope.recipes.require called.callable = .ok ()
  only other : other.slot ∈ scope.plan.slots → other.identifier = called.identifier → other = called

private theorem mem_slots_of_offered {operation : Operation V} (offered : operation.Offered scope)
    (calls : operation.call? = some (called, given)) : called.slot ∈ scope.plan.slots := by
  obtain rfl := Operation.call?_eq_some_iff.mp calls
  cases called with
  | factory slot => exact Plan.mem_slots_of_factory offered
  | injector slot => exact Plan.mem_slots_of_injector offered

variable (callee : scope.Callee called) (below : scope.potential w.plain < level)

include callee below

/-- A call of the slot starts its recipe once if it is accepted, and not at all otherwise. -/
theorem starts_call {reply : Reply RuntimeError (Option (Instance V))}
    (ran : scope.chronicled.call (scope.chronicler level) called given w = some (reply, after)) :
    after.starts called.identifier = w.starts called.identifier +
      (scope.invocation? called (called.call given) w.plain).toList.length := by
  have passage : Passage (Mute called.identifier : Recorded σ V → Recorded σ V → Prop) := passage_mute _
  obtain ⟨reads, closes⟩ := mute_chronicler callee.uncached level
  have resolving := resolve_within passage.refl passage.trans reads called given
  rcases call_cases ran with ⟨receiver, values, middle, accepts, invoked⟩ | ⟨refused, stopped⟩
  · have invocation : scope.invocation? called (called.call given) w.plain = some ⟨given, receiver, values⟩ :=
      invocation?_eq_some_iff.mpr ⟨rfl, middle.plain, (accepts_chronicler below).mpr ⟨middle, rfl, accepts⟩⟩
    have started := within_invoke passage reads closes callee.required receiver values _ _ _ invoked
    have resolved : Mute called.identifier w middle := resolving _ _ _ accepts.resolved
    rw [invocation, Option.toList_some, List.length_singleton, ← resolved]
    simpa [Mute, World.starts_note, Event.starts] using started
  · have invocation : scope.invocation? called (called.call given) w.plain = none := by
      refine Option.eq_none_iff_forall_ne_some.mpr fun invocation invoked => ?_
      obtain ⟨same, middle, accepts⟩ := invocation?_eq_some_iff.mp invoked
      obtain ⟨begun, _, accepts⟩ := (accepts_chronicler below).mp accepts
      obtain rfl : given = invocation.given := by cases called <;> simpa [CallSlot.call] using same
      exact refused _ _ _ accepts
    rw [invocation, Option.toList_none, List.length_nil, Nat.add_zero]
    rcases stopped with rfl | ⟨_, resolved⟩
    · rfl
    · exact resolving _ _ _ resolved

/-- No other operation starts the recipe. -/
theorem starts_performWith {operation : Operation V} (offered : operation.Offered scope)
    {answer : Answer V}
    (performed : scope.chronicled.performWith (scope.chronicler level) operation w = some (answer, after)) :
    after.starts called.identifier = w.starts called.identifier +
      (scope.invocation? called operation w.plain).toList.length := by
  have passage : Passage (Mute called.identifier : Recorded σ V → Recorded σ V → Prop) := passage_mute _
  obtain ⟨reads, closes⟩ := mute_chronicler callee.uncached level
  by_cases calls : ∃ given, operation = called.call given
  · obtain ⟨given, rfl⟩ := calls
    rw [performWith_call] at performed
    obtain ⟨⟨reply, last⟩, ran, same⟩ := Option.map_eq_some_iff.mp performed
    cases same
    exact starts_call callee below ran
  · have none : scope.invocation? called operation w.plain = none :=
      Option.eq_none_iff_forall_ne_some.mpr fun invocation invoked =>
        calls ⟨invocation.given, (invocation?_eq_some_iff.mp invoked).1⟩
    have different {other : CallSlot} {given : List (Instance V)} (same : operation = other.call given) :
        other.identifier ≠ called.identifier := by
      intro alike
      have member := mem_slots_of_offered offered (Operation.call?_eq_some_iff.mpr same)
      exact calls ⟨given, callee.only other member alike ▸ same⟩
    rw [none, Option.toList_none, List.length_nil, Nat.add_zero]
    have mute : Mute called.identifier w after := by
      refine within_performWith (fun slot _ => within_readAlive passage reads slot)
        (fun slot given same => ?_) (fun slot given same => ?_) closes passage.release performed
      · exact .mono (within_callFactory passage reads (.inr closes) slot given)
          (Starting.mute (@different (.factory slot) _ same))
      · exact .mono (within_callInjector passage reads (.inr closes) slot given)
          (Starting.mute (@different (.injector slot) _ same))
    exact mute

omit callee in
/-- An operation with its chronicle leads where it leads without one. -/
theorem operate_plain {operation : Operation V} {answer : Answer V} {middle : Recorded σ V}
    {reply : Reply CloseError Unit}
    (performed : scope.chronicled.performWith (scope.chronicler level) operation w = some (answer, middle))
    (settled : settleWith (scope.chronicler level) middle = some (reply, after)) :
    (answer.settled reply, after.plain) = scope.operate operation w.plain := by
  have plain := simulates_performWith scope.mirrors_chronicled (scope.simulates_chronicler level)
    operation performed
  rw [show World.map Prod.fst w = w.plain from rfl, performWith_handler operation below,
    Option.some_inj] at plain
  have lower := scope.potential_perform_le operation w.plain
  have done := simulates_settleWith (scope.simulates_chronicler level) _ _ _ settled
  have rest : World.map Prod.fst middle = (scope.perform operation w.plain).2 := by rw [plain]
  rw [rest, settleWith_handler (Nat.lt_of_le_of_lt lower below), Option.some_inj] at done
  simp only [operate, plain]
  rw [plain] at done
  rw [done]
  rfl

/-- The recipe is started as often as calls of the slot are accepted. -/
theorem starts_runWith {operations : List (Operation V)}
    (offered : ∀ operation ∈ operations, operation.Offered scope) {answers : List (Answer V)}
    (ran : scope.chronicled.runWith (scope.chronicler level) operations w = some (answers, after)) :
    after.starts called.identifier = w.starts called.identifier +
      (scope.invocations called operations w.plain).length := by
  obtain ⟨_, closes⟩ := mute_chronicler callee.uncached level
  induction operations generalizing w answers after with
  | nil =>
    cases ran
    rfl
  | cons operation rest ih =>
    obtain ⟨first, others⟩ := List.forall_mem_cons.mp offered
    obtain ⟨⟨answer, middle⟩, performed, settling⟩ := Option.bind_eq_some_iff.mp ran
    obtain ⟨⟨reply, settled⟩, ended, going⟩ := Option.bind_eq_some_iff.mp settling
    obtain ⟨⟨_, last⟩, later, same⟩ := Option.map_eq_some_iff.mp going
    cases same
    have operated : settled.plain = (scope.operate operation w.plain).2 :=
      congrArg Prod.snd (operate_plain below performed ended)
    have lower : scope.potential settled.plain < level := by
      rw [operated]
      exact Nat.lt_of_le_of_lt ((scope.potential_settle_le _).trans (scope.potential_perform_le _ _)) below
    have started := starts_performWith callee below first performed
    have quiet : Mute called.identifier middle settled :=
      within_settleWith rfl closes (passage_mute _).trans rfl ended
    have counted := ih lower others later
    rw [operated] at counted
    show last.starts _ = _
    rw [counted, quiet, started, invocations, List.length_append, Nat.add_assoc]

omit below in
/-- In a run, a factory or injector starts its recipe once for each invocation. -/
theorem starts_chronicleFrom {operations : List (Operation V)}
    (offered : ∀ operation ∈ operations, operation.Offered scope) (w : World σ V) :
    ∃ answers last, scope.chronicleFrom w operations = some (answers, last) ∧
      scope.run operations w = (answers, last.plain) ∧
      last.starts called.identifier = (scope.invocations called operations w).length := by
  obtain ⟨answers, last, written, ran⟩ := scope.exists_chronicleFrom w operations
  have starts := starts_runWith callee (Nat.lt_succ_self (scope.potential w)) offered written
  have unwritten : World.starts (w.map fun host => (host, [])) called.identifier = 0 := rfl
  rw [unwritten, Nat.zero_add] at starts
  exact ⟨answers, last, written, ran, starts⟩

end Chronicled

end Scope

section Retaining

/-! ## Recipes that do not read -/

/-- No instance is put into a cell or taken for the closing: cells change only where reads have found the
scope closed, and resources only by the closing. -/
structure World.Retains (w after : World σ V) : Prop where
  cells slot : after.cells slot = w.cells slot ∨
    w.cells slot = .empty ∧ after.cells slot = .failed (.scopeClosed slot)
  teardown : after.teardown = w.teardown ∨ after.teardown = .begun

theorem World.Retains.trans {w middle after : World σ V} (first : w.Retains middle)
    (second : middle.Retains after) : w.Retains after where
  cells slot := by
    rcases second.cells slot with same | ⟨empty, failed⟩
    · rw [same]
      exact first.cells slot
    · rcases first.cells slot with same | ⟨_, other⟩
      · exact .inr ⟨same ▸ empty, failed⟩
      · rw [other] at empty
        cases empty
  teardown := by
    rcases second.teardown with same | begun
    · rw [same]
      exact first.teardown
    · exact .inr begun

theorem passage_retains : Passage fun w after : Recorded σ V => w.Retains after where
  refl _ := ⟨fun _ => .inl rfl, .inl rfl⟩
  trans := .trans
  release _ := ⟨fun _ => .inl rfl, .inl rfl⟩
  update _ _ := ⟨fun _ => .inl rfl, .inl rfl⟩
  share _ := ⟨fun _ => .inl rfl, .inl rfl⟩

/-- In a scope that is closed, cells that are not empty and resources are spared. -/
theorem passage_spares : Passage fun w after : Recorded σ V => w.teardown.closed = true → w.Spares after where
  refl w _ := .refl w
  trans first second closed := (first closed).trans (second ((first closed).closed.trans closed))
  release _ _ := ⟨rfl, fun _ => .inl rfl⟩
  update _ _ _ := ⟨rfl, fun _ => .inl rfl⟩
  share _ _ := ⟨rfl, fun _ => .inl rfl⟩

namespace Program

/-- A program that does not read does the same wherever closing does the same. -/
theorem ReadFree.exec_eq {α : Type} {scope : Scope σ V} {handler other : Handler σ V} {program : Program σ V α}
    (free : program.ReadFree) (closes : handler.close = other.close) :
    program.exec scope handler = program.exec scope other := by
  induction program with
  | finish result => rfl
  | fail fault => rfl
  | panic text => rfl
  | read slot next => exact free.elim
  | close next ih =>
    rw [exec, exec, closes]
    exact Effect.andThen_congr fun answer => ih answer (free answer)
  | release next ih => exact Effect.andThen_congr fun _ => ih free
  | inspect next ih => exact Effect.andThen_congr fun w => ih _ (free _)
  | update change next ih =>
    exact Effect.andThen_congr fun w => Effect.andThen_congr fun _ => ih w.host (free w.host)

private theorem ReadFree.lift {α ρ : Type} {program : Program σ V α} (free : program.ReadFree) :
    (program.lift : Program (σ × ρ) V α).ReadFree := by
  induction program with
  | finish result => trivial
  | fail fault => trivial
  | panic text => trivial
  | read slot next => exact free.elim
  | close next ih => exact fun answer => ih answer (free answer)
  | release next ih => exact ih free
  | inspect next ih => exact fun view => ih view (free view)
  | update change next ih => exact fun before => ih before.1 (free before.1)

end Program

namespace Scope

variable {scope : Scope σ V} {called : CallSlot} {level : Nat}

/-- Once closing has begun, reads and closings leave cells and resources as they are. -/
theorem spares_chronicler (scope : Scope σ V) (level : Nat) :
    (∀ identifier, ((scope.chronicler level).read identifier).Within fun w after =>
      w.teardown.closed = true → w.Spares after) ∧
    (scope.chronicler level).close.Within fun w after => w.teardown.closed = true → w.Spares after := by
  cases level with
  | zero => exact ⟨fun _ => .starved, .starved⟩
  | succ level =>
    refine ⟨fun identifier w reply after ran closed => ?_, fun w reply after ran closed => ?_⟩
    · simp only [chronicler, Handler.noting, read_of_closed
        (show (w.note (.asked identifier w.plain)).teardown.closed = true from closed)] at ran
      cases ran
      have spares := scope.chronicled.spares_readShut identifier (w.note (.asked identifier w.plain))
      exact ⟨spares.teardown, spares.cells⟩
    · have rests : (scope.chronicler (level + 1)).close w = some (.ok (), w) := close_of_closed closed
      cases ran.symm.trans rests
      exact .refl _

/-- A closing puts nothing into cells and takes nothing, whatever closers do. -/
theorem retains_close (scope : Scope σ V) (level : Nat) :
    (scope.chronicler level).close.Within fun w after => w.Retains after := by
  cases level with
  | zero => exact .starved
  | succ level =>
    obtain ⟨reads, closes⟩ := scope.spares_chronicler level
    intro w reply after ran
    simp only [chronicler, Handler.noting] at ran
    unfold Scope.close at ran
    split at ran
    · cases ran
      exact passage_retains.refl w
    · have closed := within_andThen passage_spares (within_closeAll passage_spares reads closes
          (fun _ _ _ _ => ⟨rfl, fun _ => .inl rfl⟩) w.teardown.owned)
        (fun failures => .ofExcept passage_spares.refl (CloseError.ofFailures failures)) _ reply after ran rfl
      exact ⟨closed.cells, .inr closed.teardown⟩

private theorem readFree_chronicled (readFree : scope.recipes.All Program.ReadFree) :
    scope.chronicled.recipes.All Program.ReadFree := by
  refine ⟨fun entry member arguments => ?_, fun entry member receiver arguments => ?_⟩
  · obtain ⟨known, listed, rfl⟩ := List.mem_map.mp member
    exact fun _ _ => (readFree.1 known listed arguments).lift
  · obtain ⟨known, listed, rfl⟩ := List.mem_map.mp member
    exact fun _ _ => (readFree.2 known listed receiver arguments).lift

/-- Recipes that do not read do the same wherever closing does the same. -/
theorem invoke_eq_of_readFree {handler other : Handler σ V} (readFree : scope.recipes.All Program.ReadFree)
    (closes : handler.close = other.close) (receiver : called.Receiver V) (values : List (Arg V)) :
    scope.invoke handler called receiver values = scope.invoke other called receiver values := by
  cases called with
  | factory slot =>
    cases found : scope.recipes.findConstructor slot.product with
    | error failure =>
      simp only [invoke, found]
      rfl
    | ok recipe =>
      simp only [invoke, found, Effect.ofExcept_ok_andThen, runRecipe,
        (readFree.constructor found _).exec_eq closes]
  | injector slot =>
    cases found : scope.recipes.findMethod slot.receiverType slot.targetMethod with
    | error failure =>
      simp only [invoke, found]
      rfl
    | ok recipe =>
      simp only [invoke, found, Effect.ofExcept_ok_andThen, runRecipe,
        (readFree.method found receiver _).exec_eq closes]

/-- Without reads, a call does nothing to the scope but that it may close it. -/
theorem retains_invoke (readFree : scope.recipes.All Program.ReadFree)
    (required : scope.recipes.require called.callable = .ok ()) (receiver : called.Receiver V)
    (values : List (Arg V)) :
    (scope.chronicled.invoke (scope.chronicler level) called receiver values).Within
      fun w after => w.Retains after := by
  let mute : Handler (σ × List (Event σ V)) V := ⟨fun _ => .starved, (scope.chronicler level).close⟩
  have reads (identifier : String) : (mute.read identifier).Within fun w after => w.Retains after :=
    .starved
  rw [invoke_eq_of_readFree (readFree_chronicled readFree)
    (show (scope.chronicler level).close = mute.close from rfl)]
  have started := within_invoke passage_retains reads (scope.retains_close level) required receiver values
  exact started.mono fun retains => ⟨retains.cells, retains.teardown⟩

/-- From the start of the recipe to the end of the call, nothing is kept. -/
theorem retains_perform (readFree : scope.recipes.All Program.ReadFree)
    (required : scope.recipes.require called.callable = .ok ()) {given : List (Instance V)}
    {w middle : World σ V} {receiver : called.Receiver V} {values : List (Arg V)}
    (accepts : Accepts scope.unbounded called given w receiver values middle) :
    middle.Retains (scope.perform (called.call given) w).2 := by
  let unwritten : Recorded σ V := w.map fun host => (host, [])
  have below : scope.potential unwritten.plain < scope.potential w + 1 := Nat.lt_succ_self _
  obtain ⟨begun, rfl, recorded⟩ := (accepts_chronicler below).mp accepts
  obtain ⟨answer, last, performed, _⟩ :=
    exists_performWith (scope.answering_chronicler _) (called.call given) (w := unwritten) below
  have plain := simulates_performWith scope.mirrors_chronicled (scope.simulates_chronicler _)
    (called.call given) performed
  rw [show World.map Prod.fst unwritten = w from rfl,
    performWith_handler (called.call given) (Nat.lt_succ_self _), Option.some_inj] at plain
  rw [performWith_call, recorded.call_eq] at performed
  obtain ⟨⟨reply, _⟩, invoked, same⟩ := Option.map_eq_some_iff.mp performed
  cases same
  have retains := retains_invoke readFree required receiver values _ _ _ invoked
  rw [plain]
  exact ⟨retains.cells, retains.teardown⟩

end Scope

end Retaining

end Wiring
