import Wiring.Proofs.Scope.Passage

/-! # Once closing has begun

Every rule that could start a recipe asks first whether the scope is open. Once closing has begun, a
read is therefore answered from what is there, or else fails before it reads anything itself, and a
call fails as soon as its arguments have been counted. The closers that are still to be run can read
as well, but they come no further either.

So the first closing divides a chronicle. As long as no recipe closes the scope, a read that is
asked for before it is also answered before it, and no recipe is started behind it. Main statements:
`Scope.read_of_closed` and `Scope.divides_runWith`.
-/

namespace Wiring

variable {σ ρ V ε α : Type}

namespace Scope

/-- How a read is answered once closing has begun, and the world that it leaves: an empty cell is
settled with the failure, and nothing else changes. -/
def readShut (scope : Scope σ V) (identifier : String) (w : World σ V) :
    Reply RuntimeError (Instance V) × World σ V :=
  match scope.served? (scope.target identifier) with
  | some (.ready value) => (.ok value, w)
  | some (.cached slot) =>
    match (w.cells slot.identifier).answer? slot.identifier with
    | some answer => (.ofExcept answer, w)
    | none => (.error (.scopeClosed slot.identifier),
        w.setCell slot.identifier (.failed (.scopeClosed slot.identifier)))
  | some (.aliased _) | none => (.error (.unknownSlot (scope.target identifier)), w)

section Rules

/-! ## The rules in a scope that is closed -/

variable {scope : Scope σ V} {handler : Handler σ V} {w : World σ V}
  (closed : w.teardown.closed = true)

include closed

theorem checkOpen_of_closed (slot : String) :
    (checkOpen slot : ScopeStep σ V RuntimeError Unit) w = some (.error (.scopeClosed slot), w) := by
  simp only [checkOpen, Teardown.checkOpen, closed, ↓reduceIte]
  rfl

/-- Nothing is created in a scope that is closed. -/
theorem create_of_closed (slot : CachedSlot) :
    scope.create handler slot w = some (.error (.scopeClosed slot.identifier), w) := by
  simp only [create, Effect.andThen, checkOpen_of_closed closed]

/-- Once closing has begun, a read needs no handler: it creates nothing. -/
theorem read_of_closed (identifier : String) :
    scope.read handler identifier w = some (scope.readShut identifier w) := by
  unfold read readShut
  cases scope.served? (scope.target identifier) with
  | none => rfl
  | some served =>
    cases served with
    | ready value => rfl
    | aliased target => rfl
    | cached slot =>
      cases answered : (w.cells slot.identifier).answer? slot.identifier with
      | some answer => simp only [access, answered, Effect.ofExcept_eq]
      | none =>
        have marked : (w.setCell slot.identifier .creating).teardown.closed = true := closed
        simp only [access, answered, create_of_closed marked, Cell.settled, World.setCell_setCell]

/-- Closing again does nothing. -/
theorem close_of_closed : scope.close handler w = some (.ok (), w) := by
  simp only [close, closed, ↓reduceIte]
  rfl

/-- A factory of a closed scope counts its arguments first, and then fails by its name. -/
theorem callFactory_of_closed (slot : FactorySlot) (given : List (Instance V)) :
    scope.callFactory handler slot given w =
      some (.error (if slot.parameters.length = given.length then .scopeClosed slot.identifier
        else .arityMismatch slot.identifier slot.parameters.length given.length), w) := by
  by_cases arity : slot.parameters.length = given.length
  · cases alive : w.alive <;>
      simp [callFactory, Effect.andThen, checkArity, arity, Effect.ok, checkAlive, alive, Effect.error,
        checkOpen_of_closed closed]
  · simp [callFactory, Effect.andThen, checkArity, arity, Effect.error]

/-- So does an injector. -/
theorem callInjector_of_closed (slot : InjectorSlot) (given : List (Instance V)) :
    scope.callInjector handler slot given w =
      some (.error (if slot.parameters.length = given.length then .scopeClosed slot.identifier
        else .arityMismatch slot.identifier slot.parameters.length given.length), w) := by
  by_cases arity : slot.parameters.length = given.length
  · cases alive : w.alive <;>
      simp [callInjector, Effect.andThen, checkArity, arity, Effect.ok, checkAlive, alive, Effect.error,
        checkOpen_of_closed closed]
  · simp [callInjector, Effect.andThen, checkArity, arity, Effect.error]

end Rules

end Scope

/-- Nothing is taken any more, and only cells that are empty change: they are settled with the
failure. -/
structure World.Spares (w after : World σ V) : Prop where
  teardown : after.teardown = w.teardown
  cells slot : after.cells slot = w.cells slot ∨
    w.cells slot = .empty ∧ after.cells slot = .failed (.scopeClosed slot)

namespace World.Spares

variable {w middle after : World σ V}

theorem refl (w : World σ V) : w.Spares w := ⟨rfl, fun _ => .inl rfl⟩

theorem trans (first : w.Spares middle) (second : middle.Spares after) : w.Spares after where
  teardown := second.teardown.trans first.teardown
  cells slot := by
    rcases second.cells slot with same | ⟨empty, failed⟩
    · rw [same]
      exact first.cells slot
    · rcases first.cells slot with same | ⟨_, other⟩
      · exact .inr ⟨same ▸ empty, failed⟩
      · rw [other] at empty
        cases empty

theorem closed (spares : w.Spares after) : after.teardown.closed = w.teardown.closed := by
  rw [spares.teardown]

theorem setCell {slot : String} (empty : w.cells slot = .empty) :
    w.Spares (w.setCell slot (.failed (.scopeClosed slot))) where
  teardown := rfl
  cells other := by
    by_cases same : other = slot
    · subst same
      exact .inr ⟨empty, if_pos rfl⟩
    · exact .inl (if_neg same)

end World.Spares

namespace Scope

/-- A read changes the cell at the end of the aliases at most. -/
theorem readShut_world (scope : Scope σ V) (identifier : String) (w : World σ V) :
    (scope.readShut identifier w).2 = w ∨ ∃ slot, w.cells slot = .empty ∧
      (scope.readShut identifier w).2 = w.setCell slot (.failed (.scopeClosed slot)) := by
  unfold readShut
  split
  · exact .inl rfl
  next slot _ =>
    cases cell : w.cells slot.identifier with
    | empty => exact .inr ⟨slot.identifier, cell, rfl⟩
    | creating => exact .inl rfl
    | cached value => exact .inl rfl
    | failed failure => exact .inl rfl
  · exact .inl rfl
  · exact .inl rfl

/-- A read that is answered so does not unwind. -/
theorem readShut_reply (scope : Scope σ V) (identifier : String) (w : World σ V) :
    ∃ result, (scope.readShut identifier w).1 = .ofExcept result := by
  unfold readShut
  split
  next value _ => exact ⟨.ok value, rfl⟩
  next slot _ =>
    split
    next answer _ => exact ⟨answer, rfl⟩
    next => exact ⟨.error _, rfl⟩
  · exact ⟨.error _, rfl⟩
  · exact ⟨.error _, rfl⟩

/-- Reading in a closed scope spares what is there. -/
theorem spares_readShut (scope : Scope σ V) (identifier : String) (w : World σ V) :
    w.Spares (scope.readShut identifier w).2 := by
  rcases scope.readShut_world identifier w with same | ⟨slot, empty, settled⟩
  · rw [same]
    exact .refl w
  · rw [settled]
    exact .setCell empty

end Scope

/-! ## What a chronicle tells before and after -/

/-- What may be told of a scope according to whether closing has begun. -/
def Event.Heeds (scope : Scope σ V) (closed : Bool) : Event σ V → Prop
  | asked _ w => w.teardown.closed = closed
  | answered identifier before reply after =>
    before.teardown.closed = closed ∧ after.teardown.closed = closed ∧
      (closed = true → (reply, after) = scope.readShut identifier before)
  | started _ _ => closed = false
  | closing _ => closed = true
  | .closed _ _ => closed = true

theorem Event.heeds_of_isClosing {scope : Scope σ V} {closed : Bool} {event : Event σ V}
    (closing : event.isClosing = true) (shut : closed = true) : event.Heeds scope closed := by
  rcases Event.cases_of_isClosing closing with ⟨value, rfl⟩ | ⟨value, reply, rfl⟩
  · exact shut
  · exact shut

/-- What a step does that is not itself the closing of the scope. -/
structure Heeds (scope : Scope σ V) (w after : Recorded σ V) : Prop where
  closed : after.teardown.closed = w.teardown.closed
  alive : after.alive = w.alive
  held : after.held = true → w.held = true
  spares : w.teardown.closed = true → w.Spares after
  told : ∃ events, after.events = w.events ++ events ∧
    ∀ event ∈ events, event.Heeds scope w.teardown.closed

namespace Heeds

variable {scope : Scope σ V} {w middle after : Recorded σ V}

theorem trans (first : Heeds scope w middle) (second : Heeds scope middle after) :
    Heeds scope w after where
  closed := second.closed.trans first.closed
  alive := second.alive.trans first.alive
  held holds := first.held (second.held holds)
  spares closed := (first.spares closed).trans (second.spares (first.closed.trans closed))
  told := by
    obtain ⟨events, written, heeds⟩ := first.told
    obtain ⟨later, more, heeding⟩ := second.told
    rw [first.closed] at heeding
    refine ⟨events ++ later, by rw [more, written, List.append_assoc], fun event member => ?_⟩
    exact (List.mem_append.mp member).elim (heeds event) (heeding event)

/-- Neither the cells nor the resources change, and nothing is told. -/
theorem same (teardown : after.teardown = w.teardown) (cells : after.cells = w.cells)
    (alive : after.alive = w.alive) (held : after.held = true → w.held = true)
    (events : after.events = w.events) : Heeds scope w after where
  closed := by rw [teardown]
  alive := alive
  held := held
  spares _ := ⟨teardown, fun slot => .inl (by rw [cells])⟩
  told := ⟨[], by rw [events, List.append_nil], List.forall_mem_nil _⟩

theorem note {event : Event σ V} (heeds : event.Heeds scope w.teardown.closed) :
    Heeds scope w (w.note event) where
  closed := rfl
  alive := rfl
  held := id
  spares _ := ⟨rfl, fun _ => .inl rfl⟩
  told := ⟨[event], rfl, by simpa using heeds⟩

/-- In a scope that is open, cells may change as they like. -/
theorem setCell (opened : w.teardown.closed = false) (slot : String) (content : Cell (Instance V)) :
    Heeds scope w (w.setCell slot content) where
  closed := rfl
  alive := rfl
  held := id
  spares closed := nomatch opened.symm.trans closed
  told := ⟨[], by simp [World.events, World.setCell], List.forall_mem_nil _⟩

end Heeds

namespace Scope

variable {scope : Scope σ V} {w after : Recorded σ V}

theorem passage_heeds (scope : Scope σ V) : Passage (Heeds scope) where
  refl _ := .same rfl rfl rfl id rfl
  trans := .trans
  release _ := .same rfl rfl rfl nofun rfl
  update _ _ := .same rfl rfl rfl id rfl
  share _ := .same rfl rfl rfl id rfl

/-- What a closer does, which is started only once closing has begun. -/
theorem passage_heeds_of_closed (scope : Scope σ V) :
    Passage fun w after : Recorded σ V => w.teardown.closed = true → Heeds scope w after where
  refl w _ := scope.passage_heeds.refl w
  trans first second closed := (first closed).trans (second ((first closed).closed.trans closed))
  release w _ := scope.passage_heeds.release w
  update w state _ := scope.passage_heeds.update w state
  share w _ := scope.passage_heeds.share w

/-- A recipe is started only while the scope is open. -/
theorem Starting.heeds {slot : String} (opened : w.teardown.closed = false)
    (starting : scope.Starting (Heeds scope) slot w after) : Heeds scope w after := by
  rcases starting with heeds | ⟨middle, before, behind⟩
  · exact heeds
  · have started : Heeds scope middle (middle.note (.started slot (scope.state? middle.plain slot))) :=
      .note (before.closed.trans opened)
    exact (before.trans started).trans behind

/-- However deeply requests nest, a read is answered so in a scope that is closed. -/
theorem chronicler_read_of_closed (scope : Scope σ V) {level : Nat} {identifier : String}
    {reply : Reply RuntimeError (Instance V)} (closed : w.teardown.closed = true)
    (ran : (scope.chronicler level).read identifier w = some (reply, after)) :
    (reply, after.plain) = scope.readShut identifier w.plain := by
  cases level with
  | zero => cases ran
  | succ level =>
    have plain := (scope.simulates_chronicler (level + 1)).read identifier w reply after ran
    have before : w.plain.teardown.closed = true := closed
    have shut : (scope.handler (level + 1)).read identifier w.plain =
        some (scope.readShut identifier w.plain) := read_of_closed before identifier
    exact Option.some.inj (plain.symm.trans shut)

/-- In a scope that is closed, a read does as it is said to. -/
theorem heeds_read_of_closed {handler : Handler (σ × List (Event σ V)) V} {identifier : String}
    {reply : Reply RuntimeError (Instance V)} (closed : w.teardown.closed = true)
    (ran : scope.chronicled.read handler identifier w = some (reply, after)) : Heeds scope w after := by
  obtain rfl : after = (scope.chronicled.readShut identifier w).2 := by
    rw [read_of_closed closed, Option.some_inj] at ran
    rw [ran]
  rcases scope.chronicled.readShut_world identifier w with same | ⟨slot, empty, settled⟩
  · rw [same]
    exact scope.passage_heeds.refl w
  · rw [settled]
    exact ⟨rfl, rfl, id, fun _ => .setCell empty, [], by simp [World.events, World.setCell],
      List.forall_mem_nil _⟩

/-- Reads neither open nor close the scope, and closing a scope that is closed does nothing. -/
structure Heeding (scope : Scope σ V) (handler : Handler (σ × List (Event σ V)) V) : Prop where
  reads identifier : (handler.read identifier).Within (Heeds scope)
  closes : handler.close.Within fun w after => w.teardown.closed = true → Heeds scope w after

section Steps

variable {handler : Handler (σ × List (Event σ V)) V} (heeding : scope.Heeding handler)

include heeding

private theorem heeds_closeAll (owned : List (String × Instance V)) :
    (Teardown.closeAll (scope.chronicled.closeInstance handler) owned :
      ScopeStep (σ × List (Event σ V)) V CloseError (List CloseFailure)).Within
        fun w after => w.teardown.closed = true → Heeds scope w after :=
  within_closeAll scope.passage_heeds_of_closed
    (fun identifier w reply after ran _ => heeding.reads identifier w reply after ran) heeding.closes
    (fun _ _ closing closed => .note (Event.heeds_of_isClosing closing closed)) owned

private theorem heeds_own (slot : String) (value : Instance V) :
    (scope.chronicled.own handler slot value).Within (Heeds scope) := by
  have passage := scope.passage_heeds
  have late := scope.passage_heeds_of_closed
  unfold own
  split
  · intro w reply after ran
    unfold register at ran
    split at ran
    next closed =>
      refine within_andThen late ?_ (fun _ => .error late.refl _) w reply after ran closed
      exact within_closeInstance late
        (fun identifier w reply after ran _ => heeding.reads identifier w reply after ran)
        heeding.closes (fun _ _ closing closed => .note (Event.heeds_of_isClosing closing closed)) value
    next opened =>
      cases ran
      exact ⟨rfl, rfl, id, fun closed => absurd closed opened, [], by simp [World.events],
        List.forall_mem_nil _⟩
  · exact .error passage.refl _

variable (free : scope.recipes.All Program.CloseFree)

include free

private theorem heeds_read_of_open {identifier : String} {reply : Reply RuntimeError (Instance V)}
    (opened : w.teardown.closed = false)
    (ran : scope.chronicled.read handler identifier w = some (reply, after)) :
    Heeds scope w after := by
  have passage := scope.passage_heeds
  rcases read_cases ran with ⟨slot, _, accessed⟩ | ⟨_, rfl⟩
  · rcases access_cases accessed with ⟨_, _, _, rfl⟩ | ⟨_, middle, created, rfl⟩
    · exact passage.refl _
    · have marked : Heeds scope w (w.setCell slot.identifier .creating) := .setCell opened _ _
      have starting := within_create passage heeding.reads (.inl free) (heeds_own heeding _) _ _ _ created
      have creation := marked.trans (starting.heeds (marked.closed.trans opened))
      exact creation.trans (.setCell (creation.closed.trans opened) _ _)
  · exact passage.refl _

end Steps

/-- However deeply requests nest. -/
theorem heeding_chronicler (free : scope.recipes.All Program.CloseFree) (level : Nat) :
    scope.Heeding (scope.chronicler level) := by
  induction level with
  | zero => exact ⟨fun _ => .starved, .starved⟩
  | succ level ih =>
    refine ⟨fun identifier w reply after ran => ?_, fun w reply after ran closed => ?_⟩
    · have answered (closed : w.teardown.closed = true) := scope.chronicler_read_of_closed closed ran
      obtain ⟨middle, found, rfl⟩ := scope.chronicler_read ran
      have asked : Heeds scope w (w.note (.asked identifier w.plain)) := .note rfl
      have reading : Heeds scope (w.note (.asked identifier w.plain)) middle := by
        cases closed : w.teardown.closed with
        | true => exact heeds_read_of_closed closed found
        | false => exact heeds_read_of_open ih free closed found
      have led := asked.trans reading
      exact led.trans (.note ⟨led.closed.symm, rfl, fun closed => answered (led.closed.symm.trans closed)⟩)
    · have rests : (scope.chronicler (level + 1)).close w = some (.ok (), w) := close_of_closed closed
      cases ran.symm.trans rests
      exact scope.passage_heeds.refl w

end Scope

/-! ## Operations -/

/-- The first closing divides what is told. -/
structure Divides (scope : Scope σ V) (w after : Recorded σ V) : Prop where
  spares : w.teardown.closed = true → w.Spares after
  told : ∃ early late, after.events = w.events ++ (early ++ late) ∧
    (∀ event ∈ early, event.Heeds scope false) ∧ (∀ event ∈ late, event.Heeds scope true) ∧
    (w.teardown.closed = true → early = []) ∧ (after.teardown.closed = false → late = [])

namespace Divides

variable {scope : Scope σ V} {w middle after : Recorded σ V}

theorem trans (first : Divides scope w middle) (second : Divides scope middle after) :
    Divides scope w after := by
  refine ⟨fun closed => ?_, ?_⟩
  · have spares := first.spares closed
    exact spares.trans (second.spares (spares.closed.trans closed))
  · obtain ⟨early, late, written, open₁, shut₁, none₁, idle₁⟩ := first.told
    obtain ⟨earlier, later, more, open₂, shut₂, none₂, idle₂⟩ := second.told
    cases closed : middle.teardown.closed with
    | true =>
      obtain rfl := none₂ closed
      refine ⟨early, late ++ later, by simp [more, written], open₁, fun event member => ?_, none₁,
        fun opened => ?_⟩
      · exact (List.mem_append.mp member).elim (shut₁ event) (shut₂ event)
      · exact nomatch opened.symm.trans ((second.spares closed).closed.trans closed)
    | false =>
      obtain rfl := idle₁ closed
      refine ⟨early ++ earlier, later, by simp [more, written], fun event member => ?_, shut₂,
        fun shut => ?_, idle₂⟩
      · exact (List.mem_append.mp member).elim (open₁ event) (open₂ event)
      · exact nomatch closed.symm.trans ((first.spares shut).closed.trans shut)

theorem of_heeds (heeds : Heeds scope w after) : Divides scope w after := by
  obtain ⟨events, written, told⟩ := heeds.told
  refine ⟨heeds.spares, ?_⟩
  cases closed : w.teardown.closed with
  | true =>
    refine ⟨[], events, by simpa using written, List.forall_mem_nil _, closed ▸ told, fun _ => rfl,
      fun opened => ?_⟩
    exact nomatch opened.symm.trans (heeds.closed.trans closed)
  | false => exact ⟨events, [], by simpa using written, closed ▸ told, List.forall_mem_nil _, nofun, fun _ => rfl⟩

/-- The scope ceases to be alive. -/
theorem gone (w : Recorded σ V) : Divides scope w { w with alive := false } where
  spares _ := ⟨rfl, fun _ => .inl rfl⟩
  told := ⟨[], [], by simp [World.events], List.forall_mem_nil _, List.forall_mem_nil _, fun _ => rfl,
    fun _ => rfl⟩

end Divides

/-- What an operation does before the scope is settled. -/
structure Performs (scope : Scope σ V) (w after : Recorded σ V) : Prop extends Divides scope w after where
  alive : after.alive = w.alive
  held : after.held = true → w.held = true

theorem Performs.of_heeds {scope : Scope σ V} {w after : Recorded σ V} (heeds : Heeds scope w after) :
    Performs scope w after :=
  ⟨.of_heeds heeds, heeds.alive, heeds.held⟩

/-- Between two operations a scope is alive as long as the client refers to it, and then it is
closed. -/
structure World.Attended (w : World σ V) : Prop where
  alive : w.alive = w.held
  closed : w.held = false → w.teardown.closed = true

namespace Scope

variable {scope : Scope σ V} {w after : Recorded σ V} {level : Nat}
  (free : scope.recipes.All Program.CloseFree)

include free

/-- Closing goes on in a scope that is closed. -/
theorem heeds_close_of_open {reply : Reply CloseError Unit} (opened : w.teardown.closed = false)
    (ran : (scope.chronicler level).close w = some (reply, after)) :
    Heeds scope { w with teardown := .begun } after := by
  cases level with
  | zero => cases ran
  | succ level =>
    have late := scope.passage_heeds_of_closed
    have ran : scope.chronicled.close (scope.chronicler level) w = some (reply, after) := ran
    unfold Scope.close at ran
    rw [if_neg (by simp [opened])] at ran
    exact within_andThen late (heeds_closeAll (heeding_chronicler free level) w.teardown.owned)
      (fun failures => .ofExcept late.refl (CloseError.ofFailures failures)) _ reply after ran rfl

/-- A scope is closed once closing has come back, however it did. -/
theorem closed_after_close {reply : Reply CloseError Unit}
    (ran : (scope.chronicler level).close w = some (reply, after)) : after.teardown.closed = true := by
  cases closed : w.teardown.closed with
  | true => exact ((heeding_chronicler free level).closes w reply after ran closed).closed.trans closed
  | false => exact (heeds_close_of_open free closed ran).closed

theorem performs_close {reply : Reply CloseError Unit}
    (ran : (scope.chronicler level).close w = some (reply, after)) : Performs scope w after := by
  cases closed : w.teardown.closed with
  | true => exact .of_heeds ((heeding_chronicler free level).closes w reply after ran closed)
  | false =>
    have heeds := heeds_close_of_open free closed ran
    obtain ⟨events, written, told⟩ := heeds.told
    refine ⟨⟨fun shut => (nomatch closed.symm.trans shut), [], events, written, List.forall_mem_nil _,
      told, fun _ => rfl, fun opened => ?_⟩, heeds.alive, heeds.held⟩
    exact nomatch opened.symm.trans heeds.closed

theorem performs_performWith {operation : Operation V} {answer : Answer V}
    (performed : scope.chronicled.performWith (scope.chronicler level) operation w =
      some (answer, after)) : Performs scope w after := by
  have passage := scope.passage_heeds
  have reads := (heeding_chronicler free level).reads
  refine within_performWith (fun slot _ => ?_) (fun slot given _ => ?_) (fun slot given _ => ?_)
    (fun _ _ _ ran => performs_close free ran) (fun w => .of_heeds (passage.release w)) performed
  · exact .mono (within_readAlive passage reads slot) .of_heeds
  · intro w reply after ran
    cases closed : w.teardown.closed with
    | true =>
      rw [callFactory_of_closed closed] at ran
      cases ran
      exact .of_heeds (passage.refl w)
    | false =>
      have starting := within_callFactory passage reads (.inl free) slot given _ _ _ ran
      exact .of_heeds (starting.heeds closed)
  · intro w reply after ran
    cases closed : w.teardown.closed with
    | true =>
      rw [callInjector_of_closed closed] at ran
      cases ran
      exact .of_heeds (passage.refl w)
    | false =>
      have starting := within_callInjector passage reads (.inl free) slot given _ _ _ ran
      exact .of_heeds (starting.heeds closed)

private theorem divides_settleWith {reply : Reply CloseError Unit}
    (settled : settleWith (scope.chronicler level) w = some (reply, after)) : Divides scope w after :=
  within_settleWith (.of_heeds (scope.passage_heeds.refl w))
    (fun _ _ _ ran => (performs_close free ran).toDivides) .trans (.gone w) settled

private theorem attended_operate {operation : Operation V} {answer : Answer V} {middle : Recorded σ V}
    (performed : scope.chronicled.performWith (scope.chronicler level) operation w =
      some (answer, middle))
    {reply : Reply CloseError Unit}
    (settled : settleWith (scope.chronicler level) middle = some (reply, after))
    (attended : w.Attended) : after.Attended := by
  have performs := performs_performWith free performed
  have alive := performs.alive.trans attended.alive
  unfold settleWith at settled
  split at settled
  next rests =>
    cases settled
    cases held : after.held with
    | true => exact ⟨by rw [alive, performs.held held, held], fun released => nomatch held.symm.trans released⟩
    | false =>
      have gone : after.alive = false := by simpa [held] using rests
      have closed := attended.closed (alive.symm.trans gone)
      exact ⟨gone.trans held.symm, fun _ => (performs.spares closed).closed.trans closed⟩
  next closing =>
    have released : middle.held = false := by
      cases held : middle.held <;> simp_all
    have settles := performs_close free settled
    have gone : after.held = false := by
      cases held : after.held with
      | true => exact nomatch released.symm.trans (settles.held held)
      | false => rfl
    exact ⟨settles.alive.trans gone.symm, fun _ => closed_after_close free settled⟩

/-- The first closing divides a run, too. -/
theorem divides_runWith {operations : List (Operation V)} {answers : List (Answer V)}
    (ran : scope.chronicled.runWith (scope.chronicler level) operations w = some (answers, after)) :
    Divides scope w after ∧ (w.Attended → after.Attended) := by
  let rel (w after : Recorded σ V) : Prop := Divides scope w after ∧ (w.Attended → after.Attended)
  have refl (w : Recorded σ V) : rel w w := ⟨.of_heeds (scope.passage_heeds.refl w), id⟩
  have trans {w middle after : Recorded σ V} (first : rel w middle) (second : rel middle after) :
      rel w after := ⟨first.1.trans second.1, second.2 ∘ first.2⟩
  refine within_runWith refl trans (fun _ _ w _ middle _ after performed settled => ⟨?_, ?_⟩) ran
  · exact (performs_performWith free performed).toDivides.trans (divides_settleWith free settled)
  · exact attended_operate free performed settled

end Scope

end Wiring
