import Mathlib.Data.List.Nodup
import Wiring.Proofs.Scope.Creation

/-! # The ledger of a scope

An instance that the scope has to close is registered at the end of its creation, just before its
cell is settled. As long as no recipe closes the scope, nothing comes between the two: the resources
that are owned are those of the cached slots which are marked for the teardown, in the order in
which the slots became cached. A creation has read whatever its slot reads eagerly, so in this order
a slot comes after all that it reads.

A ledger says this of a world and of its chronicle. Main statement: `Scope.bookkeeping_chronicler`,
every read keeps the ledger, at whatever level.
-/

namespace Wiring

variable {σ V ε α β : Type}

namespace Scope

/-- The scope serves a cached slot there, which it has to close. -/
def owns (scope : Scope σ V) (slot : String) : Bool :=
  match scope.served? slot with
  | some (.cached cached) => cached.closeOnTeardown
  | _ => false

/-- The slot that became cached while the read was answered. -/
def publication? (scope : Scope σ V) : Event σ V → Option String
  | .answered identifier before _ after =>
    let slot := scope.target identifier
    if (before.cells slot).state = .empty ∧ (after.cells slot).state = .cached then some slot else none
  | .asked _ _ => none
  | .started _ _ => none
  | .closing _ => none
  | .closed _ _ => none

/-- The slots in the order in which they became cached. -/
def published (scope : Scope σ V) (events : List (Event σ V)) : List String :=
  events.filterMap scope.publication?

/-- What the read of this identifier ends at is cached, where it has a cell. -/
def Available (scope : Scope σ V) (w : Recorded σ V) (identifier : String) : Prop :=
  ∀ slot, scope.served? (scope.target identifier) = some (.cached slot) →
    (w.cells slot.identifier).state = .cached

end Scope

/-- The closers that have been started and have ended, in order. -/
def closings (events : List (Event σ V)) : List (Event σ V) := events.filter Event.isClosing

/-- The slots that have become cached, and the resources that are owned for them. -/
structure Ledger (scope : Scope σ V) (w : Recorded σ V) : Prop where
  nodup : (scope.published w.events).Nodup
  cached slot : slot ∈ scope.published w.events ↔ (w.cells slot).state = .cached
  served : ∀ slot ∈ scope.published w.events, ∃ cached, scope.served? slot = some (.cached cached)
  ordered before slot after : scope.published w.events = before ++ slot :: after →
    ∀ read, scope.plan.Eager slot read → ∀ cached,
      scope.served? (scope.target read) = some (.cached cached) → cached.identifier ∈ before
  owned : w.teardown.closed = false →
    w.teardown.owned.map Prod.fst = (scope.published w.events).filter scope.owns
  held : ∀ entry ∈ w.teardown.owned, w.cells entry.1 = .cached entry.2
  closable : ∀ entry ∈ w.teardown.owned, (scope.host.closerOf entry.2.content).isSome = true
  idle : w.teardown.closed = false → closings w.events = []

/-- What a step keeps that is not itself the closing of the scope. Once closing has begun, it adds
nothing to the ledger. -/
structure Keeps (scope : Scope σ V) (w after : Recorded σ V) : Prop where
  alive : after.alive = w.alive
  closed : after.teardown.closed = w.teardown.closed
  cells slot : (w.cells slot).isEmpty = false → after.cells slot = w.cells slot
  closings : closings after.events = closings w.events
  shut : w.teardown.closed = true →
    scope.published after.events = scope.published w.events ∧ after.teardown.owned = w.teardown.owned
  ledger : Ledger scope w → Ledger scope after

namespace Keeps

variable {scope : Scope σ V} {w middle after : Recorded σ V}

/-- What two steps keep, both together keep. -/
theorem trans (first : Keeps scope w middle) (second : Keeps scope middle after) :
    Keeps scope w after where
  alive := second.alive.trans first.alive
  closed := second.closed.trans first.closed
  cells := World.KeepsFilled.trans first.cells second.cells
  closings := second.closings.trans first.closings
  shut closed := by
    obtain ⟨published, owned⟩ := first.shut closed
    obtain ⟨published', owned'⟩ := second.shut (first.closed.trans closed)
    exact ⟨published'.trans published, owned'.trans owned⟩
  ledger ledger := second.ledger (first.ledger ledger)

/-- Cells, resources and the chronicle stay, as far as the ledger goes. -/
theorem same (cells : after.cells = w.cells) (teardown : after.teardown = w.teardown)
    (published : scope.published after.events = scope.published w.events)
    (closings : Wiring.closings after.events = Wiring.closings w.events)
    (alive : after.alive = w.alive) : Keeps scope w after where
  alive := alive
  closed := by rw [teardown]
  cells slot _ := by rw [cells]
  closings := closings
  shut _ := ⟨published, by rw [teardown]⟩
  ledger ledger := by
    refine ⟨?_, ?_, ?_, ?_, ?_, ?_, ?_, ?_⟩ <;> simp only [cells, teardown, published, closings]
    · exact ledger.nodup
    · exact ledger.cached
    · exact ledger.served
    · exact ledger.ordered
    · exact ledger.owned
    · exact ledger.held
    · exact ledger.closable
    · exact ledger.idle

theorem available (keeps : Keeps scope w after) {identifier : String}
    (available : scope.Available w identifier) : scope.Available after identifier := by
  intro slot served
  have cached := available slot served
  rw [keeps.cells slot.identifier (Cell.isEmpty_of_state cached nofun), cached]

end Keeps

/-- Whatever touches neither cells nor resources keeps the ledger. -/
theorem Scope.passage_keeps (scope : Scope σ V) : Passage (Keeps scope) where
  refl _ := .same rfl rfl rfl rfl rfl
  trans := .trans
  release _ := .same rfl rfl rfl rfl rfl
  update _ _ := .same rfl rfl rfl rfl rfl
  share _ := .same rfl rfl rfl rfl rfl

/-- An event that the ledger does not take in. -/
theorem keeps_note {scope : Scope σ V} {event : Event σ V} (w : Recorded σ V)
    (silent : scope.publication? event = none) (quiet : event.isClosing = false) :
    Keeps scope w (w.note event) := by
  refine .same rfl rfl ?_ ?_ rfl
  · simp [World.events, World.note, Scope.published, silent]
  · simp [World.events, World.note, closings, quiet]

section Endings

/-! ## Steps that do not succeed -/

variable {W : Type} {rel : W → W → Prop}

/-- Where the step does not succeed, it ends in a world that is related to the one where it
starts. -/
def Effect.Fails (rel : W → W → Prop) (step : Effect W ε α) : Prop :=
  ∀ w reply after, step w = some (reply, after) → (∀ value, reply ≠ .ok value) → rel w after

theorem Effect.Fails.andThen {first : Effect W ε α} {next : α → Effect W ε β}
    (trans : ∀ {w middle after}, rel w middle → rel middle after → rel w after)
    (start : first.Within rel) (rest : ∀ value, (next value).Fails rel) :
    (first.andThen next).Fails rel := by
  intro w reply after ran failed
  rcases Effect.andThen_cases ran with ⟨value, middle, begun, ended⟩ | ⟨_, erred, _⟩ | ⟨_, unwound, _⟩
  · exact trans (start w _ middle begun) (rest value middle reply after ended failed)
  · exact start w _ after erred
  · exact start w _ after unwound

end Endings

namespace Scope

variable {scope : Scope σ V} {handler : Handler (σ × List (Event σ V)) V} {w after : Recorded σ V}

/-- A start of a recipe is nothing to the ledger. -/
theorem Starting.keeps {slot : String} (starting : scope.Starting (Keeps scope) slot w after) :
    Keeps scope w after := by
  rcases starting with keeps | ⟨middle, before, behind⟩
  · exact keeps
  · exact (before.trans (keeps_note middle rfl rfl)).trans behind

/-- Reads keep the ledger, and are answered with what is available then. -/
structure Bookkeeping (scope : Scope σ V) (handler : Handler (σ × List (Event σ V)) V) : Prop where
  reads identifier : (handler.read identifier).Within (Keeps scope)
  available identifier : (handler.read identifier).Ends (scope.Available · identifier)
  closes : handler.close.Within fun w after => w.teardown.closed = true → Keeps scope w after

section Enlisting

/-! ## Taking what has to be closed -/

/-- The instance of a slot that has to be closed can be closed and is taken; any other is not. -/
structure Enlists (scope : Scope σ V) (slot : CachedSlot) (value : Instance V)
    (before after : Teardown (Instance V)) : Prop where
  unmarked : slot.closeOnTeardown = false → after = before
  marked : slot.closeOnTeardown = true →
    (scope.host.closerOf value.content).isSome = true ∧ after = before.take slot.identifier value

variable {slot : CachedSlot} {value : Instance V} {before after : Teardown (Instance V)}

private theorem Enlists.closed (enlists : scope.Enlists slot value before after) :
    after.closed = before.closed := by
  cases mark : slot.closeOnTeardown with
  | false => rw [enlists.unmarked mark]
  | true => rw [(enlists.marked mark).2, Teardown.take]

private theorem Enlists.slots (enlists : scope.Enlists slot value before after)
    (served : scope.served? slot.identifier = some (.cached slot)) :
    after.owned.map Prod.fst = before.owned.map Prod.fst ++ [slot.identifier].filter scope.owns := by
  have owns : scope.owns slot.identifier = slot.closeOnTeardown := by simp only [Scope.owns, served]
  cases mark : slot.closeOnTeardown with
  | false => simp [enlists.unmarked mark, owns, mark]
  | true => simp [(enlists.marked mark).2, Teardown.take, owns, mark]

private theorem Enlists.mem (enlists : scope.Enlists slot value before after) {entry : String × Instance V}
    (member : entry ∈ after.owned) : entry ∈ before.owned ∨
      entry = (slot.identifier, value) ∧ (scope.host.closerOf value.content).isSome = true := by
  cases mark : slot.closeOnTeardown with
  | false => exact .inl (enlists.unmarked mark ▸ member)
  | true =>
    obtain ⟨closable, rfl⟩ := enlists.marked mark
    rcases List.mem_append.mp member with old | new
    · exact .inl old
    · exact .inr ⟨List.mem_singleton.mp new, closable⟩

end Enlisting

section Creation

/-! ## Creation -/

variable (bookkeeping : scope.Bookkeeping handler) (free : scope.recipes.All Program.CloseFree)

include bookkeeping

private theorem available_arguments {slot : String} {curried : List (Instance V)} {identifier : String}
    (arguments : List Argument) (member : .slot identifier ∈ arguments) :
    (Scope.arguments handler slot curried arguments).Ends (scope.Available · identifier) :=
  ends_arguments scope.passage_keeps.refl scope.passage_keeps.trans bookkeeping.reads
    (fun keeps => keeps.available) (bookkeeping.available identifier) arguments member

include free

theorem keeps_produce (slot : CachedSlot) (values : List (Arg V)) :
    (scope.chronicled.produce handler slot values).Within (Keeps scope) :=
  .mono (within_produce scope.passage_keeps bookkeeping.reads (.inl free) slot values) Starting.keeps

/-- A holder is read before the recipe is started. -/
theorem available_produce {slot : CachedSlot} {values : List (Arg V)} {holder method : String}
    {holderType : TypeExpr} (provided : slot.recipe = .provider holder holderType method) :
    (scope.chronicled.produce handler slot values).Ends (scope.Available · holder) := by
  have passage := scope.passage_keeps
  unfold produce
  rw [provided]
  refine .andThen (bookkeeping.available holder) (fun receiver => ?_)
    fun (keeps : Keeps scope _ _) => keeps.available
  refine .mono (within_called passage bookkeeping.reads (.inl free) fun made => ?_) Starting.keeps
  cases made with
  | some made => exact within_instance passage made
  | none => exact .error passage.refl _

omit bookkeeping free in
/-- While the scope is open, the instance of a slot that is marked is registered if it can be
closed. -/
theorem enlist_of_open {slot : CachedSlot} {value : Instance V} (opened : w.teardown.closed = false) :
    (if slot.closeOnTeardown then
        (scope.chronicled.own handler slot.identifier value).andThen fun _ => Effect.ok value
      else Effect.ok value : ScopeStep (σ × List (Event σ V)) V RuntimeError (Instance V)) w =
    if slot.closeOnTeardown then
      if (scope.host.closerOf value.content).isSome then
        some (.ok value, { w with teardown := w.teardown.take slot.identifier value })
      else some (.error (.missingCloser slot.identifier), w)
    else some (.ok value, w) := by
  have closable : (scope.chronicled.host.closerOf value.content).isSome =
      (scope.host.closerOf value.content).isSome := by
    cases value.content with
    | host content => exact Option.isSome_map
    | factory slot => rfl
    | injector slot => rfl
  cases marked : slot.closeOnTeardown with
  | false => rfl
  | true =>
    cases known : (scope.host.closerOf value.content).isSome <;>
      simp [Effect.andThen, own, closable, known, register, opened, Effect.modify, Effect.ok,
        Effect.error]

/-- Without success, a creation registers nothing. -/
theorem keeps_of_create_fails {slot : CachedSlot} {reply : Reply RuntimeError (Instance V)}
    (ran : scope.chronicled.create handler slot w = some (reply, after))
    (failed : ∀ value, reply ≠ .ok value) : Keeps scope w after := by
  have passage := scope.passage_keeps
  -- Nothing is said of a scope that is closed, in which `own` would run a closer.
  let opened : Recorded σ V → Recorded σ V → Prop := fun w after =>
    w.teardown.closed = false → Keeps scope w after
  have trans {w middle after : Recorded σ V} (first : opened w middle) (second : opened middle after) :
      opened w after := fun opened =>
    (first opened).trans (second ((first opened).closed.trans opened))
  have within {α : Type} {step : ScopeStep (σ × List (Event σ V)) V RuntimeError α}
      (keeps : step.Within (Keeps scope)) : step.Within opened :=
    fun w reply after ran _ => keeps w reply after ran
  have fails : (scope.chronicled.create handler slot).Fails opened := by
    refine .andThen trans (within (within_checkOpen passage _)) fun _ =>
      .andThen trans (within (within_arguments passage bookkeeping.reads _ _ _)) fun values =>
        .andThen trans (within (keeps_produce bookkeeping free slot values)) fun value => ?_
    intro w reply after ran failed opened
    rw [enlist_of_open opened] at ran
    split at ran
    · split at ran
      · cases ran
        exact absurd rfl (failed value)
      · cases ran
        exact passage.refl w
    · cases ran
      exact absurd rfl (failed value)
  cases closed : w.teardown.closed with
  | true =>
    simp only [create, Effect.andThen, checkOpen, Teardown.checkOpen, closed, Effect.ofExcept,
      Effect.error, ↓reduceIte] at ran
    cases ran
    exact passage.refl w
  | false => exact fails w reply after ran failed closed

/-- A creation that succeeds has read everything that the slot reads eagerly, and registers the
instance last. -/
theorem create_eq_ok {slot : CachedSlot} {value : Instance V}
    (ran : scope.chronicled.create handler slot w = some (.ok value, after)) :
    ∃ middle, Keeps scope w middle ∧ w.teardown.closed = false ∧
      (∀ read ∈ (Slot.cached slot).eagerDependencies, scope.Available middle read) ∧
      after = { middle with teardown := after.teardown } ∧
      scope.Enlists slot value middle.teardown after.teardown := by
  have passage := scope.passage_keeps
  obtain ⟨_, opened, checked, creating⟩ := Effect.andThen_eq_ok ran
  obtain ⟨values, given, argued, producing⟩ := Effect.andThen_eq_ok creating
  obtain ⟨made, middle, produced, registering⟩ := Effect.andThen_eq_ok producing
  have closed : w.teardown.closed = false ∧ opened = w := by
    cases closed : w.teardown.closed with
    | true =>
      simp only [checkOpen, Teardown.checkOpen, closed, Effect.ofExcept, ↓reduceIte] at checked
      cases checked
    | false =>
      simp only [checkOpen, Teardown.checkOpen, closed, Effect.ofExcept, Bool.false_eq_true,
        ↓reduceIte] at checked
      cases checked
      exact ⟨rfl, rfl⟩
  obtain ⟨closed, rfl⟩ := closed
  have first := within_arguments passage bookkeeping.reads _ _ _ _ _ _ argued
  have second := keeps_produce bookkeeping free slot values _ _ _ produced
  have keeps := first.trans second
  rw [enlist_of_open (keeps.closed.trans closed)] at registering
  refine ⟨middle, keeps, closed, fun read member => ?_, ?_⟩
  · rcases CachedSlot.eager_cases member with ⟨type, method, provided⟩ | listed
    · exact available_produce bookkeeping free provided _ _ _ produced
    · exact second.available (available_arguments bookkeeping _ listed _ _ _ argued)
  · cases mark : slot.closeOnTeardown with
    | false =>
      rw [if_neg (by simp [mark])] at registering
      cases registering
      exact ⟨rfl, fun _ => rfl, fun marked => by simp [mark] at marked⟩
    | true =>
      rw [if_pos mark] at registering
      split at registering
      next closable =>
        cases registering
        exact ⟨rfl, fun unmarked => by simp [mark] at unmarked, fun _ => ⟨closable, rfl⟩⟩
      next => cases registering

end Creation

end Scope

section Settling

/-! ## Settling a cell -/

variable {scope : Scope σ V} {w middle : Recorded σ V}

/-- A cell that is not cached, neither before nor behind, is nothing to the ledger. -/
theorem Ledger.setCell (ledger : Ledger scope w) {slot : String} {content : Cell (Instance V)}
    (before : (w.cells slot).state ≠ .cached) (behind : content.state ≠ .cached) :
    Ledger scope (w.setCell slot content) := by
  refine ⟨ledger.nodup, fun other => ?_, ledger.served, ledger.ordered, ledger.owned,
    fun entry member => ?_, ledger.closable, ledger.idle⟩
  · refine (ledger.cached other).trans ?_
    simp only [World.setCell]
    split
    next same => simp [same, before, behind]
    next => exact .rfl
  · have held := ledger.held entry member
    have other : entry.1 ≠ slot := fun same => before (by rw [← same, held]; rfl)
    simpa only [World.setCell, if_neg other] using held

theorem keeps_mark {slot : String} (empty : w.cells slot = .empty) :
    Keeps scope w (w.setCell slot .creating) where
  alive := rfl
  closed := rfl
  cells := World.KeepsFilled.mark empty
  closings := rfl
  shut _ := ⟨rfl, rfl⟩
  ledger ledger := ledger.setCell (by rw [empty]; nofun) nofun

/-- A creation that fails leaves a cell that is not cached. -/
theorem Keeps.settle {slot : String} {content : Cell (Instance V)} (empty : w.cells slot = .empty)
    (keeps : Keeps scope (w.setCell slot .creating) middle) (failed : content.state ≠ .cached) :
    Keeps scope w (middle.setCell slot content) where
  alive := keeps.alive
  closed := keeps.closed
  cells := World.KeepsFilled.settle empty keeps.cells content
  closings := keeps.closings
  shut := keeps.shut
  ledger ledger := by
    have creating : middle.cells slot = .creating := World.KeepsFilled.creating keeps.cells
    exact (keeps.ledger ((keeps_mark empty).ledger ledger)).setCell (by simp [creating, Cell.state]) failed

/-- A slot that is published last comes after all that it reads. -/
theorem Ledger.ordered_concat (supplied : scope.Supplied) (ledger : Ledger scope middle)
    {slot : CachedSlot} (served : scope.served? slot.identifier = some (.cached slot))
    (available : ∀ read ∈ (Slot.cached slot).eagerDependencies, scope.Available middle read)
    {before after : List String} {other read : String} {cached : CachedSlot}
    (split : scope.published middle.events ++ [slot.identifier] = before ++ other :: after)
    (eager : scope.plan.Eager other read)
    (ends : scope.served? (scope.target read) = some (.cached cached)) : cached.identifier ∈ before := by
  rcases List.eq_nil_or_concat after with rfl | ⟨after, last, rfl⟩
  · obtain ⟨rfl, same⟩ := List.append_inj' split rfl
    obtain rfl : slot.identifier = other := by simpa using same
    obtain ⟨found, known, listed⟩ := (Scope.eager_iff_served? supplied).mp eager
    obtain rfl : Served.cached slot = found := by simpa using served.symm.trans known
    exact (ledger.cached _).mpr (available read listed cached ends)
  · rw [List.concat_eq_append, ← List.cons_append, ← List.append_assoc] at split
    obtain ⟨same, _⟩ := List.append_inj' split rfl
    exact ledger.ordered before other after same read eager cached ends

/-- A creation that succeeds adds its slot to the ledger, behind all that the slot reads. -/
theorem Ledger.publish (supplied : scope.Supplied) {slot : CachedSlot} {value : Instance V}
    {event : Event σ V} {teardown : Teardown (Instance V)} (ledger : Ledger scope middle)
    (opened : middle.teardown.closed = false) (creating : middle.cells slot.identifier = .creating)
    (served : scope.served? slot.identifier = some (.cached slot))
    (available : ∀ read ∈ (Slot.cached slot).eagerDependencies, scope.Available middle read)
    (enlists : scope.Enlists slot value middle.teardown teardown)
    (published : scope.publication? event = some slot.identifier) (quiet : event.isClosing = false) :
    Ledger scope (({ middle with teardown := teardown } : Recorded σ V).setCell slot.identifier
      (.cached value) |>.note event) := by
  have order : scope.published (middle.events ++ [event]) =
      scope.published middle.events ++ [slot.identifier] := by
    simp [Scope.published, published]
  have silent : closings (middle.events ++ [event]) = closings middle.events := by
    simp [closings, quiet]
  have fresh : slot.identifier ∉ scope.published middle.events := fun listed => by
    have cached := (ledger.cached _).mp listed
    rw [creating] at cached
    cases cached
  refine ⟨?_, fun other => ?_, ?_, ?_, fun _ => ?_, fun entry member => ?_, fun entry member => ?_,
    fun _ => ?_⟩
  · show (scope.published (middle.events ++ [event])).Nodup
    rw [order, ← List.concat_eq_append]
    exact List.Nodup.concat fresh ledger.nodup
  · show other ∈ scope.published (middle.events ++ [event]) ↔ _
    rw [order]
    by_cases same : other = slot.identifier
    · simp [same, World.note, World.setCell, Cell.state]
    · simp [same, World.note, World.setCell, ledger.cached other]
  · show ∀ other ∈ scope.published (middle.events ++ [event]), _
    rw [order]
    refine List.forall_mem_append.mpr ⟨ledger.served, List.forall_mem_singleton.mpr ⟨slot, served⟩⟩
  · show ∀ before other after, scope.published (middle.events ++ [event]) = before ++ other :: after → _
    rw [order]
    exact fun before other after split read eager cached ends =>
      ledger.ordered_concat supplied served available split eager ends
  · show teardown.owned.map Prod.fst = (scope.published (middle.events ++ [event])).filter scope.owns
    rw [order, List.filter_append, ← ledger.owned opened, enlists.slots served]
  · rcases enlists.mem member with old | ⟨rfl, _⟩
    · have held := ledger.held entry old
      have different : entry.1 ≠ slot.identifier := fun same => by
        rw [same, creating] at held
        cases held
      exact (if_neg different).trans held
    · exact if_pos rfl
  · rcases enlists.mem member with old | ⟨rfl, closable⟩
    · exact ledger.closable entry old
    · exact closable
  · exact silent.trans (ledger.idle opened)

end Settling

namespace Scope

variable {scope : Scope σ V} {handler : Handler (σ × List (Event σ V)) V} {w after : Recorded σ V}

/-- A read publishes nothing unless its cell was empty and is cached then. -/
theorem publication?_eq_none {identifier : String} {before after : World σ V}
    {reply : Reply RuntimeError (Instance V)}
    (unpublished : (before.cells (scope.target identifier)).state = .empty →
      (after.cells (scope.target identifier)).state ≠ .cached) :
    scope.publication? (.answered identifier before reply after) = none :=
  if_neg fun both => unpublished both.1 both.2

/-- The read that creates a slot publishes it. -/
theorem keeps_created (supplied : scope.Supplied) (bookkeeping : scope.Bookkeeping handler)
    (free : scope.recipes.All Program.CloseFree) {identifier : String} {slot : CachedSlot}
    {value : Instance V} (served : scope.served? (scope.target identifier) = some (.cached slot))
    (empty : w.cells slot.identifier = .empty)
    (ran : scope.chronicled.create handler slot (w.setCell slot.identifier .creating) =
      some (.ok value, after)) (before : World σ V) (cells : before.cells = w.cells) :
    let settled := after.setCell slot.identifier (.cached value)
    Keeps scope w (settled.note (.answered identifier before (.ok value) settled.plain)) := by
  intro settled
  obtain ⟨_, here⟩ := mem_cached_of_served? served
  obtain ⟨middle, keeps, opened, available, form, enlists⟩ := create_eq_ok bookkeeping free ran
  have marking : Keeps scope w (w.setCell slot.identifier .creating) := keeps_mark empty
  have creating : middle.cells slot.identifier = .creating := World.KeepsFilled.creating keeps.cells
  have published : scope.publication? (.answered identifier before (.ok value) settled.plain) =
      some slot.identifier := by
    have start : (before.cells slot.identifier).state = .empty := by rw [cells, empty]; rfl
    have ends : (settled.plain.cells slot.identifier).state = .cached :=
      congrArg Cell.state (if_pos rfl)
    simp only [publication?, ← here, start, ends, and_self, ↓reduceIte]
  have silent : closings (settled.note (.answered identifier before (.ok value) settled.plain)).events =
      closings w.events := by
    refine Eq.trans ?_ keeps.closings
    rw [show settled = after.setCell slot.identifier (.cached value) from rfl, form]
    simp [World.events, World.note, World.setCell, closings, Event.isClosing]
  have alive : after.alive = w.alive := by
    rw [form]
    exact keeps.alive
  have kept : (w.setCell slot.identifier .creating).KeepsFilled after := by
    rw [form]
    exact keeps.cells
  refine ⟨alive, enlists.closed.trans keeps.closed, World.KeepsFilled.settle empty kept _, silent,
    fun closed => ?_, fun ledger => ?_⟩
  · rw [show w.teardown.closed = false from opened] at closed
    cases closed
  · have kept := keeps.ledger (marking.ledger ledger)
    have publish : Ledger scope
        ((({ middle with teardown := after.teardown } : Recorded σ V).setCell slot.identifier
          (.cached value)).note (.answered identifier before (.ok value) settled.plain)) :=
      kept.publish supplied (keeps.closed.trans opened) creating (here.symm ▸ served) available
        enlists published rfl
    rwa [← form] at publish

/-- What a read notes keeps the ledger. -/
theorem keeps_noted (supplied : scope.Supplied) (bookkeeping : scope.Bookkeeping handler)
    (free : scope.recipes.All Program.CloseFree) {identifier : String}
    {reply : Reply RuntimeError (Instance V)}
    (ran : scope.chronicled.read handler identifier (w.note (.asked identifier w.plain)) =
      some (reply, after)) :
    Keeps scope w (after.note (.answered identifier w.plain reply after.plain)) := by
  have asked : Keeps scope w (w.note (.asked identifier w.plain)) := keeps_note w rfl rfl
  have answered (keeps : Keeps scope w after)
      (unpublished : (w.cells (scope.target identifier)).state = .empty →
        (after.cells (scope.target identifier)).state ≠ .cached) :
      Keeps scope w (after.note (.answered identifier w.plain reply after.plain)) :=
    keeps.trans (keeps_note after (publication?_eq_none unpublished) rfl)
  have cases := read_cases ran
  simp only [target_chronicled, served?_chronicled] at cases
  rcases cases with ⟨slot, served, accessed⟩ | ⟨_, rfl⟩
  · rcases access_cases accessed with ⟨_, _, _, rfl⟩ | ⟨empty, created, creating, rfl⟩
    · exact answered asked fun empty cached => by
        rw [show (World.note w _).cells = w.cells from rfl, empty] at cached
        cases cached
    · obtain ⟨_, here⟩ := mem_cached_of_served? served
      have failing {content : Cell (Instance V)} (failed : ∀ value, reply ≠ .ok value)
          (settled : Cell.settled slot.identifier reply = content) (uncached : content.state ≠ .cached) :
          Keeps scope w ((created.setCell slot.identifier content).note
            (.answered identifier w.plain reply (created.setCell slot.identifier content).plain)) := by
        subst settled
        have keeps := keeps_of_create_fails bookkeeping free creating failed
        refine answered (asked.trans (keeps.settle empty uncached)) fun _ => ?_
        simpa [World.setCell, ← here] using uncached
      cases reply with
      | ok value =>
        exact asked.trans (keeps_created supplied bookkeeping free served empty creating w.plain rfl)
      | error failure => exact failing (by simp) rfl fun cached => by cases cached
      | panic text => exact failing (by simp) rfl fun cached => by cases cached
  · exact answered asked fun empty cached => by
      rw [show (World.note w _).cells = w.cells from rfl, empty] at cached
      cases cached

/-- What a read is answered with is available. -/
theorem available_of_read {identifier : String} {value : Instance V}
    (ran : scope.chronicled.read handler identifier w = some (.ok value, after)) :
    scope.Available after identifier := by
  intro slot served
  have cases := read_cases ran
  simp only [target_chronicled, served?_chronicled] at cases
  rcases cases with ⟨other, known, accessed⟩ | ⟨unserved, _⟩
  · obtain rfl : other = slot := by simpa using known.symm.trans served
    rcases access_cases accessed with ⟨answer, answered, same, rfl⟩ | ⟨_, created, _, rfl⟩
    · cases answer with
      | error failure => cases same
      | ok _ => cases cell : after.cells other.identifier <;> simp_all [Cell.answer?, Cell.state]
    · exact congrArg Cell.state (if_pos rfl)
  · exact (unserved slot served).elim

private theorem keeps_close :
    (scope.chronicled.close handler).Within fun w after =>
      w.teardown.closed = true → Keeps scope w after := by
  intro w reply after ran closed
  unfold Scope.close at ran
  rw [if_pos closed] at ran
  cases ran
  exact scope.passage_keeps.refl w

/-- However deeply requests nest. -/
theorem bookkeeping_chronicler (supplied : scope.Supplied) (free : scope.recipes.All Program.CloseFree)
    (level : Nat) : scope.Bookkeeping (scope.chronicler level) := by
  induction level with
  | zero =>
    exact ⟨fun _ => .starved, fun _ => .starved, .starved⟩
  | succ level ih =>
    refine ⟨fun identifier w reply after ran => ?_, fun identifier w value after ran => ?_, keeps_close⟩
    · obtain ⟨middle, found, rfl⟩ := scope.chronicler_read ran
      exact keeps_noted supplied ih free found
    · obtain ⟨middle, found, rfl⟩ := scope.chronicler_read ran
      have available : scope.Available middle identifier := available_of_read found
      exact available

end Scope

end Wiring
