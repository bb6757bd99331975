import Wiring.Proofs.Scope.Ledger
import Wiring.Proofs.Scope.Shutting

/-! # What a scope owns and closes

Closing takes everything that is owned and runs the closers one after another; from then on nothing
is created, owned or closed any more. What is owned until then is what the ledger says. A closer
that fails does not stop the closing, but one that unwinds does, and the resources behind it are
never closed.

Main statement: `Scope.owned_in_order`.
-/

namespace Wiring

variable {σ V ε : Type}

/-- What is told of closing these resources. Their closers are started in order, each after the one
before it has ended. One that fails does not keep the next from being started, but one that unwinds
is the last. -/
inductive Emptied : List (String × Instance V) → List (Event σ V) → Prop where
  | nil : Emptied [] []
  | next {slot : String} {resource : Instance V} {rest : List (String × Instance V)} {value : V}
      {outcome : Except Fault Unit} {later : List (Event σ V)} (content : resource.content = .host value)
      (others : Emptied rest later) :
      Emptied ((slot, resource) :: rest) (.closing value :: .closed value (.ofExcept outcome) :: later)
  | unwound {slot : String} {resource : Instance V} {rest : List (String × Instance V)} {value : V}
      {text : String} (content : resource.content = .host value) :
      Emptied ((slot, resource) :: rest) [.closing value, .closed value (.panic text)]

/-- In a scope that is closed, this is told of its closers, and nothing else is taken in by the
ledger. -/
structure Closes (scope : Scope σ V) (w : Recorded σ V) (told : List (Event σ V)) (after : Recorded σ V) :
    Prop where
  closed : after.teardown.closed = true
  owned : after.teardown.owned = w.teardown.owned
  published : scope.published after.events = scope.published w.events
  closings : closings after.events = closings w.events ++ told
  cells slot : (w.cells slot).isEmpty = false → after.cells slot = w.cells slot
  ledger : Ledger scope w → Ledger scope after

namespace Closes

variable {scope : Scope σ V} {w middle after : Recorded σ V} {told later : List (Event σ V)}

theorem trans (first : Closes scope w told middle) (second : Closes scope middle later after) :
    Closes scope w (told ++ later) after where
  closed := second.closed
  owned := second.owned.trans first.owned
  published := second.published.trans first.published
  closings := by rw [second.closings, first.closings, List.append_assoc]
  cells := World.KeepsFilled.trans first.cells second.cells
  ledger ledger := second.ledger (first.ledger ledger)

theorem of_keeps (closed : w.teardown.closed = true) (keeps : Keeps scope w after) :
    Closes scope w [] after where
  closed := keeps.closed.trans closed
  owned := (keeps.shut closed).2
  published := (keeps.shut closed).1
  closings := by rw [keeps.closings, List.append_nil]
  cells := keeps.cells
  ledger := keeps.ledger

private theorem note (closed : w.teardown.closed = true) {event : Event σ V}
    (closing : event.isClosing = true) :
    Closes scope w [event] (w.note event) := by
  have published : scope.published (w.note event).events = scope.published w.events := by
    rcases Event.cases_of_isClosing closing with ⟨value, rfl⟩ | ⟨value, reply, rfl⟩ <;>
      simp [World.events, World.note, Scope.published, Scope.publication?]
  have opened (opened : (w.note event).teardown.closed = false) : False := by
    cases closed.symm.trans opened
  refine ⟨closed, rfl, published, ?_, fun _ _ => rfl, fun ledger => ?_⟩
  · simp [World.events, World.note, Wiring.closings, closing]
  · exact ⟨published ▸ ledger.nodup, published ▸ ledger.cached, published ▸ ledger.served,
      published ▸ ledger.ordered, fun shut => (opened shut).elim, ledger.held, ledger.closable,
      fun shut => (opened shut).elim⟩

end Closes

namespace Scope

variable {scope : Scope σ V} {w after : Recorded σ V} {level : Nat}

/-- In a scope that is closed, a read does not unwind. -/
theorem read_of_chronicler_closed (free : scope.recipes.All Program.CloseFree)
    (closed : w.teardown.closed = true) {identifier : String} {reply : Reply RuntimeError (Instance V)}
    (ran : (scope.chronicler level).readAlive identifier w = some (reply, after)) :
    after.teardown.closed = true ∧ ∃ result, reply = .ofExcept result := by
  unfold Handler.readAlive at ran
  split at ran
  · have heeds := (heeding_chronicler free level).reads identifier w reply after ran
    obtain rfl : reply = (scope.readShut identifier w.plain).1 :=
      congrArg Prod.fst (scope.chronicler_read_of_closed closed ran)
    exact ⟨heeds.closed.trans closed, scope.readShut_reply identifier w.plain⟩
  · cases ran
    exact ⟨closed, .error _, rfl⟩

private theorem maintains_closed (free : scope.recipes.All Program.CloseFree) (level : Nat) :
    (scope.chronicler level).Maintains (·.teardown.closed = true) where
  reads closed ran := (read_of_chronicler_closed free closed ran).1
  closes _ ran := closed_after_close free ran
  silent closed same := same ▸ closed

/-- Nor does a closing, so whatever a program asks for leaves it going. -/
private theorem not_unwinds_of_closed (free : scope.recipes.All Program.CloseFree) {text : String} :
    ¬ (scope.chronicler level).Unwinds (·.teardown.closed = true) text after := by
  rintro (⟨closed, ran⟩ | ⟨closed, ran⟩)
  · obtain ⟨_, result, same⟩ := read_of_chronicler_closed free closed ran
    cases result <;> cases same
  · cases level with
    | zero => cases ran
    | succ level =>
      have rests : (scope.chronicler (level + 1)).close _ = some (.ok (), _) := close_of_closed closed
      cases ran.symm.trans rests

/-- A program that starts in a closed scope writes down in any case how it ends. -/
private theorem exec_ending_of_closed (free : scope.recipes.All Program.CloseFree) {α : Type}
    {event : Reply Fault α → Event σ V} {program : Program (σ × List (Event σ V)) V α}
    {reply : Reply Fault α} (closed : w.teardown.closed = true)
    (ran : (program.ending event).exec scope.chronicled (scope.chronicler level) w = some (reply, after)) :
    ∃ middle, program.exec scope.chronicled (scope.chronicler level) w = some (reply, middle) ∧
      after = middle.note (event reply) := by
  obtain ⟨middle, ended, noted | ⟨_, text, _, unwinds⟩⟩ := exec_ending (maintains_closed free level) closed ran
  · exact ⟨middle, ended, noted⟩
  · exact (not_unwinds_of_closed free unwinds).elim

/-- What a step keeps once closing has begun. -/
theorem passage_shut (scope : Scope σ V) :
    Passage fun w after : Recorded σ V => w.teardown.closed = true → Keeps scope w after where
  refl w _ := scope.passage_keeps.refl w
  trans first second closed := (first closed).trans (second ((first closed).closed.trans closed))
  release w _ := scope.passage_keeps.release w
  update w state _ := scope.passage_keeps.update w state
  share w _ := scope.passage_keeps.share w

section Closing

variable (supplied : scope.Supplied) (free : scope.recipes.All Program.CloseFree)

include supplied free

private theorem closes_closeInstance (closed : w.teardown.closed = true) {resource : Instance V} {value : V}
    (content : resource.content = .host value) (closable : (scope.host.closer value).isSome = true)
    {reply : Reply ε (Except Fault Unit)}
    (ran : scope.chronicled.closeInstance (scope.chronicler level) resource w = some (reply, after)) :
    ∃ ended : Reply Fault Unit, reply = ended.attempt ∧
      Closes scope w [.closing value, .closed value ended] after := by
  obtain ⟨closer, known⟩ := Option.isSome_iff_exists.mp closable
  have found : scope.chronicled.host.closerOf resource.content = some (closer.telling value) := by
    simp only [content, Host.closerOf, chronicled, known, Option.map_some]
  have bookkeeping := bookkeeping_chronicler supplied free level
  have closing : closer.CloseFree ∨ _ := .inr bookkeeping.closes
  unfold closeInstance at ran
  rw [found] at ran
  obtain ⟨ended, answer, rfl⟩ := Effect.attempt_eq_some.mp ran
  obtain ⟨middle, executed, rfl⟩ := exec_ending_of_closed free closed answer
  have led := within_noting scope.passage_shut
    (fun identifier w reply after ran _ => bookkeeping.reads identifier w reply after ran)
    (fun _ => .closing value) closing w _ _ executed closed
  have goes : Closes scope w [.closing value] middle :=
    (Closes.note closed rfl).trans (.of_keeps closed led)
  exact ⟨ended, rfl, goes.trans (.note goes.closed rfl)⟩

/-- Closing goes on past failures, but not past a closer that unwinds. -/
theorem closes_closeAll (owned : List (String × Instance V))
    (closable : ∀ entry ∈ owned, (scope.host.closerOf entry.2.content).isSome = true)
    (closed : w.teardown.closed = true) {reply : Reply CloseError (List CloseFailure)}
    (ran : Teardown.closeAll (m := Effect (Recorded σ V) CloseError)
      (scope.chronicled.closeInstance (scope.chronicler level)) owned w = some (reply, after)) :
    ∃ told, Closes scope w told after ∧ Emptied owned told := by
  induction owned generalizing w reply with
  | nil =>
    cases ran
    exact ⟨[], .of_keeps closed (scope.passage_keeps.refl _), .nil⟩
  | cons entry rest ih =>
    obtain ⟨slot, resource⟩ := entry
    obtain ⟨first, others⟩ := List.forall_mem_cons.mp closable
    obtain ⟨value, content, closable⟩ : ∃ value, resource.content = .host value ∧
        (scope.host.closer value).isSome = true := by
      cases content : resource.content with
      | host value => exact ⟨value, rfl, by rwa [content] at first⟩
      | factory slot =>
        rw [content] at first
        cases first
      | injector slot =>
        rw [content] at first
        cases first
    rcases Effect.andThen_cases ran with ⟨outcome, middle, closing, going⟩ | ⟨_, failed, _⟩ | ⟨_, failed, _⟩
    · obtain ⟨ended, same, closes⟩ := closes_closeInstance supplied free closed content closable closing
      obtain rfl : ended = .ofExcept outcome := by cases ended <;> cases same <;> rfl
      obtain ⟨reply, ended⟩ : ∃ reply, Teardown.closeAll (m := Effect (Recorded σ V) CloseError)
          (scope.chronicled.closeInstance (scope.chronicler level)) rest middle = some (reply, after) := by
        rcases Effect.andThen_cases going with ⟨failures, last, found, same⟩ | ⟨_, found, _⟩ | ⟨_, found, _⟩
        · cases outcome <;> cases same <;> exact ⟨_, found⟩
        · exact ⟨_, found⟩
        · exact ⟨_, found⟩
      obtain ⟨told, more, emptied⟩ := ih others closes.closed ended
      exact ⟨_, closes.trans more, .next content emptied⟩
    · obtain ⟨ended, same, _⟩ := closes_closeInstance supplied free closed content closable failed
      cases ended <;> cases same
    · obtain ⟨ended, same, closes⟩ := closes_closeInstance supplied free closed content closable failed
      cases ended <;> cases same
      exact ⟨_, closes, .unwound content⟩

end Closing

end Scope

/-! ## Operations -/

/-- The ledger is right, and once closing has begun, everything that was owned has been closed. -/
structure Accounts (scope : Scope σ V) (w : Recorded σ V) : Prop where
  ledger : Ledger scope w
  closed : w.teardown.closed = true → w.teardown.owned = [] ∧
    ∃ estate : List (String × Instance V),
      estate.map Prod.fst = (scope.published w.events).filter scope.owns ∧
        (∀ entry ∈ estate, w.cells entry.1 = .cached entry.2) ∧
        Emptied estate (closings w.events)

/-- What an operation may do: it leaves the accounts right, and adds nothing to them once closing has
begun. -/
structure Proceeds (scope : Scope σ V) (w after : Recorded σ V) : Prop where
  shut : w.teardown.closed = true → Closes scope w [] after
  accounts : Accounts scope w → Accounts scope after

namespace Proceeds

variable {scope : Scope σ V} {w middle after : Recorded σ V}

theorem trans (first : Proceeds scope w middle) (second : Proceeds scope middle after) :
    Proceeds scope w after where
  shut closed := (first.shut closed).trans (second.shut (first.shut closed).closed)
  accounts accounts := second.accounts (first.accounts accounts)

theorem of_keeps (keeps : Keeps scope w after) : Proceeds scope w after where
  shut closed := .of_keeps closed keeps
  accounts accounts := by
    refine ⟨keeps.ledger accounts.ledger, fun closed => ?_⟩
    have before : w.teardown.closed = true := keeps.closed.symm.trans closed
    obtain ⟨owned, estate, slots, held, emptied⟩ := accounts.closed before
    obtain ⟨published, same⟩ := keeps.shut before
    refine ⟨same.trans owned, estate, published ▸ slots, fun entry member => ?_,
      keeps.closings.symm ▸ emptied⟩
    have cached := held entry member
    rw [keeps.cells entry.1 (by rw [cached]; rfl), cached]

/-- The scope ceases to be alive. -/
theorem gone (w : Recorded σ V) : Proceeds scope w { w with alive := false } where
  shut closed := ⟨closed, rfl, rfl, (List.append_nil _).symm, fun _ _ => rfl, fun ledger =>
    ⟨ledger.nodup, ledger.cached, ledger.served, ledger.ordered, ledger.owned, ledger.held,
      ledger.closable, ledger.idle⟩⟩
  accounts accounts := by
    have ledger := accounts.ledger
    exact ⟨⟨ledger.nodup, ledger.cached, ledger.served, ledger.ordered, ledger.owned, ledger.held,
      ledger.closable, ledger.idle⟩, accounts.closed⟩

end Proceeds

namespace Scope

variable {scope : Scope σ V} {w after : Recorded σ V} {level : Nat}

section Operations

variable (supplied : scope.Supplied) (free : scope.recipes.All Program.CloseFree)

include supplied free

/-- The first closing empties what is owned. -/
theorem closes_of_close (ledger : Ledger scope w) (opened : w.teardown.closed = false)
    {reply : Reply CloseError Unit} (ran : (scope.chronicler level).close w = some (reply, after)) :
    ∃ values, Closes scope { w with teardown := .begun } values after ∧
      Emptied w.teardown.owned values := by
  cases level with
  | zero => cases ran
  | succ level =>
    have ran : scope.chronicled.close (scope.chronicler level) w = some (reply, after) := ran
    unfold Scope.close at ran
    rw [if_neg (by simp [opened])] at ran
    obtain ⟨_, closing⟩ : ∃ reply, Teardown.closeAll (m := Effect (Recorded σ V) CloseError)
        (scope.chronicled.closeInstance (scope.chronicler level)) w.teardown.owned
        { w with teardown := .begun } = some (reply, after) := by
      rcases Effect.andThen_cases ran with ⟨failures, last, found, same⟩ | ⟨_, found, _⟩ | ⟨_, found, _⟩
      · rw [Effect.ofExcept_eq] at same
        cases same
        exact ⟨_, found⟩
      · exact ⟨_, found⟩
      · exact ⟨_, found⟩
    exact closes_closeAll supplied free w.teardown.owned ledger.closable rfl closing

theorem proceeds_close {reply : Reply CloseError Unit}
    (ran : (scope.chronicler level).close w = some (reply, after)) : Proceeds scope w after := by
  have shut := (bookkeeping_chronicler supplied free level).closes w reply after ran
  cases closed : w.teardown.closed with
  | true => exact .of_keeps (shut closed)
  | false =>
    refine ⟨fun shutting => (nomatch closed.symm.trans shutting), fun accounts => ?_⟩
    have ledger := accounts.ledger
    have begun : Ledger scope { w with teardown := .begun } :=
      ⟨ledger.nodup, ledger.cached, ledger.served, ledger.ordered, nofun, List.forall_mem_nil _,
        List.forall_mem_nil _, nofun⟩
    obtain ⟨values, closes, emptied⟩ := closes_of_close supplied free ledger closed ran
    refine ⟨closes.ledger begun, fun _ => ⟨closes.owned, w.teardown.owned, ?_, fun entry member => ?_, ?_⟩⟩
    · exact (ledger.owned closed).trans (congrArg (List.filter scope.owns) closes.published.symm)
    · have cached := ledger.held entry member
      exact (closes.cells entry.1 (by rw [cached]; rfl)).trans cached
    · have none : closings w.events = [] := ledger.idle closed
      have same : closings after.events = closings w.events ++ values := closes.closings
      rw [same, none]
      exact emptied

theorem proceeds_performWith {operation : Operation V} {answer : Answer V}
    (performed : scope.chronicled.performWith (scope.chronicler level) operation w =
      some (answer, after)) : Proceeds scope w after := by
  have passage := scope.passage_keeps
  have reads := (bookkeeping_chronicler supplied free level).reads
  refine within_performWith (fun slot _ => ?_) (fun slot given _ => ?_) (fun slot given _ => ?_)
    (fun _ _ _ ran => proceeds_close supplied free ran) (fun w => .of_keeps (passage.release w)) performed
  · exact .mono (within_readAlive passage reads slot) fun keeps => .of_keeps keeps
  · exact .mono (within_callFactory passage reads (.inl free) slot given)
      fun starting => .of_keeps starting.keeps
  · exact .mono (within_callInjector passage reads (.inl free) slot given)
      fun starting => .of_keeps starting.keeps

theorem proceeds_settleWith {reply : Reply CloseError Unit}
    (settled : settleWith (scope.chronicler level) w = some (reply, after)) : Proceeds scope w after :=
  within_settleWith (.of_keeps (scope.passage_keeps.refl w))
    (fun _ _ _ ran => proceeds_close supplied free ran) Proceeds.trans (.gone w) settled

theorem proceeds_runWith {operations : List (Operation V)} {answers : List (Answer V)}
    (ran : scope.chronicled.runWith (scope.chronicler level) operations w = some (answers, after)) :
    Proceeds scope w after :=
  within_runWith (fun w => .of_keeps (scope.passage_keeps.refl w)) Proceeds.trans
    (fun _ _ _ _ _ _ _ performed settled =>
      (proceeds_performWith supplied free performed).trans (proceeds_settleWith supplied free settled)) ran

end Operations

end Scope

/-- Between two operations the accounts are right, and a scope that nobody refers to is closed. -/
structure Resting (scope : Scope σ V) (w : Recorded σ V) : Prop extends Accounts scope w where
  gone : w.alive = false → w.teardown.closed = true
  released : w.held = false → w.teardown.closed = true

/-- A scope that ceases to exist is closed. -/
def Departs (scope : Scope σ V) (w after : Recorded σ V) : Prop :=
  Accounts scope w → (w.alive = false → w.teardown.closed = true) →
    after.alive = false → after.teardown.closed = true

namespace Scope

variable {scope : Scope σ V} {w after : Recorded σ V} {level : Nat}

section Operations

variable (supplied : scope.Supplied) (free : scope.recipes.All Program.CloseFree)

include supplied free

private theorem departs_performWith {operation : Operation V} {answer : Answer V}
    (performed : scope.chronicled.performWith (scope.chronicler level) operation w =
      some (answer, after)) : Departs scope w after := by
  have passage := scope.passage_keeps
  have reads := (bookkeeping_chronicler supplied free level).reads
  have keeping {w after : Recorded σ V} (keeps : Keeps scope w after) : Departs scope w after :=
    fun _ closed gone => keeps.closed.trans (closed (keeps.alive.symm.trans gone))
  refine within_performWith (fun slot _ => ?_) (fun slot given _ => ?_) (fun slot given _ => ?_)
    (fun w reply after ran => ?_) (fun w => keeping (passage.release w)) performed
  · exact .mono (within_readAlive passage reads slot) keeping
  · exact .mono (within_callFactory passage reads (.inl free) slot given)
      fun starting => keeping starting.keeps
  · exact .mono (within_callInjector passage reads (.inl free) slot given)
      fun starting => keeping starting.keeps
  · exact fun _ _ _ => closed_after_close free ran

private theorem resting_operate {operation : Operation V} {answer : Answer V} {middle : Recorded σ V}
    (performed : scope.chronicled.performWith (scope.chronicler level) operation w =
      some (answer, middle))
    {reply : Reply CloseError Unit}
    (settled : settleWith (scope.chronicler level) middle = some (reply, after))
    (resting : Resting scope w) :
    Resting scope after ∧ (operation = .close → after.teardown.closed = true) := by
  have performs := proceeds_performWith supplied free performed
  have settles := proceeds_settleWith supplied free settled
  have accounts := performs.accounts resting.toAccounts
  have departed := departs_performWith supplied free performed resting.toAccounts resting.gone
  have closing (same : operation = .close) : after.teardown.closed = true := by
    subst same
    obtain ⟨⟨reply, _⟩, found, same⟩ := Option.map_eq_some_iff.mp performed
    cases same
    exact (settles.shut (closed_after_close free found)).closed
  unfold settleWith at settled
  split at settled
  next rests =>
    cases settled
    exact ⟨⟨accounts, departed, fun released => departed (by simpa [released] using rests)⟩, closing⟩
  next =>
    have closed := closed_after_close free settled
    exact ⟨⟨settles.accounts accounts, fun _ => closed, fun _ => closed⟩, closing⟩

/-- A scope that was told to close, or that nobody refers to, is closed. -/
theorem resting_runWith {operations : List (Operation V)} {answers : List (Answer V)}
    (ran : scope.chronicled.runWith (scope.chronicler level) operations w = some (answers, after))
    (resting : Resting scope w) :
    Resting scope after ∧ (.close ∈ operations → after.teardown.closed = true) := by
  induction operations generalizing w answers after with
  | nil =>
    cases ran
    exact ⟨resting, nofun⟩
  | cons operation rest ih =>
    obtain ⟨⟨answer, middle⟩, performed, settling⟩ := Option.bind_eq_some_iff.mp ran
    obtain ⟨⟨reply, settled⟩, ended, going⟩ := Option.bind_eq_some_iff.mp settling
    obtain ⟨⟨_, final⟩, later, same⟩ := Option.map_eq_some_iff.mp going
    obtain ⟨between, closing⟩ := resting_operate supplied free performed ended resting
    obtain ⟨last, closed⟩ := ih later between
    have shut := (proceeds_runWith supplied free later).shut
    cases same
    refine ⟨last, fun listed => ?_⟩
    rcases List.mem_cons.mp listed with same | behind
    · exact (shut (closing same.symm)).closed
    · exact closed behind

end Operations

/-! ## The order of the resources -/

/-- What is read along eager edges is what the aliases end at, or is read by that. -/
theorem target_reaches (supplied : scope.Supplied) (acyclic : scope.plan.Acyclic) {read other : String}
    (walk : Relation.ReflTransGen scope.plan.Eager read other) {cached : CachedSlot}
    (served : scope.served? other = some (.cached cached)) :
    scope.target read = other ∨ (∃ slot, scope.served? (scope.target read) = some (.cached slot)) ∧
      Relation.TransGen scope.plan.Eager (scope.target read) other := by
  induction walk using Relation.ReflTransGen.head_induction_on with
  | refl => exact .inl (target_of_not_aliased fun target aliased => nomatch served.symm.trans aliased)
  | @head first next eager walk ih =>
    obtain ⟨found, known, listed⟩ := (eager_iff_served? supplied).mp eager
    cases found with
    | ready value => exact absurd listed List.not_mem_nil
    | aliased target =>
      obtain rfl := List.mem_singleton.mp listed
      rwa [target_of_aliased supplied acyclic known]
    | cached slot =>
      have ends : scope.target first = first :=
        target_of_not_aliased fun target aliased => nomatch known.symm.trans aliased
      rw [ends]
      exact .inr ⟨⟨slot, known⟩, .head' eager walk⟩

/-- A slot becomes cached after all that it reads, in however many steps. -/
theorem mem_before (supplied : scope.Supplied) (acyclic : scope.plan.Acyclic) (ledger : Ledger scope w)
    {before after : List String} {slot other : String}
    (split : scope.published w.events = before ++ slot :: after)
    (reads : Relation.TransGen scope.plan.Eager slot other) {cached : CachedSlot}
    (served : scope.served? other = some (.cached cached)) : other ∈ before := by
  induction length : before.length using Nat.strongRecOn generalizing before slot after with
  | ind _ ih =>
    subst length
    obtain ⟨read, eager, walk⟩ := Relation.TransGen.head'_iff.mp reads
    have listed {slot' : CachedSlot} (known : scope.served? (scope.target read) = some (.cached slot')) :
        scope.target read ∈ before := by
      have member := ledger.ordered before slot after split read eager slot' known
      rwa [(mem_cached_of_served? known).2] at member
    rcases target_reaches supplied acyclic walk served with rfl | ⟨⟨slot', known⟩, further⟩
    · exact listed served
    · obtain ⟨first, rest, rfl⟩ := List.append_of_mem (listed known)
      rw [List.append_assoc, List.cons_append] at split
      exact List.mem_append_left _ (ih first.length (by simp) split further rfl)

private theorem mem_before_of_owns (supplied : scope.Supplied) (acyclic : scope.plan.Acyclic)
    (ledger : Ledger scope w) {before after : List String} {slot other : String}
    (split : (scope.published w.events).filter scope.owns = before ++ slot :: after)
    (reads : Relation.TransGen scope.plan.Eager slot other) (owns : scope.owns other = true) :
    other ∈ before := by
  obtain ⟨front, back, whole, rfl, rest⟩ := List.filter_eq_append_iff.mp split
  obtain ⟨skipped, last, rfl, unowned, _, _⟩ := List.filter_eq_cons_iff.mp rest
  obtain ⟨cached, served⟩ : ∃ cached, scope.served? other = some (.cached cached) := by
    unfold Scope.owns at owns
    split at owns
    next cached served => exact ⟨cached, served⟩
    next => cases owns
  rw [← List.append_assoc] at whole
  rcases List.mem_append.mp (mem_before supplied acyclic ledger whole reads served) with inside | passed
  · exact List.mem_filter.mpr ⟨inside, owns⟩
  · exact absurd owns (unowned other passed)

/-- A scope that has just been opened owns nothing and has closed nothing. -/
theorem resting_start (scope : Scope σ V) (host : σ) : Resting scope (start (host, [])) := by
  refine ⟨⟨⟨List.nodup_nil, fun slot => ?_, List.forall_mem_nil _, fun _ _ _ split => ?_, fun _ => rfl,
    List.forall_mem_nil _, List.forall_mem_nil _, fun _ => rfl⟩, ?_⟩, ?_, ?_⟩
  · simp [World.events, start, published, Cell.state]
  · exact absurd split.symm (by simp [World.events, start, published])
  all_goals simp [start]

/-- As long as no recipe closes the scope, what is owned between two operations is what has become
cached and is marked for the teardown, in the order in which it did, so that every slot comes after
all that it reads. The first closing starts the closers of it in this order, going on past failures,
up to one that unwinds; from then on nothing is created or closed. -/
theorem owned_in_order (checked : scope.check = .ok ()) (free : scope.recipes.All Program.CloseFree)
    (host : σ) (operations : List (Operation V)) :
    ∃ answers last, scope.chronicle host operations = some (answers, last) ∧
      scope.run operations (start host) = (answers, last.plain) ∧
      (scope.published last.events).Nodup ∧
      (∀ slot, slot ∈ scope.published last.events ↔ (last.cells slot).state = .cached) ∧
      (∃ estate : List (String × Instance V),
        estate.map Prod.fst = (scope.published last.events).filter scope.owns ∧
        (∀ entry ∈ estate, last.cells entry.1 = .cached entry.2) ∧
        (last.teardown.closed = false → last.teardown.owned = estate ∧ closings last.events = []) ∧
        (last.teardown.closed = true →
          last.teardown.owned = [] ∧ Emptied estate (closings last.events))) ∧
      (.close ∈ operations ∨ last.held = false → last.teardown.closed = true) ∧
      (∀ before slot after, (scope.published last.events).filter scope.owns = before ++ slot :: after →
        ∀ other, Relation.TransGen scope.plan.Eager slot other → scope.owns other = true →
          other ∈ before) ∧
      ∀ earlier later, operations = earlier ++ later → ∀ answered middle,
        scope.chronicle host earlier = some (answered, middle) → middle.teardown.closed = true →
          last.teardown.closed = true ∧ scope.published last.events = scope.published middle.events ∧
            closings last.events = closings middle.events := by
  have supplied := supplied_of_check checked
  have acyclic := Plan.acyclic_of_checkCycles (checkCycles_of_check checked)
  obtain ⟨answers, last, written, plain⟩ := scope.exists_chronicle host operations
  obtain ⟨resting, closing⟩ := resting_runWith supplied free written (resting_start scope host)
  have ledger := resting.ledger
  refine ⟨answers, last, written, plain, ledger.nodup, ledger.cached, ?_,
    fun either => either.elim closing resting.released, ?_, ?_⟩
  · cases closed : last.teardown.closed with
    | false =>
      exact ⟨last.teardown.owned, ledger.owned closed, ledger.held, fun _ => ⟨rfl, ledger.idle closed⟩,
        by simp⟩
    | true =>
      obtain ⟨owned, estate, slots, held, emptied⟩ := resting.closed closed
      exact ⟨estate, slots, held, by simp, fun _ => ⟨owned, emptied⟩⟩
  · exact fun before slot after split other reads owns =>
      mem_before_of_owns supplied acyclic ledger split reads owns
  · rintro earlier later rfl answered middle begun closed
    rw [chronicle, runWith_append, show scope.chronicled.runWith _ earlier _ = some (answered, middle)
      from begun] at written
    obtain ⟨⟨others, final⟩, going, same⟩ := Option.map_eq_some_iff.mp written
    have closes := (proceeds_runWith supplied free going).shut closed
    cases same
    exact ⟨closes.closed, closes.published, closes.closings.trans (List.append_nil _)⟩

end Scope

/-- A heater and a pump, which reads the heater under another name; the scope closes both. -/
def Plan.cellar : Plan where
  package := "demo"
  scopeName := "Cellar"
  values := []
  aliases := [⟨"warmth", "Warmth", "Warmth", "heater"⟩]
  cached := [
    ⟨0, "pump", "Pump", "Pump", .constructor (.named "Pump"), [.slot "warmth"], true⟩,
    ⟨1, "heater", "Heater", "Heater", .constructor (.named "Heater"), [], true⟩]
  factories := []
  injectors := []

namespace Scope

/-- A cellar whose heater is closed by draining it. -/
def cellar (draining : Program Unit String Unit) : Scope Unit String where
  plan := .cellar
  values := .empty
  recipes := {
    constructors := [
      ("Pump", fun _ => .finish (.fresh "pump")),
      ("Heater", fun _ => .finish (.fresh "heater"))] }
  host := {
    typeName := id
    factoryName := "Factory"
    injectorName := "Injector"
    closer := fun name => some (if name = "heater" then draining else .finish ()) }

theorem closeFree_cellar (draining : Program Unit String Unit) :
    (cellar draining).recipes.All Program.CloseFree := by
  refine ⟨fun entry member arguments => ?_, List.forall_mem_nil _⟩
  rcases List.mem_pair.mp member with rfl | rfl <;> trivial

theorem owned_cellar :
    let scope := cellar (.fail (.foreign "leak"))
    let operations : List (Operation String) := [.read "pump", .close, .close]
    scope.check = .ok () ∧ scope.recipes.All Program.CloseFree ∧
      (scope.run operations (start ())).1 = [.shared ⟨.made 1, .host "pump"⟩,
        .unclosed ⟨[⟨"heater", .foreign "leak"⟩]⟩, .done] ∧
      ∃ answers last, scope.chronicle () operations = some (answers, last) ∧
        (scope.published last.events).Nodup ∧ last.teardown.closed = true ∧
        ∃ estate : List (String × Instance String),
          estate.map Prod.fst = (scope.published last.events).filter scope.owns ∧
            last.teardown.owned = [] ∧ Emptied estate (closings last.events) := by
  intro scope operations
  have checked : scope.check = .ok () := check_of_checkCycles (by cbv)
  have free : scope.recipes.All Program.CloseFree := closeFree_cellar _
  obtain ⟨answers, last, written, _, nodup, _, ⟨estate, slots, _, _, emptied⟩, closing, _⟩ :=
    owned_in_order checked free () operations
  have closed := closing (.inl (by simp [operations]))
  obtain ⟨owned, closings⟩ := emptied closed
  exact ⟨checked, free, by rfl, answers, last, written, nodup, closed, estate, slots, owned, closings⟩

/-- A closer that unwinds ends the closing: what is owned behind it is never closed. -/
theorem unclosed_cellar :
    let scope := cellar (.panic "burst")
    let operations : List (Operation String) := [.read "pump", .close, .close]
    scope.check = .ok () ∧ scope.recipes.All Program.CloseFree ∧
      ∃ answers last, scope.chronicle () operations = some (answers, last) ∧
        answers = [.shared ⟨.made 1, .host "pump"⟩, .panicked "burst", .done] ∧
        last.teardown.owned = [] ∧
        (scope.published last.events).filter scope.owns = ["heater", "pump"] ∧
        closings last.events = [.closing "heater", .closed "heater" (.panic "burst")] := by
  intro scope operations
  -- what is known of the last world is read off the chronicle in one go
  have told : (scope.chronicle () operations).map (fun ran =>
      (ran.1, ran.2.teardown.owned, (scope.published ran.2.events).filter scope.owns, closings ran.2.events)) =
      some ([.shared ⟨.made 1, .host "pump"⟩, .panicked "burst", .done], [], ["heater", "pump"],
        [.closing "heater", .closed "heater" (.panic "burst")]) := by rfl
  obtain ⟨⟨answers, last⟩, written, same⟩ := Option.map_eq_some_iff.mp told
  simp only [Prod.mk.injEq] at same
  obtain ⟨answered, owned, published, closings⟩ := same
  exact ⟨check_of_checkCycles (by cbv), closeFree_cellar _, answers, last, written, answered, owned,
    published, closings⟩

end Scope

end Wiring
