import Wiring.Proofs.Scope.Chronicle
import Wiring.Proofs.Scope.Provenance

/-! # Where steps lead

A property of a run often relates the world in which a step starts to the one in which it ends, and
holds of a step because it holds of the parts. A passage is such a relation that can be composed
and is kept by whatever touches neither cells nor resources nor the chronicle. Once reads and
closings lie within a passage, so do the rules made from them, but for the start of a recipe or of
a closer, which each rule makes at most once.
-/

namespace Wiring

variable {σ V ε ε' α β γ : Type}

namespace World

@[simp] theorem cells_setCell_self (w : World σ V) (slot : String) (content : Cell (Instance V)) :
    (w.setCell slot content).cells slot = content :=
  if_pos rfl

theorem cells_setCell_of_ne (w : World σ V) {slot other : String} (content : Cell (Instance V))
    (different : other ≠ slot) : (w.setCell slot content).cells other = w.cells other :=
  if_neg different

theorem setCell_setCell (w : World σ V) (slot : String) (first second : Cell (Instance V)) :
    (w.setCell slot first).setCell slot second = w.setCell slot second := by
  simp only [setCell, World.mk.injEq, and_self, and_true]
  funext other
  split <;> rfl

/-- Cells that are not empty stay as they are. -/
def KeepsFilled (w after : World σ V) : Prop :=
  ∀ slot, (w.cells slot).isEmpty = false → after.cells slot = w.cells slot

namespace KeepsFilled

variable {w middle after : World σ V} {slot : String}

/-- What is filled stays filled over two steps. -/
theorem trans (first : w.KeepsFilled middle) (second : middle.KeepsFilled after) : w.KeepsFilled after := by
  intro other filled
  have kept := first other filled
  rw [second other (by rwa [kept]), kept]

/-- Marking an empty cell leaves all filled ones as they are. -/
theorem mark (empty : w.cells slot = .empty) : w.KeepsFilled (w.setCell slot .creating) := by
  intro other filled
  refine w.cells_setCell_of_ne _ fun same => ?_
  rw [same, empty] at filled
  cases filled

/-- A marked cell is left to the creation that has marked it. -/
theorem creating (kept : (w.setCell slot .creating).KeepsFilled middle) : middle.cells slot = .creating := by
  have marked := w.cells_setCell_self slot .creating
  rw [kept slot (by rw [marked]; rfl), marked]

/-- So the creation may settle it. -/
theorem settle (empty : w.cells slot = .empty) (kept : (w.setCell slot .creating).KeepsFilled middle)
    (content : Cell (Instance V)) : w.KeepsFilled (middle.setCell slot content) := by
  intro other filled
  have different : other ≠ slot := fun same => by
    rw [same, empty] at filled
    cases filled
  rw [middle.cells_setCell_of_ne _ different]
  exact (mark empty).trans kept other filled

end KeepsFilled

end World

/-- Wherever the step ends, it ends in a world that is related to the one where it starts. -/
def Effect.Within {W : Type} (rel : W → W → Prop) (step : Effect W ε α) : Prop :=
  ∀ w reply after, step w = some (reply, after) → rel w after

namespace Effect.Within

variable {W : Type} {rel rel' last : W → W → Prop}

/-- A step within a relation is within every weaker one. -/
theorem mono {step : Effect W ε α} (within : step.Within rel)
    (weaker : ∀ {w after}, rel w after → rel' w after) :
    step.Within rel' :=
  fun w reply after ran => weaker (within w reply after ran)

/-- A step that leaves the world as it is. -/
theorem rest {step : Effect W ε α} (refl : ∀ w, rel w w)
    (rests : ∀ w reply after, step w = some (reply, after) → after = w) : step.Within rel := by
  intro w reply after ran
  obtain rfl := rests w reply after ran
  exact refl after

theorem ok (refl : ∀ w, rel w w) (value : α) : (Effect.ok value : Effect W ε α).Within rel :=
  rest refl fun w _ _ ran => by
    cases ran
    rfl

theorem error (refl : ∀ w, rel w w) (failure : ε) : (Effect.error failure : Effect W ε α).Within rel :=
  rest refl fun w _ _ ran => by
    cases ran
    rfl

theorem panic (refl : ∀ w, rel w w) (text : String) : (Effect.panic text : Effect W ε α).Within rel :=
  rest refl fun w _ _ ran => by
    cases ran
    rfl

theorem starved : (Effect.starved : Effect W ε α).Within rel := fun _ _ _ ran => by cases ran

theorem ofExcept (refl : ∀ w, rel w w) :
    (result : Except ε α) → (Effect.ofExcept result : Effect W ε α).Within rel
  | .ok value => ok refl value
  | .error failure => error refl failure

/-- A sequence is within a relation that its start may end in and that the rest leads on to. -/
theorem andThen {first : Effect W ε α} {next : α → Effect W ε β}
    (stops : ∀ {w after}, rel w after → last w after)
    (goes : ∀ {w middle after}, rel w middle → rel' middle after → last w after)
    (start : first.Within rel) (rest : ∀ value, (next value).Within rel') :
    (first.andThen next).Within last := by
  intro w reply after ran
  rcases Effect.andThen_cases ran with ⟨value, middle, begun, ended⟩ | ⟨_, failed, _⟩ | ⟨_, unwound, _⟩
  · exact goes (start w _ middle begun) (rest value middle reply after ended)
  · exact stops (start w _ after failed)
  · exact stops (start w _ after unwound)

/-- A result that is known beforehand. -/
theorem ofExcept_andThen {result : Except ε α} {next : α → Effect W ε β} (refl : ∀ w, rel w w)
    (going : ∀ value, result = .ok value → (next value).Within rel) :
    ((Effect.ofExcept result).andThen next).Within rel := by
  cases result with
  | ok value => exact fun w => going value rfl w
  | error failure =>
    rintro w _ _ ⟨⟩
    exact refl w

/-- Changing failures leaves a step within its relation. -/
theorem mapError {step : Effect W ε α} (change : ε → ε') (within : step.Within rel) :
    (step.mapError change).Within rel := by
  intro w reply after ran
  obtain ⟨answered, ran, _⟩ := Effect.mapError_eq_some.mp ran
  exact within w answered after ran

/-- So does answering a step with its outcome. -/
theorem attempt {step : Effect W ε α} (within : step.Within rel) :
    (step.attempt : Effect W ε' (Except ε α)).Within rel := by
  intro w reply after ran
  obtain ⟨answered, ran, _⟩ := Effect.attempt_eq_some.mp ran
  exact within w answered after ran

theorem ite {step other : Effect W ε α} (test : W → Bool) (yes : step.Within rel)
    (no : other.Within rel) : Effect.Within rel fun w => if test w then step w else other w := by
  intro w reply after ran
  cases holds : test w with
  | true =>
    simp only [holds, ↓reduceIte] at ran
    exact yes w reply after ran
  | false =>
    simp only [holds, Bool.false_eq_true, ↓reduceIte] at ran
    exact no w reply after ran

end Effect.Within

section Endings

/-! ## Steps that succeed -/

variable {W : Type} {rel : W → W → Prop} {post : W → Prop}

/-- Where the step succeeds, the world that it leaves is as wanted. -/
def Effect.Ends (post : W → Prop) (step : Effect W ε α) : Prop :=
  ∀ w value after, step w = some (.ok value, after) → post after

theorem Effect.Ends.starved : (Effect.starved : Effect W ε α).Ends post := fun _ _ _ ran => by cases ran

/-- A sequence succeeds if its start and the rest do. -/
theorem Effect.andThen_eq_ok {first : Effect W ε α} {next : α → Effect W ε β} {w after : W} {value : β}
    (ran : first.andThen next w = some (.ok value, after)) :
    ∃ result middle, first w = some (.ok result, middle) ∧
      next result middle = some (.ok value, after) := by
  rcases Effect.andThen_cases ran with going | ⟨_, _, same⟩ | ⟨_, _, same⟩
  · exact going
  · cases same
  · cases same

/-- What holds where the start succeeds holds where the sequence does, if the rest keeps it. -/
theorem Effect.Ends.andThen {first : Effect W ε α} {next : α → Effect W ε β} (start : first.Ends post)
    (rest : ∀ value, (next value).Within rel) (stable : ∀ {w after}, rel w after → post w → post after) :
    (first.andThen next).Ends post := by
  intro w value after ran
  obtain ⟨result, middle, begun, ended⟩ := Effect.andThen_eq_ok ran
  exact stable (rest result middle _ after ended) (start w result middle begun)

private theorem Effect.Ends.behind {first : Effect W ε α} {next : α → Effect W ε β}
    (rest : ∀ value, (next value).Ends post) : (first.andThen next).Ends post := by
  intro w value after ran
  obtain ⟨result, middle, _, ended⟩ := Effect.andThen_eq_ok ran
  exact rest result middle value after ended

end Endings

section Laws

variable {W : Type}

theorem Effect.ofExcept_eq (result : Except ε α) (w : W) :
    Effect.ofExcept result w = some (.ofExcept result, w) := by
  cases result <;> rfl

theorem Effect.ok_andThen (value : α) (next : α → Effect W ε β) : (Effect.ok value).andThen next = next value :=
  rfl

theorem Effect.ofExcept_ok_andThen (value : α) (next : α → Effect W ε β) :
    (Effect.ofExcept (.ok value)).andThen next = next value := rfl

/-- How a sequence is grouped makes no difference. -/
theorem Effect.andThen_assoc (first : Effect W ε α) (second : α → Effect W ε β) (third : β → Effect W ε γ) :
    (first.andThen second).andThen third = first.andThen fun value => (second value).andThen third := by
  funext w
  simp only [andThen]
  cases first w with
  | none => rfl
  | some found =>
    obtain ⟨reply, middle⟩ := found
    cases reply <;> rfl

end Laws

namespace Scope

variable {scope : Scope σ V} {handler : Handler σ V} {reply : Reply RuntimeError (Instance V)}
  {w after : World σ V}

/-- A cell that is not empty answers an access; an empty one is marked, and settled with what came of
the creation. -/
theorem access_cases {slot : CachedSlot} (ran : scope.access handler slot w = some (reply, after)) :
    (∃ answer, (w.cells slot.identifier).answer? slot.identifier = some answer ∧
      reply = .ofExcept answer ∧ after = w) ∨
    (w.cells slot.identifier = .empty ∧ ∃ middle,
      scope.create handler slot (w.setCell slot.identifier .creating) = some (reply, middle) ∧
      after = middle.setCell slot.identifier (.settled slot.identifier reply)) := by
  unfold access at ran
  split at ran
  next answer answered =>
    rw [Effect.ofExcept_eq] at ran
    cases ran
    exact .inl ⟨answer, answered, rfl, rfl⟩
  next unanswered =>
    have empty : w.cells slot.identifier = .empty := by
      cases cell : w.cells slot.identifier <;> simp_all [Cell.answer?]
    split at ran
    · cases ran
    next created =>
      cases ran
      exact .inr ⟨empty, _, created, rfl⟩

/-- A read accesses the cached slot at the end of the aliases, if there is one, and otherwise leaves
the world as it is. -/
theorem read_cases {identifier : String} (ran : scope.read handler identifier w = some (reply, after)) :
    (∃ slot, scope.served? (scope.target identifier) = some (.cached slot) ∧
      scope.access handler slot w = some (reply, after)) ∨
    ((∀ slot, scope.served? (scope.target identifier) ≠ some (.cached slot)) ∧ after = w) := by
  unfold read at ran
  cases served : scope.served? (scope.target identifier) with
  | none =>
    rw [served] at ran
    cases ran
    exact .inr ⟨nofun, rfl⟩
  | some found =>
    rw [served] at ran
    cases found with
    | cached slot => exact .inl ⟨slot, rfl, ran⟩
    | ready value =>
      cases ran
      exact .inr ⟨nofun, rfl⟩
    | aliased target =>
      cases ran
      exact .inr ⟨nofun, rfl⟩

end Scope

section Arguments

/-! ## Arguments -/

variable {handler : Handler σ V}

/-- An argument that has been read is what its slot has been read as, a handle, or one of the instances
that the caller passes. -/
theorem Scope.argument_eq_ok {slot : String} {curried : List (Instance V)} {argument : Argument}
    {w after : World σ V} {value : Arg V}
    (ran : Scope.argument handler slot curried argument w = some (.ok value, after)) :
    (∃ identifier shared, argument = .slot identifier ∧ value = .shared shared ∧
      handler.read identifier w = some (.ok shared, after)) ∨
    (∃ identifier, argument = .lazy identifier ∧ value = .lazy identifier) ∨
    ∃ index shared, argument = .curried index ∧ value = .shared shared ∧
      curried[index.toNat]? = some shared := by
  cases argument with
  | slot identifier =>
    obtain ⟨shared, _, read, ended⟩ := Effect.andThen_eq_ok ran
    cases ended
    exact .inl ⟨identifier, shared, rfl, rfl, read⟩
  | lazy identifier =>
    cases ran
    exact .inr (.inl ⟨identifier, rfl, rfl⟩)
  | curried index =>
    cases passed : curried[index.toNat]? with
    | none =>
      simp only [Scope.argument, passed] at ran
      cases ran
    | some shared =>
      simp only [Scope.argument, passed] at ran
      cases ran
      exact .inr (.inr ⟨index, shared, rfl, rfl, passed⟩)

variable {rel : World σ V → World σ V → Prop} (refl : ∀ w, rel w w)
  (trans : ∀ {w middle after}, rel w middle → rel middle after → rel w after)
  (reads : ∀ identifier, (handler.read identifier).Within rel)

include refl trans reads

private theorem Scope.argument_within (slot : String) (curried : List (Instance V)) (argument : Argument) :
    (Scope.argument handler slot curried argument).Within rel := by
  cases argument with
  | slot identifier => exact .andThen id trans (reads identifier) fun value => .ok refl _
  | lazy identifier => exact .ok refl _
  | curried index =>
    simp only [Scope.argument]
    split
    · exact .ok refl _
    · exact .error refl _

/-- Reading arguments does no more than reading. -/
theorem Scope.arguments_within (slot : String) (curried : List (Instance V)) :
    (arguments : List Argument) → (Scope.arguments handler slot curried arguments).Within rel
  | [] => .ok refl []
  | argument :: rest =>
    .andThen id trans (Scope.argument_within refl trans reads slot curried argument) fun _ =>
      .andThen id trans (Scope.arguments_within slot curried rest) fun _ => .ok refl _

/-- What holds of each argument when it has been read holds of all of them when all have been read. -/
theorem Scope.forall₂_of_arguments (holds : World σ V → Argument → Arg V → Prop)
    (stable : ∀ {w after argument value}, rel w after → holds w argument value →
      holds after argument value) {slot : String} {curried : List (Instance V)}
    (each : ∀ {argument w value after},
      Scope.argument handler slot curried argument w = some (.ok value, after) →
        holds after argument value) {arguments : List Argument} {w after : World σ V}
    {values : List (Arg V)}
    (ran : Scope.arguments handler slot curried arguments w = some (.ok values, after)) :
    List.Forall₂ (holds after) arguments values := by
  induction arguments generalizing w values with
  | nil =>
    cases ran
    exact .nil
  | cons argument rest ih =>
    obtain ⟨value, middle, first, ran⟩ := Effect.andThen_eq_ok ran
    obtain ⟨others, last, later, ended⟩ := Effect.andThen_eq_ok ran
    cases ended
    have kept := Scope.arguments_within refl trans reads slot curried rest _ _ _ later
    exact .cons (stable kept (each first)) (ih later)

/-- What is read for one of the arguments is there when all of them have been read. -/
theorem Scope.ends_arguments {post : World σ V → Prop}
    (stable : ∀ {w after}, rel w after → post w → post after) {identifier : String}
    (ends : (handler.read identifier).Ends post) {slot : String} {curried : List (Instance V)} :
    (arguments : List Argument) → .slot identifier ∈ arguments →
    (Scope.arguments handler slot curried arguments).Ends post
  | argument :: rest, member => by
    have keeping (value : Arg V) :
        ((Scope.arguments handler slot curried rest).andThen fun values =>
          Effect.ok (value :: values)).Within rel :=
      .andThen id trans (Scope.arguments_within refl trans reads slot curried rest) fun _ =>
        .ok refl _
    rcases List.mem_cons.mp member with same | later
    · cases same
      refine .andThen ?_ keeping stable
      exact .andThen ends (fun _ => .ok refl _) stable
    · exact .behind fun _ => .andThen (Scope.ends_arguments stable ends rest later)
        (fun _ => .ok refl _) stable

end Arguments

section Operations

/-! ## Operations -/

variable {scope : Scope σ V} {handler : Handler σ V} {rel : World σ V → World σ V → Prop}
  {w after : World σ V}

/-- An operation leads where its step leads. -/
theorem Scope.within_performWith {operation : Operation V} {answer : Answer V}
    (reads : ∀ slot, operation = .read slot → (handler.readAlive slot).Within rel)
    (factories : ∀ slot given, operation = .callFactory slot given →
      (scope.callFactory handler slot given).Within rel)
    (injectors : ∀ slot given, operation = .callInjector slot given →
      (scope.callInjector handler slot given).Within rel)
    (closes : handler.close.Within rel) (releases : ∀ w, rel w { w with held := false })
    (performed : scope.performWith handler operation w = some (answer, after)) : rel w after := by
  have mapped {ε α : Type} {step : ScopeStep σ V ε α} (within : step.Within rel)
      {change : Reply ε α → Answer V} (ran : (step w).map (.map change id) = some (answer, after)) :
      rel w after := by
    obtain ⟨⟨reply, middle⟩, found, rfl, rfl⟩ := by
      simpa only [Option.map_eq_some_iff, Prod.ext_iff] using ran
    exact within w reply middle found
  cases operation with
  | read slot => exact mapped (reads slot rfl) performed
  | callFactory slot given => exact mapped (factories slot given rfl) performed
  | callInjector slot given => exact mapped (injectors slot given rfl) performed
  | close => exact mapped closes performed
  | release =>
    cases performed
    exact releases w

theorem Scope.within_settleWith (refl : rel w w) (closes : handler.close.Within rel)
    (trans : ∀ {middle after}, rel w middle → rel middle after → rel w after)
    (releases : rel w { w with alive := false }) {reply : Reply CloseError Unit}
    (settled : settleWith handler w = some (reply, after)) : rel w after := by
  unfold settleWith at settled
  split at settled
  · cases settled
    exact refl
  · exact trans releases (closes _ reply after settled)

/-- What holds of every operation, together with the settling after it, holds of a run. -/
theorem Scope.within_runWith (refl : ∀ w, rel w w)
    (trans : ∀ {w middle after}, rel w middle → rel middle after → rel w after)
    {operations : List (Operation V)} {answers : List (Answer V)}
    (operates : ∀ operation ∈ operations, ∀ w answer middle reply after,
      scope.performWith handler operation w = some (answer, middle) →
        settleWith handler middle = some (reply, after) → rel w after)
    (ran : scope.runWith handler operations w = some (answers, after)) : rel w after := by
  induction operations generalizing w answers after with
  | nil =>
    cases ran
    exact refl w
  | cons operation rest ih =>
    obtain ⟨first, others⟩ := List.forall_mem_cons.mp operates
    obtain ⟨⟨answer, middle⟩, performed, settling⟩ := Option.bind_eq_some_iff.mp ran
    obtain ⟨⟨reply, settled⟩, ended, going⟩ := Option.bind_eq_some_iff.mp settling
    obtain ⟨⟨_, final⟩, later, same⟩ := Option.map_eq_some_iff.mp going
    have start := first w answer middle reply settled performed ended
    have last := ih others later
    cases same
    exact trans start last

end Operations

/-- The relation can be composed, and is kept by whatever touches neither cells nor resources nor
the chronicle. -/
structure Passage (rel : Recorded σ V → Recorded σ V → Prop) : Prop where
  refl w : rel w w
  trans {w middle after} : rel w middle → rel middle after → rel w after
  release w : rel w { w with held := false }
  update w state : rel w { w with host := (state, w.host.2) }
  share w : rel w { w with serial := w.serial + 1 }

/-- The relation, but for at most one start of a recipe for the slot. -/
def Scope.Starting (scope : Scope σ V) (rel : Recorded σ V → Recorded σ V → Prop) (slot : String)
    (w after : Recorded σ V) : Prop :=
  rel w after ∨
    ∃ middle, rel w middle ∧ rel (middle.note (.started slot (scope.state? middle.plain slot))) after

namespace Scope

variable {scope : Scope σ V} {rel : Recorded σ V → Recorded σ V → Prop} (passage : Passage rel)
  {handler : Handler (σ × List (Event σ V)) V} {slot : String} {w middle after : Recorded σ V}

section Starting

include passage

theorem Starting.before (led : rel w middle) (starting : scope.Starting rel slot middle after) :
    scope.Starting rel slot w after := by
  rcases starting with going | ⟨begun, going, ended⟩
  · exact .inl (passage.trans led going)
  · exact .inr ⟨begun, passage.trans led going, ended⟩

private theorem Starting.behind (starting : scope.Starting rel slot w middle) (led : rel middle after) :
    scope.Starting rel slot w after := by
  rcases starting with going | ⟨begun, going, ended⟩
  · exact .inl (passage.trans going led)
  · exact .inr ⟨begun, going, passage.trans ended led⟩

end Starting

include passage

theorem within_andThen {first : ScopeStep (σ × List (Event σ V)) V ε α}
    {next : α → ScopeStep (σ × List (Event σ V)) V ε β} (start : first.Within rel)
    (rest : ∀ value, (next value).Within rel) : (first.andThen next).Within rel :=
  .andThen id passage.trans start rest

theorem within_instance (made : Made V) :
    (made.instance : ScopeStep (σ × List (Event σ V)) V ε (Instance V)).Within rel := by
  cases made with
  | existing shared => exact .ok passage.refl shared
  | fresh value =>
    rintro w _ _ ⟨⟩
    exact passage.share w

theorem within_checkOpen (slot : String) :
    (checkOpen slot : ScopeStep (σ × List (Event σ V)) V RuntimeError Unit).Within rel :=
  fun w => Effect.Within.ofExcept passage.refl (w.teardown.checkOpen slot) w

theorem within_checkAlive (slot : String) :
    (checkAlive slot : ScopeStep (σ × List (Event σ V)) V RuntimeError Unit).Within rel :=
  .ite World.alive (.ok passage.refl ()) (.error passage.refl _)

theorem within_checkArity (slot : String) (expected actual : Nat) :
    (checkArity slot expected actual : ScopeStep (σ × List (Event σ V)) V RuntimeError Unit).Within
      rel := by
  unfold checkArity
  split
  · exact .ok passage.refl ()
  · exact .error passage.refl _

variable (reads : ∀ identifier, (handler.read identifier).Within rel)

include reads

/-- Reads of a scope that may be gone stay within the relation if reads do. -/
theorem within_readAlive (slot : String) : (handler.readAlive slot).Within rel :=
  .ite World.alive (reads slot) (.error passage.refl _)

/-- A program closes the scope only where it is said to. -/
theorem within_lift {program : Program σ V α} (closes : program.CloseFree ∨ handler.close.Within rel) :
    (program.lift.exec scope.chronicled handler).Within rel := by
  induction program with
  | finish result => exact .ok passage.refl result
  | fail fault => exact .error passage.refl fault
  | panic text => exact .panic passage.refl text
  | read slot next ih =>
    exact within_andThen passage (.attempt (within_readAlive passage reads slot)) fun answer =>
      ih answer (closes.imp_left fun free => free answer)
  | close next ih =>
    have closing := closes.resolve_left id
    exact within_andThen passage (.attempt closing) fun answer => ih answer (.inr closing)
  | release next ih =>
    exact fun w reply after ran => passage.trans (passage.release w) (ih closes _ reply after ran)
  | inspect next ih =>
    exact fun w => ih _ (closes.imp_left fun free => free _) w
  | update change next ih =>
    exact fun w reply after ran => passage.trans (passage.update w (change w.host.1))
      (ih w.host.1 (closes.imp_left fun free => free w.host.1) _ reply after ran)

/-- What a program does after it has noted that it is started. -/
theorem within_noting {program : Program σ V α} (event : ScopeView → Event σ V)
    (closes : program.CloseFree ∨ handler.close.Within rel) :
    ((program.noting event).exec scope.chronicled handler).Within fun w after =>
      rel (w.note (event (scope.view w.plain))) after :=
  fun w => within_lift passage reads closes (w.note (event (scope.view w.plain)))

/-- Reading arguments stays within it. -/
theorem within_arguments (slot : String) (curried : List (Instance V)) (arguments : List Argument) :
    (Scope.arguments handler slot curried arguments).Within rel :=
  arguments_within passage.refl passage.trans reads slot curried arguments

section Closing

variable (closing : handler.close.Within rel)
  (notes : ∀ (w : Recorded σ V) {event}, event.isClosing = true → rel w (w.note event))

include closing notes

/-- An instance that owns something holds a value of the host, whose closer notes when it is started
and how it ends. -/
theorem within_closeInstance (value : Instance V) :
    (scope.chronicled.closeInstance handler value :
      ScopeStep (σ × List (Event σ V)) V ε (Except Fault Unit)).Within rel := by
  unfold closeInstance
  split
  next closer found =>
    obtain ⟨content, program, same, rfl⟩ : ∃ content program, value.content = .host content ∧
        closer = Program.telling content program := by
      cases content : value.content with
      | host held =>
        rw [content] at found
        obtain ⟨program, _, rfl⟩ := Option.map_eq_some_iff.mp found
        exact ⟨held, program, rfl, rfl⟩
      | factory slot =>
        rw [content] at found
        cases found
      | injector slot =>
        rw [content] at found
        cases found
    refine .attempt fun w reply after ran => ?_
    obtain ⟨middle, ended, noted⟩ := exec_ending handler.maintains_true trivial ran
    have closed := within_noting passage reads _ (.inr closing) w reply middle ended
    have led := passage.trans (notes w rfl) closed
    rcases noted with rfl | ⟨rfl, _⟩
    · exact passage.trans led (notes middle rfl)
    · exact led
  next => exact .ok passage.refl _

/-- Closing one resource after another stays within it. -/
theorem within_closeAll :
    (owned : List (String × Instance V)) →
    (Teardown.closeAll (scope.chronicled.closeInstance handler) owned :
      ScopeStep (σ × List (Event σ V)) V CloseError (List CloseFailure)).Within rel
  | [] => .ok passage.refl []
  | (_, resource) :: rest =>
    within_andThen passage (within_closeInstance passage reads closing notes resource) fun outcome =>
      within_andThen passage (within_closeAll rest) fun failures => by
        cases outcome <;> exact .ok passage.refl _

/-! Where resources do not matter, neither closing nor taking one leads elsewhere. -/

variable (takes : ∀ (w : Recorded σ V) teardown, rel w { w with teardown })

include takes

private theorem within_close : (scope.chronicled.close handler).Within rel := by
  intro w reply after ran
  unfold Scope.close at ran
  split at ran
  · cases ran
    exact passage.refl w
  · have closed := within_andThen passage (within_closeAll passage reads closing notes w.teardown.owned)
      (fun failures => .ofExcept passage.refl (CloseError.ofFailures failures)) _ reply after ran
    exact passage.trans (takes w .begun) closed

/-- So does taking a resource. -/
theorem within_own (slot : String) (value : Instance V) :
    (scope.chronicled.own handler slot value).Within rel := by
  unfold own
  split
  · refine .ite (fun w : Recorded σ V => w.teardown.closed) ?_ ?_
    · exact within_andThen passage (within_closeInstance passage reads closing notes value) fun _ =>
        .error passage.refl _
    · rintro w _ _ ⟨⟩
      exact takes w _
  · exact .error passage.refl _

end Closing

variable (closes : scope.recipes.All Program.CloseFree ∨ handler.close.Within rel)

include closes

/-- The start of a recipe comes last but for what is made of its result. -/
theorem within_constructed {type : TypeExpr} {slot : String} {values : List (Arg V)}
    {next : Made V → ScopeStep (σ × List (Event σ V)) V RuntimeError α}
    (rest : ∀ made, (next made).Within rel) :
    ((Effect.ofExcept (scope.chronicled.recipes.findConstructor type)).andThen fun recipe =>
      (scope.chronicled.runRecipe handler slot (recipe ⟨slot, values⟩)).andThen next).Within
        (scope.Starting rel slot) := by
  refine .ofExcept_andThen (fun w => .inl (passage.refl w)) fun noting found => ?_
  rw [findConstructor_chronicled] at found
  cases known : scope.recipes.findConstructor type with
  | error failure =>
    rw [known] at found
    cases found
  | ok recipe =>
    rw [known] at found
    cases found
    have free := closes.imp_left fun all => all.constructor known ⟨slot, values⟩
    exact .andThen (fun ran => .inr ⟨_, passage.refl _, ran⟩)
      (fun ran led => .inr ⟨_, passage.refl _, passage.trans ran led⟩)
      (.mapError _ (within_noting passage reads _ free)) rest

/-- Calling a method stays within it if what is made of the product does. -/
theorem within_called {type : TypeExpr} {name slot : String} {receiver : Instance V}
    {values : List (Arg V)} {next : Option (Made V) → ScopeStep (σ × List (Event σ V)) V RuntimeError α}
    (rest : ∀ made, (next made).Within rel) :
    ((Effect.ofExcept (scope.chronicled.recipes.findMethod type name)).andThen fun recipe =>
      (scope.chronicled.runRecipe handler slot (recipe receiver ⟨slot, values⟩)).andThen next).Within
        (scope.Starting rel slot) := by
  refine .ofExcept_andThen (fun w => .inl (passage.refl w)) fun noting found => ?_
  rw [findMethod_chronicled] at found
  cases known : scope.recipes.findMethod type name with
  | error failure =>
    rw [known] at found
    cases found
  | ok recipe =>
    rw [known] at found
    cases found
    have free := closes.imp_left fun all => all.method known receiver ⟨slot, values⟩
    exact .andThen (fun ran => .inr ⟨_, passage.refl _, ran⟩)
      (fun ran led => .inr ⟨_, passage.refl _, passage.trans ran led⟩)
      (.mapError _ (within_noting passage reads _ free)) rest

/-- Producing a slot starts its recipe at most once, and stays within the relation otherwise. -/
theorem within_produce (slot : CachedSlot) (values : List (Arg V)) :
    (scope.chronicled.produce handler slot values).Within (scope.Starting rel slot.identifier) := by
  unfold produce
  split
  · exact within_constructed passage reads closes (within_instance passage)
  · refine .andThen .inl (Starting.before passage) (reads _) fun receiver =>
      within_called passage reads closes fun made => ?_
    cases made with
    | some made => exact within_instance passage made
    | none => exact .error passage.refl _

/-- A creation that succeeds may take its instance in the end. -/
theorem within_create {slot : CachedSlot}
    (owning : ∀ value, (scope.chronicled.own handler slot.identifier value).Within rel) :
    (scope.chronicled.create handler slot).Within (scope.Starting rel slot.identifier) := by
  refine .andThen .inl (Starting.before passage) (within_checkOpen passage _) fun _ =>
    .andThen .inl (Starting.before passage) (within_arguments passage reads _ _ _) fun values =>
      .andThen id (Starting.behind passage) (within_produce passage reads closes slot values)
        fun value => ?_
  split
  · exact within_andThen passage (owning value) fun _ => .ok passage.refl value
  · exact .ok passage.refl value

/-- So does calling a factory. -/
theorem within_callFactory (slot : FactorySlot) (given : List (Instance V)) :
    (scope.chronicled.callFactory handler slot given).Within (scope.Starting rel slot.identifier) :=
  .andThen .inl (Starting.before passage) (within_checkArity passage _ _ _) fun _ =>
    .andThen .inl (Starting.before passage) (within_checkAlive passage _) fun _ =>
      .andThen .inl (Starting.before passage) (within_checkOpen passage _) fun _ =>
        .andThen .inl (Starting.before passage) (within_arguments passage reads _ _ _) fun _ =>
          within_constructed passage reads closes (within_instance passage)

/-- So does calling an injector. -/
theorem within_callInjector (slot : InjectorSlot) (given : List (Instance V)) :
    (scope.chronicled.callInjector handler slot given).Within (scope.Starting rel slot.identifier) := by
  refine .andThen .inl (Starting.before passage) (within_checkArity passage _ _ _) fun _ =>
    .andThen .inl (Starting.before passage) (within_checkAlive passage _) fun _ =>
      .andThen .inl (Starting.before passage) (within_checkOpen passage _) fun _ =>
        .andThen .inl (Starting.before passage) (reads _) fun receiver =>
          .andThen .inl (Starting.before passage) (within_arguments passage reads _ _ _) fun _ =>
            within_called passage reads closes fun made => ?_
  cases made with
  | some made =>
    exact within_andThen passage (within_instance passage made) fun value => .ok passage.refl _
  | none =>
    show Effect.Within rel (if _ then _ else _)
    split
    · exact .ok passage.refl none
    · exact .error passage.refl _

omit handler reads closes in
/-- What a read keeps where the requests within it keep it, every level keeps. -/
theorem within_chronicler
    (notes : ∀ (w : Recorded σ V) {event}, event.isClosing = true → rel w (w.note event))
    (takes : ∀ (w : Recorded σ V) teardown, rel w { w with teardown })
    (noted : ∀ level, (∀ identifier, ((scope.chronicler level).read identifier).Within rel) →
      (scope.chronicler level).close.Within rel → ∀ {identifier w reply middle},
        scope.chronicled.read (scope.chronicler level) identifier (w.note (.asked identifier w.plain)) =
          some (reply, middle) →
        rel w (middle.note (.answered identifier w.plain reply middle.plain)))
    (level : Nat) : (∀ identifier, ((scope.chronicler level).read identifier).Within rel) ∧
      (scope.chronicler level).close.Within rel := by
  induction level with
  | zero => exact ⟨fun _ => .starved, .starved⟩
  | succ level ih =>
    obtain ⟨reads, closes⟩ := ih
    refine ⟨fun identifier w reply after ran => ?_, within_close passage reads closes notes takes⟩
    obtain ⟨middle, found, rfl⟩ := scope.chronicler_read ran
    exact noted level reads closes found

end Scope

end Wiring
