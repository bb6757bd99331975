import Wiring.Scope.Operation

/-! # Scopes that answer alike

Two scopes over one plan may differ in the states of their hosts. Where each program of the first
one behaves as its counterpart in the second one does, seen through a view of the states, every
rule of the first scope answers as the same rule of the second one. A scope mirrors itself, which
makes two handlers of one scope comparable; a scope whose programs keep a record of what they do
mirrors the scope without the record.
-/

namespace Wiring

variable {σ τ V ε ε' α β γ δ : Type}

def World.map (view : σ → τ) (w : World σ V) : World τ V where
  cells := w.cells
  teardown := w.teardown
  held := w.held
  alive := w.alive
  serial := w.serial
  host := view w.host

/-- What the first step answers, the second one answers too, seen through a view of the states. -/
def Effect.Simulates {W W' : Type} (view : W → W') (first : Effect W ε α) (second : Effect W' ε α) :
    Prop :=
  ∀ w reply after, first w = some (reply, after) → second (view w) = some (reply, view after)

/-- Both fail alike, or both hold values and these are related. -/
def Alike (related : α → β → Prop) : Except ε α → Except ε β → Prop
  | .ok value, .ok other => related value other
  | .error failure, .error other => failure = other
  | _, _ => False

namespace Effect.Simulates

variable {W W' : Type} {view : W → W'}

theorem ok (value : α) : Simulates view (Effect.ok value : Effect W ε α) (.ok value) := by
  rintro w _ _ ⟨⟩
  rfl

theorem error (failure : ε) :
    Simulates view (Effect.error failure : Effect W ε α) (.error failure) := by
  rintro w _ _ ⟨⟩
  rfl

theorem panic (text : String) : Simulates view (Effect.panic text : Effect W ε α) (.panic text) := by
  rintro w _ _ ⟨⟩
  rfl

theorem ofExcept : (result : Except ε α) →
    Simulates view (Effect.ofExcept result) (Effect.ofExcept result)
  | .ok value => ok value
  | .error failure => error failure

theorem modify {change : W → W} {change' : W' → W'} (agree : ∀ w, view (change w) = change' (view w)) :
    Simulates view (Effect.modify change : Effect W ε Unit) (.modify change') := by
  rintro w _ _ ⟨⟩
  simp only [Effect.modify, agree]

/-- Sequences simulate each other if their parts do. -/
theorem andThen {first : Effect W ε α} {second : Effect W' ε α} {next : α → Effect W ε β}
    {next' : α → Effect W' ε β} (start : Simulates view first second)
    (rest : ∀ value, Simulates view (next value) (next' value)) :
    Simulates view (first.andThen next) (second.andThen next') := by
  intro w reply after ran
  rcases Effect.andThen_cases ran with
    ⟨value, middle, begun, ended⟩ | ⟨failure, failed, rfl⟩ | ⟨text, unwound, rfl⟩
  · simp only [Effect.andThen, start w _ _ begun]
    exact rest value middle reply after ended
  · simp only [Effect.andThen, start w _ _ failed]
  · simp only [Effect.andThen, start w _ _ unwound]

/-- Results that are known beforehand need only be alike. -/
theorem ofExcept_andThen {related : α → β → Prop} {result : Except ε α} {result' : Except ε β}
    {next : α → Effect W ε γ} {next' : β → Effect W' ε γ} (alike : Alike related result result')
    (rest : ∀ value other, related value other → Simulates view (next value) (next' other)) :
    Simulates view ((Effect.ofExcept result).andThen next) ((Effect.ofExcept result').andThen next') := by
  cases result with
  | ok value =>
    cases result' with
    | ok other => exact rest value other alike
    | error _ => exact alike.elim
  | error failure =>
    cases result' with
    | ok _ => exact alike.elim
    | error other =>
      obtain rfl : failure = other := alike
      rintro w _ _ ⟨⟩
      rfl

theorem mapError {first : Effect W ε α} {second : Effect W' ε α} (change : ε → ε')
    (start : Simulates view first second) :
    Simulates view (first.mapError change) (second.mapError change) := by
  intro w reply after ran
  obtain ⟨answered, answer, rfl⟩ := Effect.mapError_eq_some.mp ran
  exact Effect.mapError_eq_some.mpr ⟨answered, start w _ _ answer, rfl⟩

theorem attempt {first : Effect W ε α} {second : Effect W' ε α} (start : Simulates view first second) :
    Simulates view (first.attempt : Effect W ε' (Except ε α)) second.attempt := by
  intro w reply after ran
  obtain ⟨answered, answer, rfl⟩ := Effect.attempt_eq_some.mp ran
  exact Effect.attempt_eq_some.mpr ⟨answered, start w _ _ answer, rfl⟩

theorem ite {first other : Effect W ε α} {second other' : Effect W' ε α} (test : W → Bool)
    {test' : W' → Bool} (agree : ∀ w, test' (view w) = test w) (yes : Simulates view first second)
    (no : Simulates view other other') :
    Simulates view (fun w => if test w then first w else other w)
      (fun w => if test' w then second w else other' w) := by
  intro w reply after ran
  have agrees := agree w
  cases holds : test w with
  | true =>
    simp only [holds, agrees, ↓reduceIte] at ran ⊢
    exact yes w reply after ran
  | false =>
    simp only [holds, agrees, Bool.false_eq_true, ↓reduceIte] at ran ⊢
    exact no w reply after ran

theorem closeAll {ρ : Type} {close : ρ → Effect W ε (Except Fault Unit)}
    {close' : ρ → Effect W' ε (Except Fault Unit)}
    (each : ∀ resource, Simulates view (close resource) (close' resource)) :
    (owned : List (String × ρ)) →
    Simulates view (Teardown.closeAll close owned) (Teardown.closeAll close' owned)
  | [] => ok _
  | (_, resource) :: rest =>
    andThen (each resource) fun outcome => andThen (closeAll each rest) fun failures => by
      cases outcome <;> exact ok _

end Effect.Simulates

/-- Both requests are answered as the second handler answers them. -/
structure Handler.Simulates (view : σ → τ) (first : Handler σ V) (second : Handler τ V) : Prop where
  read (slot : String) : (first.read slot).Simulates (World.map view) (second.read slot)
  close : first.close.Simulates (World.map view) second.close

/-- The program behaves as its counterpart does, whenever the requests of both are answered alike. -/
def Program.Follows (view : σ → τ) (scope : Scope σ V) (other : Scope τ V) (program : Program σ V α)
    (counterpart : Program τ V α) : Prop :=
  ∀ first second, Handler.Simulates view first second →
    (program.exec scope first).Simulates (World.map view) (counterpart.exec other second)

/-- Over one plan and the same values, every program of the scope behaves as its counterpart. -/
structure Scope.Mirrors (view : σ → τ) (scope : Scope σ V) (other : Scope τ V) : Prop where
  plan : other.plan = scope.plan
  values : other.values = scope.values
  constructors (type : TypeExpr) :
    Alike (fun recipe recipe' => ∀ arguments,
        Program.Follows view scope other (recipe arguments) (recipe' arguments))
      (scope.recipes.findConstructor type) (other.recipes.findConstructor type)
  methods (type : TypeExpr) (name : String) :
    Alike (fun recipe recipe' => ∀ receiver arguments,
        Program.Follows view scope other (recipe receiver arguments) (recipe' receiver arguments))
      (scope.recipes.findMethod type name) (other.recipes.findMethod type name)
  closers (content : Content V) :
    Option.Rel (Program.Follows view scope other) (scope.host.closerOf content)
      (other.host.closerOf content)

namespace Scope

variable {view : σ → τ} {scope : Scope σ V} {other : Scope τ V} {first : Handler σ V}
  {second : Handler τ V}

/-- Reads of a scope that may be gone are simulated as reads are. -/
theorem simulates_readAlive (simulates : first.Simulates view second) (slot : String) :
    (first.readAlive slot).Simulates (World.map view) (second.readAlive slot) :=
  .ite World.alive (fun _ => rfl) (simulates.read slot) (.error _)

/-- A program follows itself in any scope that it cannot tell from its own. -/
theorem follows_self (scope : Scope σ V) (program : Program σ V α) :
    Program.Follows id scope scope program program := by
  intro first second simulates
  induction program with
  | finish result => exact .ok result
  | fail fault => exact .error fault
  | panic text => exact .panic text
  | read slot next ih => exact .andThen (.attempt (simulates_readAlive simulates slot)) ih
  | close next ih => exact .andThen (.attempt simulates.close) ih
  | release next ih => exact .andThen (.modify fun _ => rfl) fun _ => ih
  | inspect next ih => exact fun w reply after ran => ih _ w reply after ran
  | update change next ih =>
    exact fun w reply after ran => ih _ { w with host := change w.host } reply after ran

/-- A scope mirrors itself. -/
theorem mirrors_self (scope : Scope σ V) : Mirrors id scope scope where
  plan := rfl
  values := rfl
  constructors type := by
    cases scope.recipes.findConstructor type with
    | ok recipe => exact fun arguments => follows_self scope _
    | error failure => rfl
  methods type name := by
    cases scope.recipes.findMethod type name with
    | ok recipe => exact fun receiver arguments => follows_self scope _
    | error failure => rfl
  closers content := by
    cases scope.host.closerOf content with
    | some closer => exact .some (follows_self scope closer)
    | none => exact .none

variable (mirrors : Mirrors view scope other) (simulates : first.Simulates view second)

include mirrors in
theorem Mirrors.served? (identifier : String) : other.served? identifier = scope.served? identifier := by
  simp only [Scope.served?, entries, mirrors.plan, mirrors.values]

include mirrors in
/-- Aliases end alike in mirrored scopes. -/
theorem Mirrors.target (identifier : String) : other.target identifier = scope.target identifier := by
  have follow (steps : Nat) (identifier : String) :
      other.follow steps identifier = scope.follow steps identifier := by
    induction steps generalizing identifier with
    | zero => rfl
    | succ steps ih => simp only [Scope.follow, mirrors.served?, ih]
  simp only [Scope.target, mirrors.plan, follow]

theorem simulates_instance (made : Made V) :
    (made.instance : ScopeStep σ V ε (Instance V)).Simulates (World.map view) made.instance := by
  cases made with
  | existing shared => exact .ok shared
  | fresh value =>
    rintro w _ _ ⟨⟩
    rfl

theorem simulates_checkOpen (slot : String) :
    (checkOpen slot : ScopeStep σ V RuntimeError Unit).Simulates (World.map view) (checkOpen slot) :=
  fun w => Effect.Simulates.ofExcept (w.teardown.checkOpen slot) w

theorem simulates_checkAlive (slot : String) :
    (checkAlive slot : ScopeStep σ V RuntimeError Unit).Simulates (World.map view) (checkAlive slot) :=
  .ite World.alive (fun _ => rfl) (.ok ()) (.error _)

theorem simulates_checkArity (slot : String) (expected actual : Nat) :
    (checkArity slot expected actual : ScopeStep σ V RuntimeError Unit).Simulates (World.map view)
      (checkArity slot expected actual) := by
  unfold checkArity
  split
  · exact .ok ()
  · exact .error _

include simulates

private theorem simulates_argument (slot : String) (curried : List (Instance V)) (argument : Argument) :
    (Scope.argument first slot curried argument).Simulates (World.map view)
      (Scope.argument second slot curried argument) := by
  cases argument with
  | slot identifier => exact .andThen (simulates.read identifier) fun value => .ok _
  | lazy identifier => exact .ok _
  | curried index =>
    simp only [Scope.argument]
    split
    · exact .ok _
    · exact .error _

theorem simulates_arguments (slot : String) (curried : List (Instance V)) :
    (arguments : List Argument) → (Scope.arguments first slot curried arguments).Simulates
      (World.map view) (Scope.arguments second slot curried arguments)
  | [] => .ok []
  | argument :: rest =>
    .andThen (simulates_argument simulates slot curried argument) fun _ =>
      .andThen (simulates_arguments slot curried rest) fun _ => .ok _

theorem simulates_runRecipe (slot : String) {recipe : Program σ V α} {recipe' : Program τ V α}
    (follows : Program.Follows view scope other recipe recipe') :
    (scope.runRecipe first slot recipe).Simulates (World.map view)
      (other.runRecipe second slot recipe') :=
  .mapError _ (follows first second simulates)

include mirrors

theorem simulates_closeInstance (value : Instance V) :
    (scope.closeInstance first value : ScopeStep σ V ε (Except Fault Unit)).Simulates (World.map view)
      (other.closeInstance second value) := by
  have closers := mirrors.closers value.content
  unfold closeInstance
  generalize scope.host.closerOf value.content = closer at closers ⊢
  generalize other.host.closerOf value.content = closer' at closers ⊢
  cases closers with
  | some follows => exact .attempt (follows first second simulates)
  | none => exact .ok _

private theorem simulates_own (slot : String) (value : Instance V) :
    (scope.own first slot value).Simulates (World.map view) (other.own second slot value) := by
  have closeable : (other.host.closerOf value.content).isSome =
      (scope.host.closerOf value.content).isSome := by
    have closers := mirrors.closers value.content
    generalize scope.host.closerOf value.content = closer at closers ⊢
    generalize other.host.closerOf value.content = closer' at closers ⊢
    cases closers <;> rfl
  unfold own
  rw [closeable]
  split
  · refine .ite (fun w : World σ V => w.teardown.closed) (fun _ => rfl) ?_ ?_
    · exact .andThen (simulates_closeInstance mirrors simulates value) fun _ => .error _
    · exact .modify fun w => rfl
  · exact .error _

private theorem simulates_produce (slot : CachedSlot) (values : List (Arg V)) :
    (scope.produce first slot values).Simulates (World.map view) (other.produce second slot values) := by
  unfold produce
  split
  · exact .ofExcept_andThen (mirrors.constructors _) fun recipe recipe' follows =>
      .andThen (simulates_runRecipe simulates _ (follows _)) simulates_instance
  · refine .andThen (simulates.read _) fun receiver =>
      .ofExcept_andThen (mirrors.methods _ _) fun recipe recipe' follows =>
        .andThen (simulates_runRecipe simulates _ (follows _ _)) fun made => ?_
    cases made with
    | some made => exact simulates_instance made
    | none => exact .error _

/-- Slots of mirrored scopes are created alike. -/
theorem simulates_create (slot : CachedSlot) :
    (scope.create first slot).Simulates (World.map view) (other.create second slot) := by
  refine .andThen (simulates_checkOpen _) fun _ =>
    .andThen (simulates_arguments simulates _ _ _) fun values =>
      .andThen (simulates_produce mirrors simulates slot values) fun value => ?_
  split
  · exact .andThen (simulates_own mirrors simulates _ value) fun _ => .ok value
  · exact .ok value

/-- They are accessed alike. -/
theorem simulates_access (slot : CachedSlot) :
    (scope.access first slot).Simulates (World.map view) (other.access second slot) := by
  intro w reply after ran
  have cells : (World.map view w).cells = w.cells := rfl
  unfold access at ran ⊢
  rw [cells]
  split
  next answer answered =>
    rw [answered] at ran
    exact Effect.Simulates.ofExcept answer w reply after ran
  next unanswered =>
    rw [unanswered] at ran
    cases created : scope.create first slot (w.setCell slot.identifier .creating) with
    | none => simp [created] at ran
    | some middle =>
      obtain ⟨reply, middle⟩ := middle
      have mirrored : other.create second slot
            ((World.map view w).setCell slot.identifier .creating) =
          some (reply, World.map view middle) :=
        simulates_create mirrors simulates slot _ _ _ created
      rw [created] at ran
      cases ran
      rw [mirrored]
      rfl

/-- Mirrored scopes read alike. -/
theorem simulates_read (identifier : String) :
    (scope.read first identifier).Simulates (World.map view) (other.read second identifier) := by
  unfold read
  rw [mirrors.target, mirrors.served?]
  split
  · exact .ok _
  · exact simulates_access mirrors simulates _
  · exact .error _
  · exact .error _

/-- They are closed alike. -/
theorem simulates_close :
    (scope.close first).Simulates (World.map view) (other.close second) := by
  intro w reply after ran
  have teardown : (World.map view w).teardown = w.teardown := rfl
  unfold close at ran ⊢
  rw [teardown]
  split
  next closed =>
    rw [if_pos closed] at ran
    exact Effect.Simulates.ok () w reply after ran
  next opened =>
    rw [if_neg opened] at ran
    have closing : Effect.Simulates (World.map view)
        (Effect.andThen (Teardown.closeAll (scope.closeInstance first) w.teardown.owned)
          (fun failures => Effect.ofExcept (CloseError.ofFailures failures)))
        (Effect.andThen (Teardown.closeAll (other.closeInstance second) w.teardown.owned)
          (fun failures => Effect.ofExcept (CloseError.ofFailures failures))) :=
      .andThen (.closeAll (simulates_closeInstance mirrors simulates) _) fun _ => .ofExcept _
    exact closing _ reply after ran

/-- Their factories are called alike. -/
theorem simulates_callFactory (slot : FactorySlot) (given : List (Instance V)) :
    (scope.callFactory first slot given).Simulates (World.map view)
      (other.callFactory second slot given) :=
  .andThen (simulates_checkArity _ _ _) fun _ => .andThen (simulates_checkAlive _) fun _ =>
    .andThen (simulates_checkOpen _) fun _ => .andThen (simulates_arguments simulates _ _ _) fun _ =>
      .ofExcept_andThen (mirrors.constructors _) fun _ _ follows =>
        .andThen (simulates_runRecipe simulates _ (follows _)) simulates_instance

/-- So are their injectors. -/
theorem simulates_callInjector (slot : InjectorSlot) (given : List (Instance V)) :
    (scope.callInjector first slot given).Simulates (World.map view)
      (other.callInjector second slot given) := by
  refine .andThen (simulates_checkArity _ _ _) fun _ => .andThen (simulates_checkAlive _) fun _ =>
    .andThen (simulates_checkOpen _) fun _ => .andThen (simulates.read _) fun _ =>
      .andThen (simulates_arguments simulates _ _ _) fun _ =>
        .ofExcept_andThen (mirrors.methods _ _) fun _ _ follows =>
          .andThen (simulates_runRecipe simulates _ (follows _ _)) fun made => ?_
  cases made with
  | some made => exact .andThen (simulates_instance made) fun value => .ok _
  | none =>
    show Effect.Simulates _ (if _ then _ else _) (if _ then _ else _)
    split
    · exact .ok none
    · exact .error _

end Scope

end Wiring
