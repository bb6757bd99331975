import Wiring.Proofs.Scope.Passage

/-! # Steps by what they do to the cells

A relation between the world in which a step starts and the one in which it ends may look at nothing
but the cells, and at whether the scope is alive. Only reads change cells, and nothing that a step
does makes a scope cease to be alive. So all the rules lead where reads and closings lead, whatever
the programs of the scope do besides.
-/

namespace Wiring

variable {σ V ε α : Type}

/-- The relation can be composed, and does not see what changes besides the cells. -/
structure Cellwise (rel : World σ V → World σ V → Prop) : Prop where
  same {w after} : after.cells = w.cells → after.alive = w.alive → rel w after
  trans {w middle after} : rel w middle → rel middle after → rel w after

namespace Cellwise

variable {scope : Scope σ V} {handler : Handler σ V} {rel : World σ V → World σ V → Prop}
  (cellwise : Cellwise rel)

include cellwise

theorem refl (w : World σ V) : rel w w := cellwise.same rfl rfl

theorem andThen {first : ScopeStep σ V ε α} {β : Type} {next : α → ScopeStep σ V ε β}
    (start : first.Within rel) (rest : ∀ value, (next value).Within rel) :
    (first.andThen next).Within rel :=
  .andThen id cellwise.trans start rest

theorem modify {change : World σ V → World σ V} (cells : ∀ w, (change w).cells = w.cells)
    (alive : ∀ w, (change w).alive = w.alive) :
    (Effect.modify change : ScopeStep σ V ε Unit).Within rel := by
  rintro w _ _ ⟨⟩
  exact cellwise.same (cells w) (alive w)

theorem made (made : Made V) :
    (made.instance : ScopeStep σ V ε (Instance V)).Within rel := by
  cases made with
  | existing shared => exact .ok cellwise.refl shared
  | fresh value =>
    rintro w _ _ ⟨⟩
    exact cellwise.same rfl rfl

theorem within_checkOpen (slot : String) :
    (checkOpen slot : ScopeStep σ V RuntimeError Unit).Within rel :=
  fun w => Effect.Within.ofExcept cellwise.refl (w.teardown.checkOpen slot) w

/-- Reads of a scope that may be gone keep to the relation if reads do. -/
theorem readAlive {slot : String} (read : (handler.read slot).Within rel) :
    (handler.readAlive slot).Within rel :=
  .ite World.alive read (.error cellwise.refl _)

/-- The checks of a call leave the world as it is. -/
theorem guarded {slot : String} {expected actual : Nat} {next : ScopeStep σ V RuntimeError α}
    (rest : next.Within rel) :
    ((checkArity slot expected actual).andThen fun _ =>
      (checkAlive slot).andThen fun _ => (checkOpen slot).andThen fun _ => next).Within rel := by
  refine cellwise.andThen ?_ fun _ =>
    cellwise.andThen (.ite World.alive (.ok cellwise.refl ()) (.error cellwise.refl _)) fun _ =>
      cellwise.andThen (cellwise.within_checkOpen _) fun _ => rest
  unfold checkArity
  split
  · exact .ok cellwise.refl ()
  · exact .error cellwise.refl _

section Closing

/-! ## Programs and closing -/

variable (handles : ∀ slot, (handler.readAlive slot).Within rel) (closes : handler.close.Within rel)

include handles closes

/-- A program reads through handles only. -/
theorem exec (program : Program σ V α) : (program.exec scope handler).Within rel := by
  induction program with
  | finish result => exact .ok cellwise.refl result
  | fail fault => exact .error cellwise.refl fault
  | panic text => exact .panic cellwise.refl text
  | read slot next ih => exact cellwise.andThen (.attempt (handles slot)) ih
  | close next ih => exact cellwise.andThen (.attempt closes) ih
  | release next ih =>
    exact cellwise.andThen (cellwise.modify (fun _ => rfl) fun _ => rfl) fun _ => ih
  | inspect next ih => exact fun w => ih _ w
  | update change next ih =>
    have sets : (Effect.modify fun w : World σ V => { w with host := change w.host } :
        ScopeStep σ V Fault Unit).Within rel := cellwise.modify (fun _ => rfl) fun _ => rfl
    exact fun w => cellwise.andThen sets (fun _ => ih w.host) w

theorem closeInstance (value : Instance V) :
    (scope.closeInstance handler value : ScopeStep σ V ε (Except Fault Unit)).Within rel := by
  unfold Scope.closeInstance
  split
  next closer _ => exact .attempt (cellwise.exec handles closes closer)
  next => exact .ok cellwise.refl _

/-- Closing one resource after another keeps to it. -/
theorem closeAll : (owned : List (String × Instance V)) →
    (Teardown.closeAll (scope.closeInstance handler) owned :
      ScopeStep σ V CloseError (List CloseFailure)).Within rel
  | [] => .ok cellwise.refl []
  | (_, resource) :: rest =>
    cellwise.andThen (cellwise.closeInstance handles closes resource) fun outcome =>
      cellwise.andThen (closeAll rest) fun failures => by
        cases outcome <;> exact .ok cellwise.refl _

/-- So does the closing as a whole. -/
theorem close : (scope.close handler).Within rel := by
  intro w reply after ran
  unfold Scope.close at ran
  split at ran
  · cases ran
    exact cellwise.refl w
  · have begun : rel w { w with teardown := .begun } := cellwise.same rfl rfl
    have closing := cellwise.andThen (cellwise.closeAll handles closes w.teardown.owned)
      (fun failures => .ofExcept cellwise.refl (CloseError.ofFailures failures)) _ reply after ran
    exact cellwise.trans begun closing

/-- Taking a resource keeps to it. -/
theorem own (slot : String) (value : Instance V) : (scope.own handler slot value).Within rel := by
  unfold Scope.own
  split
  · refine .ite (fun w : World σ V => w.teardown.closed) ?_ ?_
    · exact cellwise.andThen (cellwise.closeInstance handles closes value) fun _ =>
        .error cellwise.refl _
    · exact cellwise.modify (fun _ => rfl) fun _ => rfl
  · exact .error cellwise.refl _

/-- Recipes are programs, too. -/
theorem constructed {type : TypeExpr} {slot : String} {values : List (Arg V)}
    {next : Made V → ScopeStep σ V RuntimeError α} (rest : ∀ made, (next made).Within rel) :
    ((Effect.ofExcept (scope.recipes.findConstructor type)).andThen fun recipe =>
      (scope.runRecipe handler slot (recipe ⟨slot, values⟩)).andThen next).Within rel :=
  cellwise.andThen (.ofExcept cellwise.refl _) fun _ =>
    cellwise.andThen (.mapError _ (cellwise.exec handles closes _)) rest

/-- Calling a method keeps to it if what is made of the product does. -/
theorem called {type : TypeExpr} {name slot : String} {receiver : Instance V} {values : List (Arg V)}
    {next : Option (Made V) → ScopeStep σ V RuntimeError α} (rest : ∀ made, (next made).Within rel) :
    ((Effect.ofExcept (scope.recipes.findMethod type name)).andThen fun recipe =>
      (scope.runRecipe handler slot (recipe receiver ⟨slot, values⟩)).andThen next).Within rel :=
  cellwise.andThen (.ofExcept cellwise.refl _) fun _ =>
    cellwise.andThen (.mapError _ (cellwise.exec handles closes _)) rest

end Closing

section Reading

/-! ## Creation and calls -/

variable (reads : ∀ slot, (handler.read slot).Within rel) (closes : handler.close.Within rel)

include reads closes

theorem provided {slot : CachedSlot} {values : List (Arg V)} {type : TypeExpr} {name : String}
    (receiver : Instance V) :
    ((Effect.ofExcept (scope.recipes.findMethod type name)).andThen fun recipe =>
      (scope.runRecipe handler slot.identifier (recipe receiver ⟨slot.identifier, values⟩)).andThen fun
        | some made => made.instance
        | none => .error (.nullValue slot.identifier)).Within rel := by
  refine cellwise.called (fun slot => cellwise.readAlive (reads slot)) closes fun made => ?_
  cases made with
  | some made => exact cellwise.made made
  | none => exact .error cellwise.refl _

theorem produce (slot : CachedSlot) (values : List (Arg V)) :
    (scope.produce handler slot values).Within rel := by
  have handles := fun slot => cellwise.readAlive (reads slot)
  unfold Scope.produce
  split
  · exact cellwise.constructed handles closes cellwise.made
  · exact cellwise.andThen (reads _) fun receiver => cellwise.provided reads closes receiver

/-- Creating a slot keeps to it. -/
theorem create (slot : CachedSlot) : (scope.create handler slot).Within rel := by
  have handles := fun slot => cellwise.readAlive (reads slot)
  refine cellwise.andThen (cellwise.within_checkOpen _) fun _ =>
    cellwise.andThen (Scope.arguments_within cellwise.refl cellwise.trans reads _ _ _) fun values =>
      cellwise.andThen (cellwise.produce reads closes slot values) fun value => ?_
  split
  · exact cellwise.andThen (cellwise.own handles closes _ value) fun _ => .ok cellwise.refl value
  · exact .ok cellwise.refl value

theorem callFactory (slot : FactorySlot) (given : List (Instance V)) :
    (scope.callFactory handler slot given).Within rel :=
  cellwise.guarded <|
    cellwise.andThen (Scope.arguments_within cellwise.refl cellwise.trans reads _ _ _) fun _ =>
      cellwise.constructed (fun slot => cellwise.readAlive (reads slot)) closes cellwise.made

theorem callInjector (slot : InjectorSlot) (given : List (Instance V)) :
    (scope.callInjector handler slot given).Within rel := by
  refine cellwise.guarded <| cellwise.andThen (reads _) fun receiver =>
    cellwise.andThen (Scope.arguments_within cellwise.refl cellwise.trans reads _ _ _) fun _ =>
      cellwise.called (fun slot => cellwise.readAlive (reads slot)) closes fun made => ?_
  cases made with
  | some made => exact cellwise.andThen (cellwise.made made) fun value => .ok cellwise.refl _
  | none =>
    show Effect.Within rel (if _ then _ else _)
    split
    · exact .ok cellwise.refl none
    · exact .error cellwise.refl _

/-- Operations keep to it. -/
theorem performWith {operation : Operation V} {answer : Answer V} {w after : World σ V}
    (performed : scope.performWith handler operation w = some (answer, after)) : rel w after :=
  Scope.within_performWith (fun slot _ => cellwise.readAlive (reads slot))
    (fun slot given _ => cellwise.callFactory reads closes slot given)
    (fun slot given _ => cellwise.callInjector reads closes slot given) closes
    (fun _ => cellwise.same rfl rfl) performed

end Reading

/-- What marking and settling cells keeps, all levels keep. -/
theorem levels (scope : Scope σ V) (sets : ∀ w slot content, rel w (World.setCell w slot content))
    (level : Nat) :
    (∀ identifier, ((scope.handler level).read identifier).Within rel) ∧
      (scope.handler level).close.Within rel := by
  induction level with
  | zero => exact ⟨fun _ => .starved, .starved⟩
  | succ level ih =>
    obtain ⟨reads, closes⟩ := ih
    refine ⟨fun identifier w reply after ran => ?_,
      cellwise.close (fun slot => cellwise.readAlive (reads slot)) closes⟩
    rcases Scope.read_cases ran with ⟨slot, _, accessed⟩ | ⟨_, rfl⟩
    · rcases Scope.access_cases accessed with ⟨_, _, _, rfl⟩ | ⟨_, middle, created, rfl⟩
      · exact cellwise.refl _
      · have creation := cellwise.create reads closes slot _ _ _ created
        exact cellwise.trans (sets w _ _) (cellwise.trans creation (sets middle _ _))
    · exact cellwise.refl _

end Cellwise

namespace Scope

private theorem cellwise_alive : Cellwise fun w after : World σ V => after.alive = w.alive where
  same _ alive := alive
  trans first second := second.trans first

/-- A scope is there as long as an operation goes on. -/
theorem alive_perform (scope : Scope σ V) (operation : Operation V) (w : World σ V) :
    (scope.perform operation w).2.alive = w.alive := by
  obtain ⟨reads, closes⟩ := cellwise_alive.levels scope (fun _ _ _ => rfl) (scope.potential w + 1)
  exact cellwise_alive.performWith reads closes
    (performWith_handler operation (Nat.lt_succ_self (scope.potential w)))

end Scope

end Wiring
