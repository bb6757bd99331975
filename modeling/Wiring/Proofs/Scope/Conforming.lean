import Wiring.Proofs.Scope.Conduct

/-! # Steps within a conduct

Each rule of a scope keeps to the conduct if the requests that nest in it do. What a rule asks of
the handler differs: a creation reads the eager dependencies of its slot, runs a recipe, and runs a
closer only when a recipe has closed the scope in the meantime. The marks of the world say what is
going on around a step; a creation or a closing goes on inside of them.
-/

namespace Wiring

variable {σ V ε α : Type} {conduct : Conduct σ V} {scope : Scope σ V} {marks : Marks} {w : World σ V}

namespace World.Fits

/-! ## Changes of the world -/

theorem release (fits : w.Fits conduct scope marks) :
    World.Fits conduct scope marks { w with held := false } :=
  ⟨fits.cached, fits.failed, fits.owned, fits.state, fits.creating, fits.closed, fits.limit⟩

theorem update {host : σ} (fits : w.Fits conduct scope marks) (state : conduct.state host) :
    World.Fits conduct scope marks { w with host := host } :=
  ⟨fits.cached, fits.failed, fits.owned, state, fits.creating, fits.closed, fits.limit⟩

private theorem share (fits : w.Fits conduct scope marks) (value : V) :
    World.Fits conduct scope marks (w.share value).2 :=
  ⟨fits.cached, fits.failed, fits.owned, fits.state, fits.creating, fits.closed, fits.limit⟩

private theorem take (fits : w.Fits conduct scope marks) (slot : String) {value : Instance V}
    (held : value.Fits conduct) :
    World.Fits conduct scope marks { w with teardown := w.teardown.take slot value } := by
  refine ⟨fits.cached, fits.failed, ?_, fits.state, fits.creating, fits.closed, fits.limit⟩
  exact List.forall_mem_append.mpr ⟨fits.owned, List.forall_mem_singleton.mpr held⟩

/-- Where recipes close the scope, the mark of the closing says nothing. -/
theorem reopen (fits : w.Fits conduct scope { marks with closed := true })
    (either : conduct.recipesClose ∨ marks.closed = true) : w.Fits conduct scope marks :=
  ⟨fits.cached, fits.failed, fits.owned, fits.state, fits.creating,
    either.elim .inl fun closed => fits.closed.imp_right (·.trans closed.symm), fits.limit⟩

/-- The limit may be as low as the potential of the world. -/
theorem tighten (fits : w.Fits conduct scope marks) :
    w.Fits conduct scope { marks with limit := scope.potential w } :=
  ⟨fits.cached, fits.failed, fits.owned, fits.state, fits.creating, fits.closed, Nat.le_refl _⟩

/-- A world that is within a lower limit is within a higher one. -/
theorem loosen {limit : Nat} (fits : w.Fits conduct scope { marks with limit })
    (lower : limit ≤ marks.limit) : w.Fits conduct scope marks :=
  ⟨fits.cached, fits.failed, fits.owned, fits.state, fits.creating, fits.closed,
    Nat.le_trans fits.limit lower⟩

end World.Fits

/-- What the handler must do for a program that reads known slots or closes the scope. -/
structure Handler.Lets (conduct : Conduct σ V) (scope : Scope σ V) (marks : Marks) (reads closes : Prop)
    (handler : Handler σ V) : Prop where
  read : reads → ∀ slot, conduct.known slot →
    (handler.read slot).Meets (World.Fits conduct scope marks) (Instance.Fits conduct) conduct.fails
  close : closes →
    handler.close.Meets (World.Fits conduct scope marks) (fun _ => True) (CloseError.Fits conduct)

namespace Scope

variable {handler : Handler σ V} {reads closes : Prop}

/-! ## Programs -/

/-- A read of a scope that may be gone keeps to a conduct that admits closing if reads do. -/
theorem meets_readAlive (admits : conduct.Admits) {slot : String}
    (read : (handler.read slot).Meets (World.Fits conduct scope marks) (Instance.Fits conduct)
      conduct.fails) :
    (handler.readAlive slot).Meets (World.Fits conduct scope marks) (Instance.Fits conduct)
      conduct.fails :=
  .ite read (.error (admits.closed slot))

theorem meets_exec (admits : conduct.Admits) (lets : handler.Lets conduct scope marks reads closes)
    {result : α → Prop} {program : Program σ V α} (fits : program.Fits conduct reads closes result) :
    (program.exec scope handler).Meets (World.Fits conduct scope marks) result (Fault.Fits conduct) := by
  induction program with
  | finish value => exact .ok fits
  | fail fault => exact .error fits
  | panic text => exact .panic text
  | read slot next ih =>
    obtain ⟨may, known, rest⟩ := fits
    exact .andThen (.attempt (meets_readAlive admits (lets.read may slot known)))
      fun answer wanted => ih answer (rest answer wanted)
  | close next ih =>
    obtain ⟨may, rest⟩ := fits
    exact .andThen (.attempt (lets.close may)) fun answer wanted => ih answer (rest answer wanted)
  | release next ih => exact .andThen (.modify fun _ => World.Fits.release) fun _ _ => ih fits
  | inspect next ih => exact .andThen .get fun _ _ => ih _ (fits _)
  | update change next ih =>
    refine .andThen .get fun w held => ?_
    refine .andThen (.modify fun other fitting => ?_) fun _ _ => ih _ (fits w.host held.state).2
    exact fitting.update (fits other.host fitting.state).1

/-- A recipe that keeps to the conduct is run within it. -/
theorem meets_runRecipe (admits : conduct.Admits) (lets : handler.Lets conduct scope marks reads closes)
    (slot : String) {result : α → Prop} {recipe : Program σ V α}
    (fits : recipe.Fits conduct reads closes result) :
    (scope.runRecipe handler slot recipe).Meets (World.Fits conduct scope marks) result
      conduct.fails := by
  refine .mapError (meets_exec admits lets fits) fun fault fitting => ?_
  cases fault with
  | foreign text => exact admits.created slot text
  | runtime error => exact fitting

/-- What a recipe has made becomes an instance within the conduct. -/
theorem meets_instance {bad : ε → Prop} {made : Made V} (fits : made.Fits conduct) :
    (made.instance : ScopeStep σ V ε (Instance V)).Meets (World.Fits conduct scope marks)
      (Instance.Fits conduct) bad := by
  cases made with
  | existing shared => exact .ok fits
  | fresh value =>
    refine fun w held => ⟨_, _, rfl, held.share value, ?_⟩
    rintro _ ⟨⟩
    exact fits

/-- A closer is run for an instance that has one. -/
theorem meets_closeInstance {bad : ε → Prop} (admits : conduct.Admits) (behaves : scope.Behaves conduct)
    (closers : handler.Lets conduct scope marks conduct.closersRead True) {value : Instance V}
    (fits : value.Fits conduct) :
    (scope.closeInstance handler value : ScopeStep σ V ε (Except Fault Unit)).Meets
      (World.Fits conduct scope marks) (Answered (fun _ => True) (Fault.Fits conduct)) bad := by
  unfold closeInstance
  split
  next closer found =>
    cases content : value.content with
    | host value =>
      rw [content] at found
      exact .attempt (meets_exec admits closers (behaves.closers value (fits value content) closer found))
    | factory slot =>
      rw [content] at found
      cases found
    | injector slot =>
      rw [content] at found
      cases found
  next => exact .ok trivial

/-! ## Arguments -/

private theorem meets_argument {callers : Nat} {curried : List (Instance V)} {argument : Argument}
    (fits : argument.Fits conduct callers) (enough : callers ≤ curried.length)
    (given : ∀ value ∈ curried, value.Fits conduct)
    (read : ∀ identifier, argument = .slot identifier →
      (handler.read identifier).Meets (World.Fits conduct scope marks) (Instance.Fits conduct)
        conduct.fails)
    (slot : String) :
    (Scope.argument handler slot curried argument).Meets (World.Fits conduct scope marks)
      (fun value => value.Fits conduct ∧ argument.StoodBy curried value) conduct.fails := by
  cases argument with
  | slot identifier => exact .andThen (read identifier rfl) fun value fitting => .ok ⟨fitting, .slot⟩
  | lazy identifier => exact .ok ⟨fits, .lazy⟩
  | curried index =>
    simp only [Scope.argument]
    split
    next value found => exact .ok ⟨given value (List.mem_of_getElem? found), .curried found⟩
    next missing =>
      refine .error (fits.elim (fun below => ?_) fun fails => fails slot curried.length)
      have absent := List.getElem?_eq_none_iff.mp missing
      omega

/-- Arguments that fit are read within the conduct, and each value stands for its argument. -/
theorem meets_arguments {callers : Nat} {curried : List (Instance V)}
    (enough : callers ≤ curried.length) (given : ∀ value ∈ curried, value.Fits conduct) (slot : String) :
    (arguments : List Argument) → (∀ argument ∈ arguments, argument.Fits conduct callers) →
    (∀ identifier, .slot identifier ∈ arguments →
      (handler.read identifier).Meets (World.Fits conduct scope marks) (Instance.Fits conduct)
        conduct.fails) →
    (Scope.arguments handler slot curried arguments).Meets (World.Fits conduct scope marks)
      (fun values => (∀ arg ∈ values, arg.Fits conduct) ∧ Handing curried arguments values) conduct.fails
  | [], _, _ => .ok ⟨List.forall_mem_nil _, .nil⟩
  | _ :: rest, fits, read =>
    .andThen
      (meets_argument (fits _ List.mem_cons_self) enough given
        (fun identifier same => read identifier (same ▸ List.mem_cons_self)) slot)
      fun _ first => .andThen
        (meets_arguments enough given slot rest
          (fun other later => fits other (List.mem_cons_of_mem _ later))
          fun identifier later => read identifier (List.mem_cons_of_mem _ later))
        fun _ others => .ok ⟨List.forall_mem_cons.mpr ⟨first.1, others.1⟩, .cons first.2 others.2⟩

/-! ## Creation -/

/-- A constructor that is found keeps to the conduct on what it is handed. -/
theorem meets_findConstructor (behaves : scope.Behaves conduct) {type : TypeExpr}
    (fits : (Callable.constructor type).Fits conduct scope) :
    Answered (fun recipe => ∀ arguments, conduct.hands (.constructor type) arguments →
        Arguments.Fits conduct arguments →
        (recipe arguments).Fits conduct conduct.recipesRead conduct.recipesClose (Made.Fits conduct))
      conduct.fails (scope.recipes.findConstructor type) := by
  cases found : scope.recipes.findConstructor type with
  | error error => exact fits error (by rw [RecipeTable.require, found]; rfl)
  | ok recipe => exact behaves.constructors type recipe found

/-- So does a method. -/
theorem meets_findMethod (behaves : scope.Behaves conduct) {type : TypeExpr} {name : String}
    (fits : (Callable.method type name).Fits conduct scope) :
    Answered (fun recipe => ∀ receiver arguments, conduct.hands (.method type name) arguments →
        Instance.Fits conduct receiver → Arguments.Fits conduct arguments →
        (recipe receiver arguments).Fits conduct conduct.recipesRead conduct.recipesClose
          fun made => ∀ product ∈ made, product.Fits conduct)
      conduct.fails (scope.recipes.findMethod type name) := by
  cases found : scope.recipes.findMethod type name with
  | error error => exact fits error (by rw [RecipeTable.require, found]; rfl)
  | ok recipe => exact behaves.methods type name recipe found

private theorem meets_produce (admits : conduct.Admits) (behaves : scope.Behaves conduct)
    (recipes : handler.Lets conduct scope marks conduct.recipesRead conduct.recipesClose)
    {slot : CachedSlot} (fits : slot.Fits conduct scope)
    (read : ∀ identifier ∈ (Slot.cached slot).eagerDependencies,
      (handler.read identifier).Meets (World.Fits conduct scope marks) (Instance.Fits conduct)
        conduct.fails)
    {values : List (Arg V)} (fitting : ∀ arg ∈ values, arg.Fits conduct)
    (handing : Handing [] slot.arguments values) :
    (scope.produce handler slot values).Meets (World.Fits conduct scope marks) (Instance.Fits conduct)
      conduct.fails := by
  unfold produce
  have callable := fits.recipe
  have hands := fits.hands _ _ _ _ (.cached handing)
  split
  next type constructed =>
    rw [constructed] at callable hands
    refine .andThen (.ofExcept (meets_findConstructor behaves callable)) fun recipe runs => ?_
    exact .andThen (meets_runRecipe admits recipes _ (runs _ hands fitting)) fun _ => meets_instance
  next holder type method provided =>
    rw [provided] at callable hands
    refine .andThen (read holder (by simp [Slot.eagerDependencies, provided])) fun receiver held => ?_
    refine .andThen (.ofExcept (meets_findMethod behaves callable)) fun recipe runs => ?_
    refine .andThen (meets_runRecipe admits recipes _ (runs receiver _ hands held fitting))
      fun made products => ?_
    cases made with
    | some product => exact meets_instance (products product rfl)
    | none => exact .error (admits.null _)

/-- An instance that comes late is closed at once, so the closer then runs inside the creation. -/
theorem meets_own (admits : conduct.Admits) (behaves : scope.Behaves conduct)
    (closers : conduct.recipesClose ∨ marks.closed = true →
      handler.Lets conduct scope marks conduct.closersRead True)
    (slot : String) {value : Instance V} (held : value.Fits conduct) :
    (scope.own handler slot value).Meets (World.Fits conduct scope marks) (fun _ => True)
      conduct.fails := by
  unfold own
  split
  · intro w fits
    unfold register
    by_cases closed : w.teardown.closed = true
    · rw [if_pos closed]
      have either : conduct.recipesClose ∨ marks.closed = true :=
        fits.closed.imp_right fun same => same.symm.trans closed
      exact Effect.Meets.andThen (meets_closeInstance admits behaves (closers either) held)
        (fun _ _ => .error (admits.closed slot)) w fits
    · rw [if_neg closed]
      exact ⟨_, _, rfl, fits.take slot held, trivial⟩
  · exact .error (admits.closer slot)

private theorem mem_eagerDependencies {slot : CachedSlot} {identifier : String}
    (member : .slot identifier ∈ slot.arguments) :
    identifier ∈ (Slot.cached slot).eagerDependencies :=
  List.mem_append_right _ (List.mem_filterMap.mpr ⟨_, member, rfl⟩)

/-- Nothing is created once closing has begun, so a closer runs inside a creation only if a recipe
closes the scope. -/
theorem meets_create (admits : conduct.Admits) (behaves : scope.Behaves conduct)
    (recipes : handler.Lets conduct scope marks conduct.recipesRead conduct.recipesClose)
    (closers : conduct.recipesClose → handler.Lets conduct scope marks conduct.closersRead True)
    {slot : CachedSlot} (fits : slot.Fits conduct scope)
    (read : ∀ identifier ∈ (Slot.cached slot).eagerDependencies,
      (handler.read identifier).Meets (World.Fits conduct scope marks) (Instance.Fits conduct)
        conduct.fails) :
    (scope.create handler slot).Meets (World.Fits conduct scope marks) (Instance.Fits conduct)
      conduct.fails := by
  intro w held
  by_cases closed : w.teardown.closed = true
  · refine ⟨.error (.scopeClosed slot.identifier), w, ?_, held, admits.closed _⟩
    simp [create, Effect.andThen, checkOpen, Teardown.checkOpen, closed, Effect.ofExcept, Effect.error]
  have late : conduct.recipesClose ∨ marks.closed = true → conduct.recipesClose := by
    rintro (recipes | marked)
    · exact recipes
    · exact held.closed.resolve_right fun same => closed (same.trans marked)
  have opened : checkOpen slot.identifier w = Effect.ok () w := by
    simp [checkOpen, Teardown.checkOpen, closed, Effect.ofExcept]
  unfold create
  rw [Effect.andThen, opened]
  refine Effect.Meets.andThen
    (meets_arguments (Nat.le_refl 0) (List.forall_mem_nil _) slot.identifier slot.arguments fits.arguments
      fun identifier member => read identifier (mem_eagerDependencies member))
    (fun values handed => ?_) w held
  obtain ⟨fitting, handing⟩ := handed
  refine .andThen (meets_produce admits behaves recipes fits read fitting handing) fun value made => ?_
  split
  · exact .andThen (meets_own admits behaves (fun either => closers (late either)) _ made)
      fun _ _ => .ok made
  · exact .ok made

end Scope

/-! ## Nesting -/

def Marks.inside (marks : Marks) (slot : String) : Marks where
  creating other := other = slot ∨ marks.creating other
  closed := marks.closed
  limit := marks.limit - 1

def Marks.closing (marks : Marks) : Marks where
  creating := marks.creating
  closed := true
  limit := marks.limit - 1

namespace World.Fits

/-- One cell fewer is left to fill. -/
theorem enter {slot : CachedSlot} (fits : w.Fits conduct scope marks) (member : slot ∈ scope.plan.cached)
    (empty : (w.cells slot.identifier).isEmpty = true) :
    (w.setCell slot.identifier .creating).Fits conduct scope (marks.inside slot.identifier) ∧
      0 < marks.limit := by
  have marked : scope.potential (w.setCell slot.identifier .creating) < scope.potential w :=
    World.potential_setCell_lt member empty rfl
  have limit := fits.limit
  refine ⟨⟨fun other value => ?_, fun other error => ?_, fits.owned, fits.state, fun other => ?_,
    fits.closed, ?_⟩, by omega⟩
  · simp only [setCell]
    split
    · rintro ⟨⟩
    · exact fits.cached other value
  · simp only [setCell]
    split
    · rintro ⟨⟩
    · exact fits.failed other error
  · simp only [setCell, Marks.inside]
    split
    next same => simp [same]
    next different => simp [different, fits.creating]
  · simp only [Marks.inside]
    omega

/-- Settling the cell ends the creation. -/
theorem leave {slot : String} {reply : Reply RuntimeError (Instance V)} (admits : conduct.Admits)
    (fits : w.Fits conduct scope (marks.inside slot)) (outside : ¬ marks.creating slot)
    (wanted : reply.Meets (Instance.Fits conduct) conduct.fails) :
    (w.setCell slot (.settled slot reply)).Fits conduct scope marks := by
  have lower : scope.potential (w.setCell slot (.settled slot reply)) ≤ scope.potential w :=
    World.potential_setCell_le w slot (Cell.isEmpty_settled slot reply)
  have limit := fits.limit
  refine ⟨fun other value => ?_, fun other error => ?_, fits.owned, fits.state, fun other => ?_,
    fits.closed, ?_⟩
  · simp only [setCell]
    split
    · cases reply with
      | ok result =>
        rintro ⟨⟩
        exact wanted
      | error failure => rintro ⟨⟩
      | panic text => rintro ⟨⟩
    · exact fits.cached other value
  · simp only [setCell]
    split
    · cases reply with
      | ok result => rintro ⟨⟩
      | error failure =>
        rintro ⟨⟩
        exact wanted
      | panic text =>
        rintro ⟨⟩
        exact admits.panicked slot
    · exact fits.failed other error
  · simp only [setCell]
    split
    next same =>
      rw [same]
      exact ⟨fun settled => (by cases reply <;> cases settled), fun created => (outside created).elim⟩
    next different => simp [fits.creating, Marks.inside, different]
  · simp only [Marks.inside] at limit
    omega

end World.Fits

namespace Scope

variable {handler : Handler σ V}

/-- A cell that is being created is met only where that failure may come up. -/
theorem meets_access (admits : conduct.Admits) {slot : CachedSlot} (member : slot ∈ scope.plan.cached)
    (clear : marks.creating slot.identifier → conduct.fails (.circularDependency slot.identifier))
    (create : 0 < marks.limit →
      (scope.create handler slot).Meets (World.Fits conduct scope (marks.inside slot.identifier))
        (Instance.Fits conduct) conduct.fails) :
    (scope.access handler slot).Meets (World.Fits conduct scope marks) (Instance.Fits conduct)
      conduct.fails := by
  intro w fits
  unfold access
  cases cell : w.cells slot.identifier with
  | creating => exact ⟨_, w, rfl, fits, clear ((fits.creating _).mp cell)⟩
  | cached value => exact ⟨_, w, rfl, fits, fits.cached _ value cell⟩
  | failed error => exact ⟨_, w, rfl, fits, fits.failed _ error cell⟩
  | empty =>
    obtain ⟨marked, positive⟩ := fits.enter member (by rw [cell]; rfl)
    obtain ⟨reply, after, ran, kept, wanted⟩ := create positive _ marked
    have outside : ¬ marks.creating slot.identifier := fun created => by
      have creating := (fits.creating _).mpr created
      rw [cell] at creating
      cases creating
    refine ⟨reply, _, ?_, kept.leave admits outside wanted, wanted⟩
    simp only [Cell.answer?, ran]

/-- The closing of everything that is owned. -/
theorem meets_close (admits : conduct.Admits) (behaves : scope.Behaves conduct)
    (closers : 0 < marks.limit → handler.Lets conduct scope marks.closing conduct.closersRead True)
    {w : World σ V} (fits : w.Fits conduct scope marks) :
    ∃ reply after, scope.close handler w = some (reply, after) ∧
      after.Fits conduct scope { marks with closed := true } ∧
      reply.Meets (fun _ => True) (CloseError.Fits conduct) := by
  unfold close
  split
  next closed =>
    refine ⟨.ok (), w, rfl, ?_, trivial⟩
    exact ⟨fits.cached, fits.failed, fits.owned, fits.state, fits.creating, .inr closed, fits.limit⟩
  next opened =>
    have begun : scope.potential { w with teardown := .begun } < scope.potential w := by
      simp [potential, Teardown.begun, opened]
    have limit := fits.limit
    have started : World.Fits conduct scope marks.closing { w with teardown := .begun } :=
      ⟨fits.cached, fits.failed, List.forall_mem_nil _, fits.state, fits.creating, .inr rfl,
        by simp only [Marks.closing]; omega⟩
    have lets := closers (by omega)
    have closing : Effect.Meets (World.Fits conduct scope marks.closing) (fun _ => True)
        (CloseError.Fits conduct)
        (Effect.andThen (Teardown.closeAll (scope.closeInstance handler) w.teardown.owned)
          (fun failures => Effect.ofExcept (CloseError.ofFailures failures))) := by
      refine .andThen (.closeAll _ fun entry member =>
        meets_closeInstance admits behaves lets (fits.owned entry member)) fun failures each => ?_
      cases failures with
      | nil => exact .ok trivial
      | cons failure rest => exact .error each
    obtain ⟨reply, after, ran, kept, wanted⟩ := closing _ started
    refine ⟨reply, after, ran, ?_, wanted⟩
    exact ⟨kept.cached, kept.failed, kept.owned, kept.state, kept.creating, kept.closed,
      Nat.le_trans kept.limit (Nat.sub_le _ _)⟩

end Scope

end Wiring
