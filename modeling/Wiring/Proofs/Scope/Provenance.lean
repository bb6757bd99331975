import Wiring.Proofs.Scope.Runs

/-! # Where failures come from

A failure that a run reports may have been raised by a recipe or by a closer of its own accord: the
program was not answered it, so nobody else has raised it before. What a recipe would raise on other
arguments than those that it is handed does not count. All other failures are raised by the scope, and a
plan that fits leaves few of these.

Whether a slot can be read while a recipe runs is a property of the programs too. A recipe may read
it through a handle, or close the scope and so start a closer that does.
-/

namespace Wiring

variable {σ V α : Type}

section Programs

/-! ## Properties of programs -/

/-- The program reads no slot, whatever it is answered. -/
def Program.ReadFree : Program σ V α → Prop
  | finish _ => True
  | fail _ => True
  | panic _ => True
  | read _ _ => False
  | close next => ∀ answer, (next answer).ReadFree
  | release next => next.ReadFree
  | inspect next => ∀ view, (next view).ReadFree
  | update _ next => ∀ before, (next before).ReadFree

/-- The program never closes the scope, whatever it is answered. -/
def Program.CloseFree : Program σ V α → Prop
  | finish _ => True
  | fail _ => True
  | panic _ => True
  | read _ next => ∀ answer, (next answer).CloseFree
  | close _ => False
  | release next => next.CloseFree
  | inspect next => ∀ view, (next view).CloseFree
  | update _ next => ∀ before, (next before).CloseFree

/-- The program raises the failure without having been answered it. -/
def Program.Raises (error : RuntimeError) : Program σ V α → Prop
  | finish _ => False
  | fail fault => fault = .runtime error
  | panic _ => False
  | read _ next => ∃ answer, answer ≠ .error error ∧ (next answer).Raises error
  | close next => ∃ answer : Except CloseError Unit,
      (∀ unclosed, answer = .error unclosed →
        ∀ failure ∈ unclosed.failures, failure.fault ≠ .runtime error) ∧
      (next answer).Raises error
  | release next => next.Raises error
  | inspect next => ∃ view, (next view).Raises error
  | update _ next => ∃ before, (next before).Raises error

/-- Every recipe is such a program, whatever it is called with. -/
def RecipeTable.All (table : RecipeTable σ V) (holds : ∀ {α : Type}, Program σ V α → Prop) : Prop :=
  (∀ entry ∈ table.constructors, ∀ arguments, holds (entry.2 arguments)) ∧
    ∀ entry ∈ table.methods, ∀ receiver arguments, holds (entry.2 receiver arguments)

/-- Every recipe is such a program on what it may be handed. -/
def RecipeTable.AllHanded (hands : Handover V) (table : RecipeTable σ V)
    (holds : ∀ {α : Type}, Program σ V α → Prop) : Prop :=
  (∀ type recipe, table.findConstructor type = .ok recipe →
    ∀ arguments, hands (.constructor type) arguments → holds (recipe arguments)) ∧
  ∀ type name recipe, table.findMethod type name = .ok recipe →
    ∀ receiver arguments, hands (.method type name) arguments → holds (recipe receiver arguments)

namespace RecipeTable.All

variable {table : RecipeTable σ V} {holds : ∀ {α : Type}, Program σ V α → Prop}

theorem constructor (all : table.All holds) {type : TypeExpr} {recipe : ConstructorRecipe σ V}
    (found : table.findConstructor type = .ok recipe) (arguments : Arguments V) :
    holds (recipe arguments) :=
  all.1 _ (mem_of_findConstructor found) arguments

theorem method (all : table.All holds) {type : TypeExpr} {name : String} {recipe : MethodRecipe σ V}
    (found : table.findMethod type name = .ok recipe) (receiver : Instance V)
    (arguments : Arguments V) : holds (recipe receiver arguments) :=
  all.2 _ (mem_of_findMethod found) receiver arguments

/-- What holds of recipes on all arguments holds on those that they are handed. -/
theorem handed (all : table.All holds) (hands : Handover V) : table.AllHanded hands holds :=
  ⟨fun _ _ found arguments _ => all.constructor found arguments,
    fun _ _ _ found receiver arguments _ => all.method found receiver arguments⟩

end RecipeTable.All

/-- Every closer is such a program. -/
def Host.All (host : Host σ V) (holds : Program σ V Unit → Prop) : Prop :=
  ∀ value closer, host.closer value = some closer → holds closer

/-- No slot is read while a recipe runs: on what they are handed, recipes read none, and start no closers
that do. -/
structure Scope.Quiet (hands : Handover V) (scope : Scope σ V) : Prop where
  recipes : scope.recipes.AllHanded hands Program.ReadFree
  closing : scope.recipes.AllHanded hands Program.CloseFree ∨ scope.host.All Program.ReadFree

/-- Some recipe raises the failure of its own accord, on what it may be handed, or some closer does. -/
def Scope.Raises (hands : Handover V) (scope : Scope σ V) (error : RuntimeError) : Prop :=
  (∃ type recipe, scope.recipes.findConstructor type = .ok recipe ∧
    ∃ arguments, hands (.constructor type) arguments ∧ (recipe arguments).Raises error) ∨
  (∃ type name recipe, scope.recipes.findMethod type name = .ok recipe ∧
    ∃ receiver arguments, hands (.method type name) arguments ∧ (recipe receiver arguments).Raises error) ∨
  ∃ value closer, scope.host.closer value = some closer ∧ closer.Raises error

/-- A failure that neither recipes raise, on what they are handed, nor closers is not raised of its own
accord. -/
theorem Scope.not_raises {scope : Scope σ V} {hands : Handover V} {error : RuntimeError}
    (recipes : scope.recipes.AllHanded hands (¬ ·.Raises error))
    (closers : scope.host.All (¬ ·.Raises error)) : ¬ scope.Raises hands error := by
  rintro (⟨type, recipe, found, arguments, handed, raised⟩ |
    ⟨type, name, recipe, found, receiver, arguments, handed, raised⟩ | ⟨value, closer, found, raised⟩)
  · exact recipes.1 type recipe found arguments handed raised
  · exact recipes.2 type name recipe found receiver arguments handed raised
  · exact closers value closer found raised

/-- The failures that no plan excludes: the scope is closed, or a recipe has failed, has panicked,
has returned nothing, or has returned what cannot be closed. -/
inductive RuntimeError.Residual : RuntimeError → Prop
  | closed (slot : String) : Residual (.scopeClosed slot)
  | created (slot source : String) : Residual (.creationFailed slot source)
  | panicked (slot : String) : Residual (.creationPanicked slot)
  | null (slot : String) : Residual (.nullValue slot)
  | closer (slot : String) : Residual (.missingCloser slot)

/-- The answer says that this failure has come up. -/
def Answer.Reports (error : RuntimeError) : Answer V → Prop
  | failed raised => raised = error
  | unclosed raised => ∃ failure ∈ raised.failures, failure.fault = .runtime error
  | shared _ => False
  | nothing => False
  | done => False
  | panicked _ => False

end Programs

/-! ## Bounds on failures -/

/-- Handles to any slot, which anything may hold, and any arguments. -/
def Handling.any : Handling σ V := ⟨fun _ => True, fun _ => True, fun _ => True, .any⟩

/-- Programs may do anything, but read only through handles. -/
def Handling.lenient (handling : Handling σ V) : Conduct σ V :=
  { handling with
    recipesRead := True
    recipesClose := True
    closersRead := True
    fails := fun _ => True }

variable {scope : Scope σ V} {handling : Handling σ V} {left : RuntimeError → Prop}

/-- Programs do what those of the scope do, and all failures are among those left or are raised by
a program of its own accord. -/
def Scope.within (scope : Scope σ V) (handling : Handling σ V) (left : RuntimeError → Prop) :
    Conduct σ V :=
  { handling with
    recipesRead := ¬ scope.recipes.AllHanded handling.hands Program.ReadFree
    recipesClose := ¬ scope.recipes.AllHanded handling.hands Program.CloseFree
    closersRead := ¬ scope.host.All Program.ReadFree
    fails := fun error => left error ∨ scope.Raises handling.hands error }

private theorem Program.fits_any {program : Program σ V α} {result : α → Prop}
    (results : ∀ value, result value) :
    program.Fits Handling.any.lenient True True result := by
  induction program with
  | finish value => exact results value
  | fail fault => cases fault <;> trivial
  | panic text => trivial
  | read slot next ih => exact ⟨trivial, trivial, fun answer _ => ih answer⟩
  | close next ih => exact ⟨trivial, fun answer _ => ih answer⟩
  | release next ih => exact ih
  | inspect next ih => exact ih
  | update change next ih => exact fun before _ => ⟨trivial, ih before⟩

/-- Programs that may do anything behave. -/
theorem Scope.behaves_any (scope : Scope σ V) : scope.Behaves Handling.any.lenient where
  constructors _ _ _ _ _ _ := Program.fits_any fun made => by
    cases made with
    | existing shared => exact fun _ _ => trivial
    | fresh value => trivial
  methods _ _ _ _ _ _ _ _ _ := Program.fits_any fun made product _ => by
    cases product with
    | existing shared => exact fun _ _ => trivial
    | fresh value => trivial
  closers _ _ _ _ := Program.fits_any fun _ => trivial
  supplied _ _ := trivial

/-- What a program raises of its own accord bounds its failures, since all others it has been
answered before. -/
theorem Program.fits_within {program : Program σ V α} {reads closes : Prop} {result : α → Prop}
    (fits : program.Fits handling.lenient True True result) (read : reads ∨ program.ReadFree)
    (close : closes ∨ program.CloseFree)
    (raises : ∀ error, program.Raises error → (scope.within handling left).fails error) :
    program.Fits (scope.within handling left) reads closes result := by
  induction program with
  | finish value => exact fits
  | fail fault =>
    cases fault with
    | foreign text => trivial
    | runtime error => exact raises error rfl
  | panic text => trivial
  | read slot next ih =>
    obtain ⟨_, known, rest⟩ := fits
    have reads := read.resolve_right id
    refine ⟨reads, known, fun answer wanted => ih answer (rest answer ?_) (.inl reads)
      (close.imp_right (· answer)) fun error raised => ?_⟩
    · cases answer with
      | ok value => exact wanted
      | error failure => trivial
    · by_cases same : answer = .error error
      · subst same
        exact wanted
      · exact raises error ⟨answer, same, raised⟩
  | close next ih =>
    obtain ⟨_, rest⟩ := fits
    have closes := close.resolve_right id
    refine ⟨closes, fun answer wanted => ih answer (rest answer ?_) (read.imp_right (· answer))
      (.inl closes) fun error raised => ?_⟩
    · cases answer with
      | ok value => trivial
      | error unclosed => exact fun failure _ => by cases failure.fault <;> trivial
    · by_contra bounded
      refine bounded (raises error ⟨answer, fun unclosed same failure member fault => bounded ?_, raised⟩)
      subst same
      have fails := wanted failure member
      rwa [fault] at fails
  | release next ih => exact ih fits read close raises
  | inspect next ih =>
    exact fun view => ih view (fits view) (read.imp_right (· view)) (close.imp_right (· view))
      fun error raised => raises error ⟨view, raised⟩
  | update change next ih =>
    intro before holds
    obtain ⟨kept, rest⟩ := fits before holds
    exact ⟨kept, ih before rest (read.imp_right (· before)) (close.imp_right (· before))
      fun error raised => raises error ⟨before, raised⟩⟩

namespace Scope

/-- Programs that read only through handles keep to the bounds that their scope sets. -/
theorem behaves_within (behaves : scope.Behaves handling.lenient) :
    scope.Behaves (scope.within handling left) where
  constructors type recipe found arguments handed fitting := by
    have fits := behaves.constructors type recipe found arguments handed fitting
    have reads : ¬ scope.recipes.AllHanded handling.hands Program.ReadFree ∨ (recipe arguments).ReadFree :=
      not_or_of_imp fun free => free.1 type recipe found arguments handed
    have closes : ¬ scope.recipes.AllHanded handling.hands Program.CloseFree ∨
        (recipe arguments).CloseFree :=
      not_or_of_imp fun free => free.1 type recipe found arguments handed
    exact Program.fits_within fits reads closes fun error raised =>
      .inr (.inl ⟨type, recipe, found, arguments, handed, raised⟩)
  methods type name recipe found receiver arguments handed held fitting := by
    have fits := behaves.methods type name recipe found receiver arguments handed held fitting
    have reads : ¬ scope.recipes.AllHanded handling.hands Program.ReadFree ∨
        (recipe receiver arguments).ReadFree :=
      not_or_of_imp fun free => free.2 type name recipe found receiver arguments handed
    have closes : ¬ scope.recipes.AllHanded handling.hands Program.CloseFree ∨
        (recipe receiver arguments).CloseFree :=
      not_or_of_imp fun free => free.2 type name recipe found receiver arguments handed
    exact Program.fits_within fits reads closes fun error raised =>
      .inr (.inr (.inl ⟨type, name, recipe, found, receiver, arguments, handed, raised⟩))
  closers value holds closer found := by
    have fits := behaves.closers value holds closer found
    have reads : ¬ scope.host.All Program.ReadFree ∨ closer.ReadFree :=
      not_or_of_imp fun free => free value closer found
    exact Program.fits_within fits reads (.inl trivial) fun error raised =>
      .inr (.inr (.inr ⟨value, closer, found, raised⟩))
  supplied := behaves.supplied

/-- The bound admits what no plan excludes, and a slot that meets itself if any can. -/
theorem admits_within (residual : ∀ error : RuntimeError, error.Residual → left error)
    (circular : ¬ scope.Quiet handling.hands → ∀ slot, left (.circularDependency slot)) :
    (scope.within handling left).Admits where
  closed slot := .inl (residual _ (.closed slot))
  created slot source := .inl (residual _ (.created slot source))
  panicked slot := .inl (residual _ (.panicked slot))
  null slot := .inl (residual _ (.null slot))
  closer slot := .inl (residual _ (.closer slot))
  circular either slot := by
    refine .inl (circular (fun quiet => ?_) slot)
    rcases either with reads | ⟨closes, reads⟩
    · exact reads quiet.recipes
    · exact quiet.closing.elim closes reads

end Scope

/-- The failures that an answer reports are those of the conduct. -/
theorem Answer.fails_of_reports {conduct : Conduct σ V} {answer : Answer V} (fits : answer.Fits conduct)
    {error : RuntimeError} (reports : answer.Reports error) : conduct.fails error := by
  cases answer with
  | failed raised => exact reports ▸ fits
  | unclosed raised =>
    obtain ⟨failure, member, fault⟩ := reports
    have fails := fits failure member
    rwa [fault] at fails
  | shared _ => exact reports.elim
  | nothing => exact reports.elim
  | done => exact reports.elim
  | panicked _ => exact reports.elim

end Wiring
