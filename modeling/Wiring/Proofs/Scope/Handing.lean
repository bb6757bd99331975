import Wiring.Proofs.Scope.Creation
import Wiring.Proofs.Scope.Handover

/-! # What a scope hands over

A scope calls recipes in four places, and in each of them the arguments are made from those of a slot
of the plan. What a recipe would do on other arguments cannot be seen then: a table of recipes may be
replaced by any other one that does the same on arguments that a slot of the plan can be handed. So a
statement about such arguments is one about all calls that a scope makes.

Main statement: `Scope.run_withRecipes`.
-/

namespace Wiring

variable {σ V ε α β : Type}

/-- Both tables have the same recipes, as far as can be seen from the arguments that a slot of the plan is
handed. -/
structure RecipeTable.AgreesOn (plan : Plan) (table other : RecipeTable σ V) : Prop where
  constructors (type : TypeExpr) :
    Alike (fun recipe recipe' => ∀ arguments, plan.Hands (.constructor type) arguments →
        recipe arguments = recipe' arguments)
      (table.findConstructor type) (other.findConstructor type)
  methods (type : TypeExpr) (name : String) :
    Alike (fun recipe recipe' => ∀ receiver arguments, plan.Hands (.method type name) arguments →
        recipe receiver arguments = recipe' receiver arguments)
      (table.findMethod type name) (other.findMethod type name)

namespace Effect

variable {W : Type} {first : Effect W ε α} {next next' : α → Effect W ε β}

/-- What comes after a step has to be the same only for results that the step can have. -/
theorem andThen_congr_of_ok
    (same : ∀ w value after, first w = some (.ok value, after) → next value = next' value) :
    first.andThen next = first.andThen next' := by
  funext w
  unfold andThen
  cases ran : first w with
  | none => rfl
  | some found =>
    obtain ⟨reply, after⟩ := found
    cases reply with
    | ok value => exact congrFun (same w value after ran) after
    | error failure => rfl
    | panic text => rfl

theorem andThen_congr (same : ∀ value, next value = next' value) :
    first.andThen next = first.andThen next' :=
  congrArg first.andThen (funext same)

/-- Results that are known beforehand need only be alike. -/
theorem ofExcept_andThen_congr {γ : Type} {related : α → γ → Prop} {result : Except ε α}
    {result' : Except ε γ} {next : α → Effect W ε β} {next' : γ → Effect W ε β}
    (alike : Alike related result result')
    (same : ∀ value other, related value other → next value = next' other) :
    (ofExcept result).andThen next = (ofExcept result').andThen next' := by
  cases result with
  | ok value =>
    cases result' with
    | ok other => exact same value other alike
    | error _ => exact alike.elim
  | error failure =>
    cases result' with
    | ok _ => exact alike.elim
    | error other =>
      obtain rfl : failure = other := alike
      rfl

end Effect

namespace Scope

variable {scope : Scope σ V} {table : RecipeTable σ V} {handler : Handler σ V}

/-- Arguments that have been read stand for those of the slot. -/
theorem handing_of_arguments {slot : String} {given : List (Instance V)} {sources : List Argument}
    {w after : World σ V} {values : List (Arg V)}
    (read : Scope.arguments handler slot given sources w = some (.ok values, after)) :
    Handing given sources values := by
  let anywhere (_ _ : World σ V) : Prop := True
  have reads (identifier : String) : (handler.read identifier).Within anywhere := fun _ _ _ _ => trivial
  refine Scope.forall₂_of_arguments (fun _ => trivial) (fun _ _ => trivial) reads
    (fun _ => Argument.StoodBy given) (fun _ stood => stood) (fun ran => ?_) read
  rcases argument_eq_ok ran with ⟨_, _, rfl, rfl, _⟩ | ⟨_, rfl, rfl⟩ | ⟨_, _, rfl, rfl, passed⟩
  · exact .slot
  · exact .lazy
  · exact .curried passed

theorem length_of_checkArity {slot : String} {expected actual : Nat} {w after : World σ V}
    (counted : checkArity slot expected actual w = some (.ok (), after)) : actual = expected := by
  unfold checkArity at counted
  split at counted
  next same => exact same.symm
  next => cases counted

def withRecipes (scope : Scope σ V) (table : RecipeTable σ V) : Scope σ V :=
  { scope with recipes := table }

private theorem follow_withRecipes (steps : Nat) (identifier : String) :
    (scope.withRecipes table).follow steps identifier = scope.follow steps identifier := by
  induction steps generalizing identifier with
  | zero => rfl
  | succ steps ih =>
    have served : (scope.withRecipes table).served? identifier = scope.served? identifier := rfl
    simp only [follow, served, ih]

theorem exec_withRecipes (program : Program σ V α) :
    program.exec (scope.withRecipes table) handler = program.exec scope handler := by
  induction program with
  | finish result => rfl
  | fail fault => rfl
  | panic text => rfl
  | read slot next ih => exact Effect.andThen_congr ih
  | close next ih => exact Effect.andThen_congr ih
  | release next ih => exact Effect.andThen_congr fun _ => ih
  | inspect next ih => exact Effect.andThen_congr fun w => ih _
  | update change next ih => exact Effect.andThen_congr fun w => Effect.andThen_congr fun _ => ih _

/-! ## Rules with other recipes -/

theorem runRecipe_withRecipes (slot : String) (recipe : Program σ V α) :
    (scope.withRecipes table).runRecipe handler slot recipe = scope.runRecipe handler slot recipe := by
  rw [runRecipe, exec_withRecipes]
  rfl

theorem closeInstance_withRecipes (value : Instance V) :
    ((scope.withRecipes table).closeInstance handler value : ScopeStep σ V ε (Except Fault Unit)) =
      scope.closeInstance handler value := by
  have host : (scope.withRecipes table).host = scope.host := rfl
  unfold closeInstance
  rw [host]
  simp only [exec_withRecipes]

private theorem own_withRecipes (slot : String) (value : Instance V) :
    (scope.withRecipes table).own handler slot value = scope.own handler slot value := by
  unfold own register
  simp only [closeInstance_withRecipes]
  rfl

section Agreement

variable (agrees : scope.recipes.AgreesOn scope.plan table)
include agrees

private theorem produce_withRecipes {slot : CachedSlot} {values : List (Arg V)}
    (member : slot ∈ scope.plan.cached)
    (handed : Handing [] slot.arguments values) :
    (scope.withRecipes table).produce handler slot values = scope.produce handler slot values := by
  have hands : scope.plan.Hands slot.recipe.callable ⟨slot.identifier, values⟩ :=
    ⟨_, Plan.mem_slots_of_cached member, _, _, .cached handed⟩
  unfold produce
  simp only [runRecipe_withRecipes]
  split
  next type constructs =>
    rw [constructs] at hands
    refine (Effect.ofExcept_andThen_congr (agrees.constructors type) fun recipe recipe' same => ?_).symm
    rw [same _ hands]
  next holder holderType method provides =>
    rw [provides] at hands
    refine Effect.andThen_congr fun receiver => ?_
    refine (Effect.ofExcept_andThen_congr (agrees.methods holderType method)
      fun recipe recipe' same => ?_).symm
    rw [same receiver _ hands]

private theorem create_withRecipes {slot : CachedSlot} (member : slot ∈ scope.plan.cached) :
    (scope.withRecipes table).create handler slot = scope.create handler slot := by
  refine Effect.andThen_congr fun _ => Effect.andThen_congr_of_ok fun w values after read => ?_
  rw [produce_withRecipes agrees member (handing_of_arguments read)]
  simp only [own_withRecipes]

private theorem read_withRecipes (identifier : String) :
    (scope.withRecipes table).read handler identifier = scope.read handler identifier := by
  have target : (scope.withRecipes table).target identifier = scope.target identifier :=
    follow_withRecipes _ identifier
  have served (name : String) : (scope.withRecipes table).served? name = scope.served? name := rfl
  unfold read
  rw [target, served]
  split
  · rfl
  next slot served =>
    unfold access
    rw [create_withRecipes agrees (mem_cached_of_served? served).1]
  · rfl
  · rfl

omit agrees in
private theorem close_withRecipes : (scope.withRecipes table).close handler = scope.close handler := by
  unfold close
  have closers : (scope.withRecipes table).closeInstance handler =
      (scope.closeInstance handler : Instance V → ScopeStep σ V CloseError (Except Fault Unit)) :=
    funext closeInstance_withRecipes
  rw [closers]

private theorem handler_withRecipes (level : Nat) :
    (scope.withRecipes table).handler level = scope.handler level := by
  induction level with
  | zero => rfl
  | succ level ih =>
    simp only [Scope.handler, ih, close_withRecipes]
    rw [funext (read_withRecipes agrees)]

private theorem callFactory_withRecipes {slot : FactorySlot} (member : slot ∈ scope.plan.factories)
    (given : List (Instance V)) :
    (scope.withRecipes table).callFactory handler slot given = scope.callFactory handler slot given := by
  refine Effect.andThen_congr_of_ok fun w _ _ counted => ?_
  have count := length_of_checkArity counted
  refine Effect.andThen_congr fun _ => Effect.andThen_congr fun _ => ?_
  refine Effect.andThen_congr_of_ok fun w values after read => ?_
  have hands : scope.plan.Hands (.constructor slot.product) ⟨slot.identifier, values⟩ :=
    ⟨_, Plan.mem_slots_of_factory member, _, _, .factory count (handing_of_arguments read)⟩
  simp only [runRecipe_withRecipes]
  refine (Effect.ofExcept_andThen_congr (agrees.constructors _) fun recipe recipe' same => ?_).symm
  rw [same _ hands]

private theorem callInjector_withRecipes {slot : InjectorSlot} (member : slot ∈ scope.plan.injectors)
    (given : List (Instance V)) :
    (scope.withRecipes table).callInjector handler slot given = scope.callInjector handler slot given := by
  refine Effect.andThen_congr_of_ok fun w _ _ counted => ?_
  have count := length_of_checkArity counted
  refine Effect.andThen_congr fun _ => Effect.andThen_congr fun _ => Effect.andThen_congr fun receiver => ?_
  refine Effect.andThen_congr_of_ok fun w values after read => ?_
  have hands : scope.plan.Hands (.method slot.receiverType slot.targetMethod) ⟨slot.identifier, values⟩ :=
    ⟨_, Plan.mem_slots_of_injector member, _, _, .injector count (handing_of_arguments read)⟩
  simp only [runRecipe_withRecipes]
  refine (Effect.ofExcept_andThen_congr (agrees.methods _ _) fun recipe recipe' same => ?_).symm
  rw [same receiver _ hands]

/-! ## Runs -/

private theorem performWith_withRecipes {operation : Operation V} (offered : operation.Offered scope) :
    (scope.withRecipes table).performWith handler operation = scope.performWith handler operation := by
  funext w
  cases operation with
  | callFactory slot given => simp only [performWith, callFactory_withRecipes agrees offered]
  | callInjector slot given => simp only [performWith, callInjector_withRecipes agrees offered]
  | _ => rfl

private theorem runWith_withRecipes {operations : List (Operation V)}
    (offered : ∀ operation ∈ operations, operation.Offered scope) (w : World σ V) :
    (scope.withRecipes table).runWith handler operations w = scope.runWith handler operations w := by
  induction operations generalizing w with
  | nil => rfl
  | cons operation rest ih =>
    obtain ⟨here, later⟩ := List.forall_mem_cons.mp offered
    simp only [runWith, performWith_withRecipes agrees here, ih later]

/-- Runs are the same with other recipes that do the same on whatever arguments they can be handed. -/
theorem run_withRecipes {operations : List (Operation V)}
    (offered : ∀ operation ∈ operations, operation.Offered scope) (w : World σ V) :
    (scope.withRecipes table).run operations w = scope.run operations w := by
  have below := Nat.lt_succ_self (scope.potential w)
  have ran := runWith_handler operations below
  have ran' : (scope.withRecipes table).runWith ((scope.withRecipes table).handler (scope.potential w + 1))
      operations w = some ((scope.withRecipes table).run operations w) := runWith_handler operations below
  rw [handler_withRecipes agrees, runWith_withRecipes agrees offered, ran] at ran'
  exact (Option.some.inj ran').symm

end Agreement

end Scope

end Wiring
