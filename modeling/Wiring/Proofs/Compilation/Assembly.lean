import Wiring.Proofs.Compilation.Growth

/-! # How bindings are put together

All that a binding does to a session comes down to a few moves: a key is satisfied, noted as needed or
queued as a factory, a slot is planned, or the compilation fails. What else a binding looks at does not
depend on the session. So whatever survives every move and goes from two steps to the steps one after the
other holds of every binding. Of the slots only the declared values are left out here.
-/

namespace Wiring.Session

variable {α : Type}

/-- A step that is made of moves, none of which plans a value. -/
inductive Assembled : (Session → Except CompileError Session) → Prop
  | done : Assembled .ok
  | throw (error : CompileError) : Assembled fun _ => .error error
  | satisfy (key : DirectKey) (kind : BindingKind) : Assembled (·.satisfy key kind)
  | note (requirer : String) (key : DirectKey) : Assembled fun session => .ok (session.note requirer key)
  | enqueue (key : Key) : Assembled fun session => .ok (session.enqueue key)
  | addCached (key : DirectKey) (recipe : Recipe) (arguments : List Argument) (closeOnTeardown : Bool) :
    Assembled fun session => .ok (session.addCached key recipe arguments closeOnTeardown)
  /-- Slots that do not depend on what is planned already. -/
  | addSlots (aliases : List AliasSlot) (factories : List FactorySlot) (injectors : List InjectorSlot) :
    Assembled fun session => .ok (session ++ ({ aliases, factories, injectors } : Session))
  | andThen {first second : Session → Except CompileError Session} (start : Assembled first)
    (rest : Assembled second) : Assembled fun session => first session >>= second

section Combining

/-! ## Combining steps -/

/-- What is known beforehand may be used. -/
theorem Assembled.ofExcept {result : Except CompileError α}
    {next : α → Session → Except CompileError Session} (rest : ∀ value, Assembled (next value)) :
    Assembled fun session => result >>= fun value => next value session := by
  cases result with
  | ok value => exact rest value
  | error error => exact .throw error

/-- Steps that are assembled one by one are assembled as a sequence. -/
theorem Assembled.foldlM {step : Session → α → Except CompileError Session} {items : List α}
    (each : ∀ item ∈ items, Assembled (step · item)) :
    Assembled fun session => items.foldlM step session := by
  induction items with
  | nil => exact .done
  | cons item rest ih =>
    simp only [List.foldlM_cons]
    exact .andThen (each item List.mem_cons_self)
      (ih fun other later => each other (List.mem_cons_of_mem _ later))

end Combining

section Reading

/-! ## Reading keys -/

theorem assembled_register (requirer : String) (key : Key) :
    Assembled fun session => .ok (session.register requirer key) :=
  .andThen (.note requirer key.base) (.enqueue key)

theorem assembled_registerAll (requirer : String) (keys : List Key) :
    Assembled fun session => .ok (session.registerAll requirer keys) := by
  induction keys with
  | nil => exact .done
  | cons key rest ih => exact .andThen (assembled_register requirer key) ih

theorem assembled_readAll {requirer : String} {params : List QualifiedType}
    {next : List Argument × Session → Except CompileError Session}
    (rest : ∀ arguments, Assembled fun session => next (arguments, session)) :
    Assembled fun session => session.readAll requirer params >>= next := by
  unfold readAll
  simp only [bind_assoc, pure_bind]
  exact .ofExcept fun keys => .andThen (assembled_registerAll requirer keys) (rest _)

/-- Currying is assembled if what goes on with the arguments is. -/
theorem assembled_curryAll {interface : TypeExpr} {method : Method} {params : List QualifiedType}
    {target : String} {next : List Argument × Session → Except CompileError Session}
    (rest : ∀ arguments, Assembled fun session => next (arguments, session)) :
    Assembled fun session => session.curryAll interface method params target >>= next := by
  unfold curryAll
  simp only [bind_assoc]
  refine .ofExcept fun offered => .ofExcept fun wanted => ?_
  cases (curry offered.zipIdx wanted).2 with
  | nil => exact .andThen (assembled_registerAll _ _) (rest _)
  | cons offer others => exact .throw _

theorem assembled_require {requirer : String} {type : QualifiedType}
    {next : DirectKey × Session → Except CompileError Session}
    (rest : ∀ key, Assembled fun session => next (key, session)) :
    Assembled fun session => session.require requirer type >>= next := by
  unfold require
  simp only [bind_assoc, pure_bind]
  exact .ofExcept fun key => .ofExcept fun direct =>
    .andThen (assembled_register requirer key) (rest direct)

end Reading

section Bindings

/-! ## Bindings -/

variable (catalog : Catalog)

theorem assembled_seedAlias (declared : Alias) : Assembled (·.seedAlias declared) :=
  .satisfy declared.dependency .aliased

theorem assembled_bindConstructor (type : TypeExpr) : Assembled (bindConstructor catalog · type) :=
  .ofExcept fun _ => .ofExcept fun _ => .ofExcept fun key =>
    .andThen (.satisfy key .constructor) (assembled_readAll fun _ => .addCached _ _ _ _)

private theorem assembled_bindProvided (holderType : TypeExpr) (holder : DirectKey) (method : Method) :
    Assembled (bindProvided catalog holderType holder · method) := by
  unfold bindProvided
  cases method.provides with
  | false => exact .done
  | true =>
    cases method.isPublic with
    | false => exact .throw _
    | true =>
      cases method.returns with
      | none => exact .throw _
      | some product =>
        exact .ofExcept fun key =>
          .andThen (.satisfy key .provider) (assembled_readAll fun _ => .addCached _ _ _ _)

theorem assembled_bindProvider (holderType : TypeExpr) :
    Assembled (bindProvider catalog · holderType) :=
  assembled_require fun holder => .ofExcept fun _ =>
    .foldlM fun method _ => assembled_bindProvided catalog holderType holder method

private theorem assembled_injector (slot : InjectorSlot) :
    Assembled fun session => .ok { session with injectors := session.injectors ++ [slot] } := by
  have whole (session : Session) : { session with injectors := session.injectors ++ [slot] } =
      session ++ ({ injectors := [slot] } : Session) := by ext1 <;> simp
  simp only [whole]
  exact .addSlots [] [] [slot]

private theorem assembled_bindInjector (receiverType : TypeExpr) (receiver : DirectKey) (method : Method) :
    Assembled (bindInjector catalog receiverType receiver · method) := by
  unfold bindInjector
  cases injectorInterface? method with
  | none => exact .done
  | some interface =>
    exact .ofExcept fun _ => assembled_curryAll fun _ => assembled_injector _

theorem assembled_bindInjectors (receiverType : QualifiedType) :
    Assembled (bindInjectors catalog · receiverType) :=
  assembled_require fun receiver => .ofExcept fun _ =>
    .foldlM fun method _ => assembled_bindInjector catalog receiverType.type receiver method

private theorem assembled_alias (slot : AliasSlot) :
    Assembled fun session => .ok { session with aliases := session.aliases ++ [slot] } := by
  have whole (session : Session) : { session with aliases := session.aliases ++ [slot] } =
      session ++ ({ aliases := [slot] } : Session) := by ext1 <;> simp
  simp only [whole]
  exact .addSlots [slot] [] []

theorem assembled_addAlias (declared : Alias) : Assembled (·.addAlias declared) :=
  .ofExcept fun target =>
    .andThen (assembled_register declared.dependency.descriptor target) (assembled_alias declared.slot)

theorem assembled_factory (slot : FactorySlot) :
    Assembled fun session => .ok { session with factories := session.factories ++ [slot] } := by
  have whole (session : Session) : { session with factories := session.factories ++ [slot] } =
      session ++ ({ factories := [slot] } : Session) := by ext1 <;> simp
  simp only [whole]
  exact .addSlots [] [slot] []

end Bindings

end Wiring.Session
