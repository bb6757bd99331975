import Wiring.Proofs.ArgumentKinds
import Wiring.Proofs.CurriedArguments
import Wiring.Proofs.Scope.Starts

/-! # Calls of compiled slots

A compilation decides once and for all which parameters of a constructor or a method are filled by the
caller of a factory or an injector. In every call, each of the caller's arguments is at its place, and all
other places are filled by the scope. What the scope fills in is kept there, so all calls have it in
common. What a call makes is not kept, so each call makes it anew.

Main statement: `Builder.calls_once_of_compile`.
-/

namespace Wiring

variable {σ V : Type}

section Places

/-! ## Places -/

theorem Key.Takes.interface_lt {offered wanted : List Key} {target position : Nat}
    (takes : Key.Takes offered wanted target position) : position < offered.length := by
  obtain ⟨_, _, _, offers⟩ := takes
  obtain ⟨_, here, _⟩ := offers.here
  exact (List.getElem?_eq_some_iff.mp here).1

/-- A target parameter is the only one that takes its interface parameter. -/
theorem Key.Takes.target_unique {offered wanted : List Key} {first second position : Nat}
    (takes : Key.Takes offered wanted first position) (also : Key.Takes offered wanted second position) :
    first = second := by
  obtain ⟨key, here⟩ : ∃ key, offered[position]? = some key :=
    ⟨_, List.getElem?_eq_getElem takes.interface_lt⟩
  rw [Key.takes_iff_of_interface here] at takes also
  obtain ⟨found, there, _⟩ := takes.here
  obtain ⟨found', there', _⟩ := also.here
  have listed := (alike_getElem?_iff.mpr ⟨there, takes⟩).symm.trans (alike_getElem?_iff.mpr ⟨there', also⟩)
  exact congrArg Prod.snd (Option.some.inj listed)

/-- Where nothing is left of the interface parameters, each has its place. -/
theorem Key.exists_places {offered wanted : List Key} (none : (curry offered.zipIdx wanted).2 = []) :
    ∃ place : Nat → Nat, (∀ i < offered.length, Key.Takes offered wanted (place i) i) ∧
      ∀ target i, Key.Takes offered wanted target i → place i = target := by
  have chosen (i : Nat) : ∃ target, i < offered.length → Key.Takes offered wanted target i := by
    by_cases bound : i < offered.length
    · by_contra! free
      have left := (mem_left_iff (List.getElem?_eq_getElem bound)).mpr fun target => (free target).2
      rw [none] at left
      cases left
    · exact ⟨0, fun below => (bound below).elim⟩
  choose place takes using chosen
  exact ⟨place, takes, fun target i also => (takes i also.interface_lt).target_unique also⟩

/-- Each interface parameter has a place of its own among the parameters, at one that asks for the same
key. -/
structure Placement (offered params : List QualifiedType) (place : Nat → Nat) : Prop where
  distinct : ∀ i < offered.length, ∀ j < offered.length, place i = place j → i = j
  alike i offer : offered[i]? = some offer →
    ∃ param, params[place i]? = some param ∧ offer.SameKey param

/-- The arguments are planned for these places: each is passed on at the place of its interface parameter,
and any other one is read by the key of its parameter, which is served. -/
structure Planned (plan : Plan) (offered params : List QualifiedType) (place : Nat → Nat)
    (arguments : List Argument) : Prop extends Placement offered params place where
  length : arguments.length = params.length
  passed : ∀ i < offered.length, arguments[place i]? = some (.curried (.ofNat i))
  held position param : params[position]? = some param → (∀ i < offered.length, place i ≠ position) →
    ∃ key, Key.ofType param = .ok key ∧ plan.Serves key.base.qualified key.identifier ∧
      arguments[position]? = some key.argument

/-- A matching that leaves nothing has a place for everything that is passed on. -/
theorem Currying.exists_places {plan : Plan} {offered params : List QualifiedType}
    {arguments : List Argument}
    (currying : Currying (fun key => plan.Serves key.base.qualified key.identifier) offered params arguments) :
    ∃ place, Planned plan offered params place arguments := by
  obtain ⟨offers, wanted, given, built, none, rfl, serves⟩ := currying
  obtain ⟨place, takes, unique⟩ := Key.exists_places none
  have offering := Key.forall₂_ofParameters given
  have wanting := Key.forall₂_ofParameters built
  have count : offered.length = offers.length := offering.length_eq
  have passed (i : Nat) (bound : i < offered.length) :
      (curry offers.zipIdx wanted).1[place i]? = some (.caller i) :=
    curry_of_takes (takes i (count ▸ bound))
  refine ⟨place, ⟨?_, ?_⟩, ?_, ?_, ?_⟩
  · intro i below j also same
    have listed := (passed i below).symm.trans (same ▸ passed j also)
    simpa using listed
  · intro i offer declared
    obtain ⟨key, here, asks⟩ := exists_getElem?_of_forall₂ offering declared
    have bound : i < offered.length := (List.getElem?_eq_some_iff.mp declared).1
    obtain ⟨other, there, alike⟩ := ((Key.takes_iff_of_interface here).mp (takes i (count ▸ bound))).here
    obtain ⟨param, known, asked⟩ := exists_getElem?_of_forall₂ wanting.flip there
    exact ⟨param, known, key, other, asks, asked, Key.sameAs_iff.mpr (Key.sameAs_iff.mp alike).symm⟩
  · rw [List.length_map, length_curry, ← wanting.length_eq]
  · intro i bound
    rw [List.getElem?_map, passed i bound]
    rfl
  · intro position param declared free
    obtain ⟨key, here, asks⟩ := exists_getElem?_of_forall₂ wanting declared
    have read := curry_of_not_takes here fun i also =>
      free i (count ▸ also.interface_lt) (unique position i also)
    refine ⟨key, asks, serves key (List.mem_filterMap.mpr ⟨_, List.mem_of_getElem? read, rfl⟩), ?_⟩
    rw [List.getElem?_map, read]
    rfl

end Places

section Values

/-! ## Values -/

variable {scope : Scope σ V} {w : World σ V} {called : CallSlot} {given : List (Instance V)}
  {values : List (Arg V)} {offered params : List QualifiedType} {place : Nat → Nat}

/-- The values of a call: the caller's arguments at their places, as far as a machine can count them, and
at any other place what the scope holds for the key of the parameter there, which a client gets, too, or a
handle to its slot. -/
structure Scope.Fills (scope : Scope σ V) (w : World σ V) (offered params : List QualifiedType)
    (place : Nat → Nat) (given : List (Instance V)) (values : List (Arg V)) : Prop where
  length : values.length = params.length
  passed : ∀ i < UInt64.size, ∀ value, given[i]? = some value → values[place i]? = some (.shared value)
  held position param : params[position]? = some param → (∀ i < offered.length, place i ≠ position) →
    ∃ key, Key.ofType param = .ok key ∧ scope.plan.Serves key.base.qualified key.identifier ∧
      ((param.type.isLazy = true ∧ values[position]? = some (.lazy key.identifier)) ∨
        param.type.isLazy = false ∧ ∃ value, values[position]? = some (.shared value) ∧
          scope.perform (.read key.identifier) w = (.shared value, w))

private theorem Planned.fills {receiver : called.Receiver V}
    (planned : Planned scope.plan offered params place called.arguments)
    (count : given.length = offered.length) (alive : w.alive = true)
    (lends : scope.LendsAll w called given receiver values) :
    scope.Fills w offered params place given values where
  length := by rw [← planned.length, lends.values.length_eq]
  passed i counted value passed := by
    have bound : i < given.length := (List.getElem?_eq_some_iff.mp passed).1
    obtain ⟨found, here, lent⟩ := exists_getElem?_of_forall₂ lends.values (planned.passed i (count ▸ bound))
    cases lent with
    | curried same =>
      rw [UInt64.toNat_ofNat_of_lt' counted, passed] at same
      rw [here, Option.some.inj same]
  held position param declared free := by
    obtain ⟨key, built, serves, listed⟩ := planned.held position param declared free
    refine ⟨key, built, serves, ?_⟩
    obtain ⟨found, here, lent⟩ := exists_getElem?_of_forall₂ lends.values listed
    rcases Key.ofType_eq_ok built with ⟨inner, _, deferred, rfl⟩ | ⟨direct, notLazy, _⟩
    · refine .inl ⟨by rw [deferred]; rfl, ?_⟩
      cases lent
      exact here
    · refine .inr ⟨direct, ?_⟩
      rw [Key.argument, notLazy] at lent
      cases lent with
      | slot gives => exact ⟨_, here, gives.get alive⟩

/-- What the scope holds is the same in all calls of a run. -/
theorem Planned.common (planned : Planned scope.plan offered params place called.arguments)
    {operations : List (Operation V)} {first second : Invocation V called}
    (here : first ∈ scope.invocations called operations w)
    (there : second ∈ scope.invocations called operations w) :
    first.receiver = second.receiver ∧ ∀ position, (∀ i < offered.length, place i ≠ position) →
      first.values[position]? = second.values[position]? := by
  obtain ⟨receivers, values⟩ := Scope.invocations_common here there
  refine ⟨receivers, fun position free => ?_⟩
  cases declared : params[position]? with
  | some param =>
    obtain ⟨key, _, _, listed⟩ := planned.held position param declared free
    exact values position key.argument listed (Source.index?_argument (.scope key))
  | none =>
    have beyond : called.arguments.length ≤ position :=
      planned.length ▸ List.getElem?_eq_none_iff.mp declared
    have counted {invocation : Invocation V called}
        (member : invocation ∈ scope.invocations called operations w) :
        invocation.values[position]? = none :=
      List.getElem?_eq_none ((Scope.lends_of_mem_invocations member).values.length_eq ▸ beyond)
    rw [counted here, counted there]

/-- The receiver of a method is what the scope holds for the type of the receiver, which a client gets,
too. -/
def Scope.HoldsReceiver (scope : Scope σ V) (w : World σ V) : (called : CallSlot) → called.Receiver V → Prop
  | .factory _, _ => True
  | .injector slot, receiver =>
    (∃ asked : QualifiedType, asked.type = slot.receiverType ∧ scope.plan.Serves asked slot.receiver) ∧
      scope.perform (.read slot.receiver) w = (.shared receiver, w)

end Values

section Slots

/-! ## Slots that are called -/

variable {scope : Scope σ V} {called : CallSlot}

theorem Scope.offered_of_mem_slots (member : called.slot ∈ scope.plan.slots) (given : List (Instance V)) :
    (called.call given).Offered scope := by
  cases called with
  | factory slot =>
    have listed : slot ∈ scope.plan.factories := by simpa [CallSlot.slot, Plan.slots] using member
    exact listed
  | injector slot =>
    have listed : slot ∈ scope.plan.injectors := by simpa [CallSlot.slot, Plan.slots] using member
    exact listed

private theorem CallSlot.slot_injective : Function.Injective CallSlot.slot := by
  intro first second same
  cases first <;> cases second <;> cases same <;> rfl

/-- Where identifiers differ, what opens has a recipe for the slot, and nothing else under its name. -/
theorem Scope.callee_of_check (checked : scope.check = .ok ()) (nodup : scope.plan.identifiers.Nodup)
    (member : called.slot ∈ scope.plan.slots) : scope.Callee called where
  uncached := by
    have offered := offered_of_mem_slots member []
    refine not_cached_of_callable ?_
    cases called with
    | factory slot => exact .inl ⟨slot, offered, rfl⟩
    | injector slot => exact .inr ⟨slot, offered, rfl⟩
  required := by
    have offered := offered_of_mem_slots member []
    refine require_of_check checked ?_
    cases called with
    | factory slot => exact Plan.mem_callables_of_factory offered
    | injector slot => exact Plan.mem_callables_of_injector offered
  only other listed same :=
    CallSlot.slot_injective (List.inj_on_of_nodup_map nodup listed member same)

end Slots

namespace Builder

variable {builder : Builder} {scope : Scope σ V} {called : CallSlot}

/-- Every factory and every injector of a compiled plan is planned for places. -/
theorem exists_planned (plain : builder.Plain) (compiled : builder.compile = .ok scope.plan)
    (member : called.slot ∈ scope.plan.slots) :
    ∃ params offered place, called.slot.Takes builder.catalog params ∧
      called.slot.Receives builder.catalog offered ∧ called.parameters.length = offered.length ∧
      Planned scope.plan offered params place called.arguments := by
  obtain ⟨params, offered, takes, receives, count, currying⟩ : ∃ params offered,
      called.slot.Takes builder.catalog params ∧ called.slot.Receives builder.catalog offered ∧
      called.parameters.length = offered.length ∧
      Currying (fun key => builder.Plain → scope.plan.Serves key.base.qualified key.identifier)
        offered params called.arguments := by
    have fits := fits_of_compile compiled _ member
    cases called with
    | factory slot => exact fits
    | injector slot => exact fits
  obtain ⟨place, planned⟩ := (currying.mono fun _ serves => serves plain).exists_places
  exact ⟨params, offered, place, takes, receives, count, planned⟩

private theorem holdsReceiver_of_lends (plain : builder.Plain) (compiled : builder.compile = .ok scope.plan)
    (member : called.slot ∈ scope.plan.slots) {w : World σ V} {receiver : called.Receiver V}
    (alive : w.alive = true) (lends : scope.LendsReceiver w called receiver) :
    scope.HoldsReceiver w called receiver := by
  cases called with
  | factory slot => trivial
  | injector slot =>
    have listed : slot ∈ scope.plan.injectors := Scope.offered_of_mem_slots (V := V) member []
    obtain ⟨asked, _, type, serves, _⟩ := (wired_of_compile plain compiled).injectors slot listed
    exact ⟨⟨asked, type, serves⟩, Scope.Gives.get lends alive⟩

/-- Of a compiled plan with plain names, and while recipes do not read the scope, a call that can be
accepted runs its recipe once, on the caller's arguments at their places and on what the scope holds at
all others. Nothing is kept of what it makes. So a run starts the recipe as often as calls are accepted,
and all of these are made on the same, but for what callers give. -/
theorem calls_once_of_compile (plain : builder.Plain) (compiled : builder.compile = .ok scope.plan)
    (checked : scope.check = .ok ()) (readFree : scope.recipes.All Program.ReadFree)
    (member : called.slot ∈ scope.plan.slots) :
    ∃ params offered place, called.slot.Takes builder.catalog params ∧
      called.slot.Receives builder.catalog offered ∧ called.parameters.length = offered.length ∧
      Placement offered params place ∧
      (∀ (w : World σ V) (given : List (Instance V)) (receiver : called.Receiver V)
        (values : List (Arg V)) (middle : World σ V),
        Scope.Accepts scope.unbounded called given w receiver values middle →
          ∃ reply after, scope.invoke scope.unbounded called receiver values middle = some (reply, after) ∧
            scope.perform (called.call given) w = (reply.answer .ofOption .failed, after) ∧
            scope.Fills after offered params place given values ∧
            scope.HoldsReceiver after called receiver ∧ middle.Retains after ∧
            ∃ answers last, scope.chronicleFrom w [called.call given] = some (answers, last) ∧
              last.starts called.identifier = 1) ∧
      ∀ operations : List (Operation V), (∀ operation ∈ operations, operation.Offered scope) →
        ∀ w : World σ V, ∃ answers last, scope.chronicleFrom w operations = some (answers, last) ∧
          scope.run operations w = (answers, last.plain) ∧
          last.starts called.identifier = (scope.invocations called operations w).length ∧
          ∀ first ∈ scope.invocations called operations w,
            ∀ second ∈ scope.invocations called operations w, first.receiver = second.receiver ∧
              ∀ position, (∀ i < offered.length, place i ≠ position) →
                first.values[position]? = second.values[position]? := by
  obtain ⟨params, offered, place, takes, receives, count, planned⟩ := exists_planned plain compiled member
  obtain ⟨_, _, _, _, nodup, _⟩ := sound_of_compile plain compiled
  have callee := Scope.callee_of_check checked nodup member
  refine ⟨params, offered, place, takes, receives, count, planned.toPlacement,
    fun w given receiver values middle accepts => ?_, fun operations offers w => ?_⟩
  · obtain ⟨reply, after, invoked, performed⟩ := accepts.perform_eq
    have retains := Scope.retains_perform readFree callee.required accepts
    have alive : after.alive = true := by
      rw [← accepts.alive, ← scope.alive_perform (called.call given) w, performed]
    rw [performed] at retains
    have giving := scope.giving_unbounded
    have lends := (Scope.lends_of_resolve giving accepts.resolved).mono
      (Scope.grounds_invoke giving _ _ _ _ _ invoked)
    refine ⟨reply, after, invoked, performed, planned.fills (accepts.arity.symm.trans count) alive lends,
      holdsReceiver_of_lends plain compiled member alive lends.receiver, retains, ?_⟩
    have offers : ∀ operation ∈ [called.call given], operation.Offered scope :=
      List.forall_mem_singleton.mpr (Scope.offered_of_mem_slots member given)
    obtain ⟨answers, last, written, _, starts⟩ := Scope.starts_chronicleFrom callee offers w
    have invocation : scope.invocation? called (called.call given) w = some ⟨given, receiver, values⟩ :=
      Scope.invocation?_eq_some_iff.mpr ⟨rfl, middle, accepts⟩
    refine ⟨answers, last, written, starts.trans ?_⟩
    rw [Scope.invocations, invocation]
    rfl
  · obtain ⟨answers, last, written, ran, starts⟩ := Scope.starts_chronicleFrom callee offers w
    exact ⟨answers, last, written, ran, starts, fun _ here _ there => planned.common here there⟩

end Builder

/-- A carpentry has a workbench for tables. Of the five parts of a table, the workbench is given three. -/
def Builder.carpentry : Builder where
  catalog := ⟨[
    { name := "Hinge", constructors := [{}] },
    { name := "Table", constructors := [{ params := Session.tableParts }] },
    { name := "Workbench", methods := [{ Session.bench with returns := some (.named "Table") }] }],
    by decide⟩
  package := "demo"
  scopeName := "Carpentry"
  declarations := {
    values := [.plain (.named "Panel")]
    constructors := [.named "Hinge"]
    factories := [.plain (.named "Workbench")] }

def FactorySlot.workbench : FactorySlot :=
  ⟨"workbench", "Workbench", "Workbench", "build", ["Panel", "Screw", "Panel"], .named "Table",
    [.curried 0, .slot "hinge", .lazy "panel", .curried 2, .curried 1]⟩

def Plan.carpentry : Plan where
  package := "demo"
  scopeName := "Carpentry"
  values := [⟨"panel", "Panel", "Panel", .declared⟩]
  aliases := []
  cached := [⟨0, "hinge", "Hinge", "Hinge", .constructor (.named "Hinge"), [], false⟩]
  factories := [.workbench]
  injectors := []

def Scope.carpentry : Scope Unit String where
  plan := .carpentry
  values := .ofList [("panel", "oak")]
  recipes := { constructors := [
    ("Hinge", fun _ => .finish (.fresh "hinge")),
    ("Table", fun _ => .finish (.fresh "table"))] }
  host := {
    typeName := id
    factoryName := "Factory"
    injectorName := "Injector"
    closer := fun _ => none }

theorem Builder.calls_once_carpentry :
    let called := CallSlot.factory .workbench
    let given : List (Instance String) :=
      [⟨.made 7, .host "ash"⟩, ⟨.made 8, .host "screw"⟩, ⟨.made 9, .host "elm"⟩]
    let values : List (Arg String) := [.shared ⟨.made 7, .host "ash"⟩, .shared ⟨.made 0, .host "hinge"⟩,
      .lazy "panel", .shared ⟨.made 9, .host "elm"⟩, .shared ⟨.made 8, .host "screw"⟩]
    let operations := [called.call given, called.call given]
    carpentry.Plain ∧ carpentry.compile = .ok .carpentry ∧ Scope.carpentry.check = .ok () ∧
      Scope.carpentry.recipes.All Program.ReadFree ∧ called.slot ∈ Plan.carpentry.slots ∧
      ∃ middle, Scope.Accepts Scope.carpentry.unbounded called given (Scope.start ()) () values middle ∧
        middle.Retains (Scope.carpentry.perform (called.call given) (Scope.start ())).2 ∧
        (Scope.carpentry.run operations (Scope.start ())).1 =
          [.shared ⟨.made 1, .host "table"⟩, .shared ⟨.made 2, .host "table"⟩] ∧
        ∃ answers last, Scope.carpentry.chronicleFrom (Scope.start ()) operations = some (answers, last) ∧
          last.starts "workbench" = 2 := by
  intro called given values operations
  have plain : carpentry.Plain := by decide +kernel
  have compiled : carpentry.compile = .ok Scope.carpentry.plan := by cbv
  have checked : Scope.carpentry.check = .ok () := Scope.check_of_checkCycles (by cbv)
  have readFree : Scope.carpentry.recipes.All Program.ReadFree := by
    refine ⟨fun entry member arguments => ?_, List.forall_mem_nil _⟩
    rcases List.mem_pair.mp member with rfl | rfl <;> trivial
  have member : called.slot ∈ Scope.carpentry.plan.slots := by decide
  have accepts : ∃ middle,
      Scope.Accepts Scope.carpentry.unbounded called given (Scope.start ()) () values middle :=
    ⟨_, rfl, rfl, rfl, rfl⟩
  obtain ⟨middle, accepts⟩ := accepts
  have offers : ∀ operation ∈ operations, operation.Offered Scope.carpentry := by
    simp [operations, called, CallSlot.call, Operation.Offered, Scope.carpentry, Plan.carpentry]
  obtain ⟨_, _, _, _, _, _, _, once, runs⟩ :=
    calls_once_of_compile plain compiled checked readFree member
  obtain ⟨_, _, _, performed, _, _, retains, _⟩ := once _ _ _ _ _ accepts
  obtain ⟨answers, last, written, _, starts, _⟩ := runs operations offers (Scope.start ())
  exact ⟨plain, compiled, checked, readFree, member, middle, accepts, performed ▸ retains, by rfl,
    answers, last, written, starts.trans (by rfl)⟩

end Wiring
