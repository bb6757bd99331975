import Wiring.Compilation.Basic
import Wiring.Proofs.Compilation.Matching

/-! # Who needs a key

Every binding that reads keys demands them. The demands of a compilation are those of the declared
bindings, in the order in which they are resolved, and behind them those of the generated factories. A
session remembers one demand for each key, which is the first one.

Main statements: `Session.notes_bind` and `Session.notes_drain`.
-/

namespace Wiring

/-- A key, and the binding that needs it. -/
abbrev Demand := DirectKey × String

namespace Demand

section Bindings

/-! ## Demands of bindings -/

variable (catalog : Catalog)

def ofKeys (binding : String) (keys : List Key) : List Demand := keys.map fun key => (key.base, binding)

def ofParameters (binding : String) (params : List QualifiedType) : Except CompileError (List Demand) := do
  let keys ← Key.ofParameters params
  return ofKeys binding keys

/-- The demands of a binding that reads those parameters that an interface does not pass on. -/
def ofCurried (binding : String) (interface params : List QualifiedType) :
    Except CompileError (List Demand) := do
  let offered ← Key.ofParameters interface
  let wanted ← Key.ofParameters params
  return ofKeys binding ((curry offered.zipIdx wanted).1.filterMap Source.key?)

def gather {α : Type} (demands : α → Except CompileError (List Demand)) :
    List α → Except CompileError (List Demand)
  | [] => return []
  | item :: rest => do
    let first ← demands item
    let others ← gather demands rest
    return first ++ others

/-- A constructed type needs the parameters of its constructor. -/
def ofConstructor (type : TypeExpr) : Except CompileError (List Demand) := do
  let info ← catalog.require type.name
  let constructor ← info.selectConstructor
  ofParameters (QualifiedType.plain type).descriptor constructor.params

/-- What a method provides needs the parameters of the method. -/
def ofProvided (method : Method) : Except CompileError (List Demand) :=
  match method.provides, method.returns with
  | true, some product =>
    ofParameters (QualifiedType.descriptor ⟨product, method.qualifiers⟩) method.params
  | _, _ => return []

/-- The methods of a holder are called on the holder. -/
def ofProvider (holder : TypeExpr) : Except CompileError (List Demand) := do
  let key ← Key.ofType (.plain holder)
  let info ← catalog.require holder.name
  let provided ← gather ofProvided info.sortedMethods
  return ofKeys ("providers of " ++ holder.simpleName) [key] ++ provided

/-- An injector needs what its interface does not pass on to the method. -/
def ofInjected (receiver : TypeExpr) (method : Method) : Except CompileError (List Demand) :=
  match Session.injectorInterface? method with
  | none => return []
  | some interface => do
    let implemented ← catalog.singleMethod interface
    ofCurried (methodText receiver method.name) implemented.params method.params

/-- Injectors are called on their receiver. -/
def ofReceiver (receiver : QualifiedType) : Except CompileError (List Demand) := do
  let key ← Key.ofType receiver
  let info ← catalog.require receiver.type.name
  let injected ← gather (ofInjected catalog receiver.type) info.sortedMethods
  return ofKeys ("injectors of " ++ receiver.descriptor) [key] ++ injected

def ofAlias (declared : Alias) : Except CompileError (List Demand) := do
  let target ← Key.ofType declared.satisfiedBy.qualified
  return ofKeys declared.dependency.descriptor [target]

/-- A generated factory needs the parameters of the constructor of its product, except for those that
it is called with. -/
def ofFactory (slot : FactorySlot) : Except CompileError (List Demand) := do
  let info ← catalog.require slot.product.name
  let constructor ← info.selectConstructor
  let keys ← Key.ofParameters constructor.params
  return ofKeys (slot.product.simpleName ++ " constructor")
    (((keys.zip slot.arguments).filter (·.2.index?.isNone)).map (·.1))

def ofDeclarations (declarations : Declarations) : Except CompileError (List Demand) := do
  let constructed ← gather (ofConstructor catalog) declarations.constructors
  let provided ← gather (ofProvider catalog) declarations.providers
  let injected ← gather (ofReceiver catalog) declarations.injected
  let aliased ← gather ofAlias declarations.aliases
  return constructed ++ provided ++ injected ++ aliased

/-- The demands of everything declared and of the factories that have been generated for it. -/
def ofPlan (declarations : Declarations) (plan : Plan) : Except CompileError (List Demand) := do
  let declared ← ofDeclarations catalog declarations
  let generated ← gather (ofFactory catalog) plan.factories
  return declared ++ generated

end Bindings

variable {α : Type} {demands : α → Except CompileError (List Demand)}

theorem gather_cons {item : α} {rest : List α} {first others : List Demand}
    (here : demands item = .ok first) (there : gather demands rest = .ok others) :
    gather demands (item :: rest) = .ok (first ++ others) := by
  exact bind_eq_ok.mpr ⟨first, here, bind_eq_ok.mpr ⟨others, there, rfl⟩⟩

private theorem gather_append {items others : List α} {log log' : List Demand}
    (here : gather demands items = .ok log) (there : gather demands others = .ok log') :
    gather demands (items ++ others) = .ok (log ++ log') := by
  induction items generalizing log with
  | nil =>
    cases here
    exact there
  | cons item rest ih =>
    obtain ⟨first, head, here⟩ := bind_eq_ok.mp here
    obtain ⟨later, tail, here⟩ := bind_eq_ok.mp here
    cases here
    rw [List.cons_append, List.append_assoc]
    exact gather_cons head (ih tail)

/-- The first of the demands for a key. -/
def find? (log : List Demand) (text : String) : Option Demand := log.find? (·.1.descriptor = text)

theorem find?_append (log others : List Demand) (text : String) :
    find? (log ++ others) text = (find? log text).or (find? others text) :=
  List.find?_append

end Demand

namespace Session

open Demand

variable {session middle next : Session} {made made' : List FactorySlot} {log log' : List Demand}
  {catalog : Catalog}

/-- What has been demanded on the way to the next session is remembered there, the first demand for
each key. Values are declared ones, and factories are added in order. -/
structure Notes (session : Session) (made : List FactorySlot) (log : List Demand) (next : Session) :
    Prop where
  first : ∀ text, find? next.required text = find? (session.required ++ log) text
  factories : next.factories = session.factories ++ made
  declared : ∀ value ∈ next.values, value ∈ session.values ∨ value.origin = .declared

theorem Notes.trans (first : session.Notes made log middle) (second : middle.Notes made' log' next) :
    session.Notes (made ++ made') (log ++ log') next where
  first text := by
    rw [second.first, Demand.find?_append, first.first, ← Demand.find?_append, List.append_assoc]
  factories := by rw [second.factories, first.factories, List.append_assoc]
  declared value member :=
    (second.declared value member).elim (first.declared value) .inr

section Steps

/-! ## Steps -/

/-- A session with the same demands, factories and values. -/
theorem notes_of_eq (required : next.required = session.required)
    (factories : next.factories = session.factories) (values : next.values = session.values) :
    session.Notes [] [] next where
  first text := by rw [required, List.append_nil]
  factories := by rw [factories, List.append_nil]
  declared value member := .inl (values ▸ member)

/-- Nothing more is remembered of what is planned. -/
theorem Notes.of_eq (notes : session.Notes made log middle) (required : next.required = middle.required)
    (factories : next.factories = middle.factories) (values : next.values = middle.values) :
    session.Notes made log next where
  first text := by rw [required, notes.first]
  factories := by rw [factories, notes.factories]
  declared value member := notes.declared value (values ▸ member)

private theorem notes_note (session : Session) (binding : String) (key : DirectKey) :
    session.Notes [] [(key, binding)] (session.note binding key) := by
  unfold note
  split
  next known =>
    refine ⟨fun text => ?_, (List.append_nil _).symm, fun _ => .inl⟩
    have known : key.descriptor ∈ session.needed := by simpa using known
    obtain ⟨entry, listed, same⟩ := List.mem_map.mp known
    rw [Demand.find?_append]
    by_cases asked : key.descriptor = text
    · have some : (find? session.required text).isSome = true :=
        List.find?_isSome.mpr ⟨entry, listed, by simp [same, asked]⟩
      rw [Option.or_of_isSome some]
    · simp [find?, asked]
  next => exact ⟨fun _ => rfl, (List.append_nil _).symm, fun _ => .inl⟩

theorem notes_register (session : Session) (binding : String) (key : Key) :
    session.Notes [] (ofKeys binding [key]) (session.register binding key) := by
  have queued : (session.note binding key.base).Notes [] [] (session.register binding key) := by
    unfold register enqueue
    split <;> exact notes_of_eq rfl rfl rfl
  exact (notes_note session binding key.base).trans queued

theorem notes_registerAll (session : Session) (binding : String) (keys : List Key) :
    session.Notes [] (ofKeys binding keys) (session.registerAll binding keys) := by
  unfold registerAll
  induction keys generalizing session with
  | nil => exact notes_of_eq rfl rfl rfl
  | cons key rest ih => exact (notes_register session binding key).trans (ih _)

theorem notes_satisfy {key : DirectKey} {kind : BindingKind} (done : session.satisfy key kind = .ok next) :
    session.Notes [] [] next := by
  rw [satisfy_eq_ok done]
  exact notes_of_eq rfl rfl rfl

theorem notes_readAll {binding : String} {params : List QualifiedType} {arguments : List Argument}
    (done : session.readAll binding params = .ok (arguments, next)) :
    ∃ log, ofParameters binding params = .ok log ∧ session.Notes [] log next := by
  obtain ⟨keys, built, done⟩ := bind_eq_ok.mp done
  cases done
  exact ⟨_, bind_eq_ok.mpr ⟨keys, built, rfl⟩, notes_registerAll session binding keys⟩

theorem notes_curryAll {interface : TypeExpr} {method : Method} {params : List QualifiedType}
    {binding : String} {arguments : List Argument}
    (done : session.curryAll interface method params binding = .ok (arguments, next)) :
    ∃ wanted keys, Key.ofParameters params = .ok wanted ∧
      keys = ((wanted.zip arguments).filter (·.2.index?.isNone)).map (·.1) ∧
      ofCurried binding method.params params = .ok (ofKeys binding keys) ∧
      session.Notes [] (ofKeys binding keys) next := by
  obtain ⟨offered, offers, done⟩ := bind_eq_ok.mp done
  obtain ⟨wanted, wants, done⟩ := bind_eq_ok.mp done
  dsimp only at done
  split at done
  next =>
    cases done
    exact ⟨wanted, _, wants, keys_curry .., bind_eq_ok.mpr ⟨offered, offers,
      bind_eq_ok.mpr ⟨wanted, wants, rfl⟩⟩, notes_registerAll ..⟩
  next => cases done

theorem notes_require {binding : String} {type : QualifiedType} {key : DirectKey}
    (done : session.require binding type = .ok (key, next)) :
    ∃ full, Key.ofType type = .ok full ∧ session.Notes [] (ofKeys binding [full]) next := by
  obtain ⟨full, built, done⟩ := bind_eq_ok.mp done
  obtain ⟨direct, _, done⟩ := bind_eq_ok.mp done
  cases done
  exact ⟨full, built, notes_register session binding full⟩

/-- A fold demands what its items do. -/
theorem notes_foldlM {α : Type} {step : Session → α → Except CompileError Session}
    {demands : α → Except CompileError (List Demand)} {items : List α}
    (done : items.foldlM step session = .ok next)
    (steps : ∀ before after item, step before item = .ok after →
      ∃ log, demands item = .ok log ∧ before.Notes [] log after) :
    ∃ log, gather demands items = .ok log ∧ session.Notes [] log next := by
  induction items generalizing session with
  | nil =>
    cases done
    exact ⟨[], rfl, notes_of_eq rfl rfl rfl⟩
  | cons item rest ih =>
    obtain ⟨middle, here, done⟩ := foldlM_cons_eq_ok.mp done
    obtain ⟨first, head, notes⟩ := steps session middle item here
    obtain ⟨others, tail, later⟩ := ih done
    exact ⟨first ++ others, gather_cons head tail, notes.trans later⟩

private theorem notes_seedValue {type : QualifiedType} (done : session.seedValue type = .ok next) :
    session.Notes [] [] next := by
  obtain ⟨key, _, _, rfl⟩ := seedValue_adds done
  refine ⟨fun text => by simp, by simp, fun value member => ?_⟩
  refine (List.mem_append.mp member).imp_right fun added => ?_
  obtain rfl : value = key.value .declared := List.mem_singleton.mp added
  rfl

private theorem notes_bindConstructor {type : TypeExpr}
    (done : bindConstructor catalog session type = .ok next) :
    ∃ log, ofConstructor catalog type = .ok log ∧ session.Notes [] log next := by
  obtain ⟨info, found, done⟩ := bind_eq_ok.mp done
  obtain ⟨constructor, selected, done⟩ := bind_eq_ok.mp done
  obtain ⟨key, built, done⟩ := bind_eq_ok.mp done
  obtain ⟨marked, satisfied, done⟩ := bind_eq_ok.mp done
  obtain ⟨⟨arguments, read⟩, readAll, done⟩ := bind_eq_ok.mp done
  cases done
  obtain ⟨log, demands, notes⟩ := notes_readAll readAll
  rw [DirectKey.descriptor, DirectKey.qualified_of_ofType built] at demands
  exact ⟨log, bind_eq_ok.mpr ⟨info, found, bind_eq_ok.mpr ⟨constructor, selected, demands⟩⟩,
    ((notes_satisfy satisfied).trans notes).of_eq rfl rfl rfl⟩

private theorem notes_bindProvided {holderType : TypeExpr} {holder : DirectKey} {method : Method}
    (done : bindProvided catalog holderType holder session method = .ok next) :
    ∃ log, ofProvided method = .ok log ∧ session.Notes [] log next := by
  unfold bindProvided at done
  cases provides : method.provides with
  | false =>
    rw [provides] at done
    cases done
    exact ⟨[], by rw [ofProvided, provides]; rfl, notes_of_eq rfl rfl rfl⟩
  | true =>
    rw [provides] at done
    cases isPublic : method.isPublic with
    | false =>
      rw [isPublic] at done
      cases done
    | true =>
      rw [isPublic] at done
      cases returns : method.returns with
      | none =>
        rw [returns] at done
        cases done
      | some product =>
        rw [returns] at done
        obtain ⟨key, built, done⟩ := bind_eq_ok.mp done
        obtain ⟨marked, satisfied, done⟩ := bind_eq_ok.mp done
        obtain ⟨⟨arguments, read⟩, readAll, done⟩ := bind_eq_ok.mp done
        cases done
        obtain ⟨log, demands, notes⟩ := notes_readAll readAll
        rw [DirectKey.descriptor, DirectKey.qualified_of_ofType built] at demands
        exact ⟨log, by rw [ofProvided, provides, returns]; exact demands,
          ((notes_satisfy satisfied).trans notes).of_eq rfl rfl rfl⟩

private theorem notes_bindProvider {holder : TypeExpr}
    (done : bindProvider catalog session holder = .ok next) :
    ∃ log, ofProvider catalog holder = .ok log ∧ session.Notes [] log next := by
  obtain ⟨⟨key, asked⟩, required, done⟩ := bind_eq_ok.mp done
  obtain ⟨info, found, done⟩ := bind_eq_ok.mp done
  obtain ⟨full, built, notes⟩ := notes_require required
  obtain ⟨provided, demands, later⟩ := notes_foldlM done fun _ _ _ => notes_bindProvided
  exact ⟨_, bind_eq_ok.mpr ⟨full, built, bind_eq_ok.mpr ⟨info, found,
    bind_eq_ok.mpr ⟨provided, demands, rfl⟩⟩⟩, notes.trans later⟩

private theorem notes_bindInjector {receiverType : TypeExpr} {receiver : DirectKey} {method : Method}
    (done : bindInjector catalog receiverType receiver session method = .ok next) :
    ∃ log, ofInjected catalog receiverType method = .ok log ∧ session.Notes [] log next := by
  unfold bindInjector at done
  unfold ofInjected
  cases marked : injectorInterface? method with
  | none =>
    rw [marked] at done
    cases done
    exact ⟨[], rfl, notes_of_eq rfl rfl rfl⟩
  | some interface =>
    rw [marked] at done
    obtain ⟨implemented, single, done⟩ := bind_eq_ok.mp done
    obtain ⟨⟨arguments, curried⟩, curryAll, done⟩ := bind_eq_ok.mp done
    cases done
    obtain ⟨_, keys, _, _, demands, notes⟩ := notes_curryAll curryAll
    exact ⟨_, bind_eq_ok.mpr ⟨implemented, single, demands⟩, notes.of_eq rfl rfl rfl⟩

private theorem notes_bindInjectors {receiver : QualifiedType}
    (done : bindInjectors catalog session receiver = .ok next) :
    ∃ log, ofReceiver catalog receiver = .ok log ∧ session.Notes [] log next := by
  obtain ⟨⟨key, asked⟩, required, done⟩ := bind_eq_ok.mp done
  obtain ⟨info, found, done⟩ := bind_eq_ok.mp done
  obtain ⟨full, built, notes⟩ := notes_require required
  obtain ⟨injected, demands, later⟩ := notes_foldlM done fun _ _ _ => notes_bindInjector
  exact ⟨_, bind_eq_ok.mpr ⟨full, built, bind_eq_ok.mpr ⟨info, found,
    bind_eq_ok.mpr ⟨injected, demands, rfl⟩⟩⟩, notes.trans later⟩

private theorem notes_addAlias {declared : Alias} (done : session.addAlias declared = .ok next) :
    ∃ log, ofAlias declared = .ok log ∧ session.Notes [] log next := by
  obtain ⟨target, built, done⟩ := bind_eq_ok.mp done
  cases done
  exact ⟨_, bind_eq_ok.mpr ⟨target, built, rfl⟩,
    (notes_register session declared.dependency.descriptor target).of_eq rfl rfl rfl⟩

/-- A factory interface is skipped, or one more factory is generated. -/
theorem notes_bindFactory {interface : QualifiedType}
    (done : session.bindFactory catalog interface = .ok next) :
    ∃ made log, gather (ofFactory catalog) made = .ok log ∧ session.Notes made log next := by
  obtain ⟨key, built, done⟩ := bind_eq_ok.mp done
  dsimp only at done
  split at done
  next =>
    cases done
    exact ⟨[], [], rfl, notes_of_eq rfl rfl rfl⟩
  next =>
    obtain ⟨marked, satisfied, done⟩ := bind_eq_ok.mp done
    obtain ⟨method, single, done⟩ := bind_eq_ok.mp done
    split at done
    · cases done
    next product returns =>
      obtain ⟨info, found, done⟩ := bind_eq_ok.mp done
      obtain ⟨constructor, selected, done⟩ := bind_eq_ok.mp done
      obtain ⟨⟨arguments, curried⟩, curryAll, done⟩ := bind_eq_ok.mp done
      cases done
      obtain ⟨wanted, _, wants, rfl, _, notes⟩ := notes_curryAll curryAll
      have generated (slot : FactorySlot) :
          curried.Notes [slot] [] { curried with factories := curried.factories ++ [slot] } :=
        ⟨fun text => by rw [List.append_nil], rfl, fun _ => .inl⟩
      refine ⟨[_], _, ?_, ((notes_satisfy satisfied).trans notes).trans (generated _)⟩
      exact gather_cons (bind_eq_ok.mpr ⟨info, found, bind_eq_ok.mpr ⟨constructor, selected,
        bind_eq_ok.mpr ⟨wanted, wants, rfl⟩⟩⟩) rfl

end Steps

section Phases

/-! ## Phases -/

/-- Before the queue is drained, everything declared has been resolved in order. -/
theorem notes_bind {declarations : Declarations} (done : declarations.bind catalog = .ok session) :
    ∃ log, ofDeclarations catalog declarations = .ok log ∧
      Notes { pending := declarations.factories } [] log session := by
  obtain ⟨_, _, _, _, _, values, sources, constructors, providers, receivers, aliases⟩ :=
    Declarations.phases_of_bind done
  have first : Notes { pending := declarations.factories } [] [] _ :=
    foldlM_keeps values (fun _ _ _ _ step notes => notes.trans (notes_seedValue step))
      (notes_of_eq rfl rfl rfl)
  have second : Notes _ [] [] _ :=
    foldlM_keeps sources (fun _ _ _ _ step notes => notes.trans (notes_satisfy step))
      (notes_of_eq rfl rfl rfl)
  obtain ⟨_, ofConstructors, third⟩ :=
    notes_foldlM constructors fun _ _ _ => notes_bindConstructor
  obtain ⟨_, ofProviders, fourth⟩ := notes_foldlM providers fun _ _ _ => notes_bindProvider
  obtain ⟨_, ofReceivers, fifth⟩ := notes_foldlM receivers fun _ _ _ => notes_bindInjectors
  obtain ⟨_, ofAliases, last⟩ := notes_foldlM aliases fun _ _ _ => notes_addAlias
  exact ⟨_, bind_eq_ok.mpr ⟨_, ofConstructors, bind_eq_ok.mpr ⟨_, ofProviders,
    bind_eq_ok.mpr ⟨_, ofReceivers, bind_eq_ok.mpr ⟨_, ofAliases, rfl⟩⟩⟩⟩,
    ((((first.trans second).trans third).trans fourth).trans fifth).trans last⟩

private theorem notes_drain (done : session.drain catalog = .ok next) :
    ∃ made log, gather (ofFactory catalog) made = .ok log ∧ session.Notes made log next := by
  fun_induction drain catalog session with
  | case1 session empty =>
    cases done
    exact ⟨[], [], rfl, notes_of_eq rfl rfl rfl⟩
  | case2 session interface rest queue error failed => cases done
  | case3 session interface rest queue middle bound ih =>
    obtain ⟨made, log, demands, notes⟩ := notes_bindFactory bound
    obtain ⟨others, later, more, further⟩ := ih done
    have dequeued : session.Notes [] [] session.dequeued := notes_of_eq rfl rfl rfl
    exact ⟨_, _, gather_append demands more, (dequeued.trans notes).trans further⟩

/-- A resolved session remembers the first demand for each key, and all of its values are declared. -/
theorem notes_resolve {declarations : Declarations} (done : declarations.resolve catalog = .ok session) :
    ∃ declared generated, ofDeclarations catalog declarations = .ok declared ∧
      gather (ofFactory catalog) session.factories = .ok generated ∧
      (∀ text, find? session.required text = find? (declared ++ generated) text) ∧
      ∀ value ∈ session.values, value.origin = .declared := by
  obtain ⟨bound, bind, drain⟩ := bind_eq_ok.mp done
  obtain ⟨declared, demands, notes⟩ := notes_bind bind
  obtain ⟨made, generated, more, further⟩ := notes_drain drain
  have whole := notes.trans further
  have factories : session.factories = made := whole.factories
  refine ⟨declared, generated, demands, factories ▸ more, whole.first, fun value member => ?_⟩
  exact (whole.declared value member).resolve_left List.not_mem_nil

end Phases

end Session

end Wiring
