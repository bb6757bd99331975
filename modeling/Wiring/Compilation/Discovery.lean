import Wiring.Compilation.Bindings
import Wiring.Counting

/-! # Discovery of factories

Implementing one factory may ask for others, including itself again. The queue nevertheless runs
dry: what a factory adds to it are parameters of constructors in the catalog, and a key leaves the
set of unsatisfied ones when its factory is implemented.
-/

namespace Wiring

/-- Descriptors of every constructor parameter in the catalog. -/
def Catalog.parameterDescriptors (catalog : Catalog) : List String :=
  catalog.types.flatMap fun info =>
    info.constructors.flatMap fun constructor => constructor.params.map (·.descriptor)

/-- The constructor that is selected is one of the type. -/
theorem TypeInfo.mem_of_selectConstructor {info : TypeInfo} {constructor : Constructor}
    (selected : info.selectConstructor = .ok constructor) : constructor ∈ info.constructors := by
  have public_ : constructor ∈ info.constructors.filter (·.isPublic) := by
    unfold selectConstructor at selected
    split at selected
    · cases selected
    next only =>
      cases selected
      exact only ▸ List.mem_cons_self
    next =>
      split at selected
      · cases selected
      next chosen =>
        cases selected
        exact (List.mem_filter.mp (chosen ▸ List.mem_cons_self)).1
      · cases selected
  exact (List.mem_filter.mp public_).1

/-- Requiring a type succeeds with the entry that a search for it finds. -/
theorem Catalog.find?_of_require {catalog : Catalog} {name : String} {info : TypeInfo}
    (done : catalog.require name = .ok info) : catalog.find? name = some info := by
  unfold Catalog.require at done
  split at done <;> cases done
  assumption

private theorem Catalog.mem_parameterDescriptors {catalog : Catalog} {name : String} {info : TypeInfo}
    {constructor : Constructor} {param : QualifiedType} (found : catalog.find? name = some info)
    (selected : info.selectConstructor = .ok constructor) (member : param ∈ constructor.params) :
    param.descriptor ∈ catalog.parameterDescriptors :=
  List.mem_flatMap.mpr ⟨info, find?_mem found, List.mem_flatMap.mpr
    ⟨constructor, TypeInfo.mem_of_selectConstructor selected, List.mem_map.mpr ⟨param, member, rfl⟩⟩⟩

/-- A deferred handle asks for what it defers; every other type asks for itself. -/
theorem Key.ofType_eq_ok {param : QualifiedType} {key : Key} (built : ofType param = .ok key) :
    (∃ inner notLazy, param.type = .lazy inner ∧ key = .lazy ⟨⟨inner, param.qualifiers⟩, notLazy⟩) ∨
      (param.type.isLazy = false ∧ key.isLazy = false ∧ key.base.qualified = param) := by
  unfold ofType at built
  split at built
  next isLazy =>
    split at built
    · cases built
    · split at built
      next inner args =>
        split at built
        · cases built
        next innerLazy =>
          cases built
          obtain ⟨⟨name, _⟩, qualifiers⟩ := param
          cases args
          obtain rfl : name = TypeExpr.lazyName := of_decide_eq_true isLazy
          exact .inl ⟨inner, Bool.eq_false_iff.mpr innerLazy, rfl, rfl⟩
      · cases built
  next notLazy =>
    cases built
    refine .inr ⟨Bool.eq_false_iff.mpr notLazy, ?_⟩
    split <;> exact ⟨rfl, rfl⟩

private theorem Key.qualified_of_autoFactory {qualified : QualifiedType} {key : Key}
    (built : Key.ofType qualified = .ok key) (auto : key.isAutoFactory = true) :
    key.base.qualified = qualified := by
  rcases Key.ofType_eq_ok built with ⟨_, _, _, rfl⟩ | ⟨_, _, same⟩
  · cases auto
  · exact same

/-- The key of a type that is not deferred is the type itself. -/
theorem DirectKey.qualified_of_ofType {asked : QualifiedType} {key : DirectKey}
    (built : ofType asked = .ok key) : key.qualified = asked := by
  obtain ⟨full, fullBuilt, direct⟩ := bind_eq_ok.mp built
  rcases Key.ofType_eq_ok fullBuilt with ⟨inner, notLazy, _, rfl⟩ | ⟨_, notLazy, base⟩
  · cases direct
  · cases full <;> cases direct
    · exact base
    · exact base

/-- Every key that parameters come to is the key of one of them. -/
theorem Key.mem_ofParameters {params : List QualifiedType} {keys : List Key} {key : Key}
    (built : Key.ofParameters params = .ok keys) (member : key ∈ keys) :
    ∃ param ∈ params, Key.ofType param = .ok key := by
  unfold Key.ofParameters at built
  induction params generalizing keys with
  | nil => cases built; cases member
  | cons head rest ih =>
    rw [List.mapM_cons] at built
    obtain ⟨first, headBuilt, built⟩ := bind_eq_ok.mp built
    obtain ⟨others, restBuilt, same⟩ := bind_eq_ok.mp built
    cases same
    rcases List.mem_cons.mp member with here | later
    · exact ⟨head, List.mem_cons_self, here ▸ headBuilt⟩
    · obtain ⟨param, member, built⟩ := ih restBuilt later
      exact ⟨param, List.mem_cons_of_mem _ member, built⟩

namespace Session

@[simp] theorem note_satisfied (session : Session) (requirer : String) (key : DirectKey) :
    (session.note requirer key).satisfied = session.satisfied := by
  unfold note
  split <;> rfl

@[simp] theorem note_pending (session : Session) (requirer : String) (key : DirectKey) :
    (session.note requirer key).pending = session.pending := by
  unfold note
  split <;> rfl

@[simp] theorem enqueue_satisfied (session : Session) (key : Key) :
    (session.enqueue key).satisfied = session.satisfied := by
  unfold enqueue
  split <;> rfl

private theorem register_satisfied (session : Session) (requirer : String) (key : Key) :
    (session.register requirer key).satisfied = session.satisfied := by
  simp [register]

private theorem registerAll_satisfied (session : Session) (requirer : String) (keys : List Key) :
    (session.registerAll requirer keys).satisfied = session.satisfied := by
  unfold registerAll
  induction keys generalizing session with
  | nil => rfl
  | cons key rest ih => rw [List.foldl_cons, ih, register_satisfied]

private theorem register_pending (session : Session) (requirer : String) (key : Key) :
    ∃ added, (session.register requirer key).pending = session.pending ++ added ∧
      ∀ item ∈ added, key.isAutoFactory = true ∧ item = key.base.qualified := by
  unfold register enqueue
  split
  next queued =>
    refine ⟨[key.base.qualified], by simp, fun item member => ?_⟩
    exact ⟨(Bool.and_eq_true_iff.mp queued).1, List.mem_singleton.mp member⟩
  next => exact ⟨[], by simp, by simp⟩

private theorem registerAll_pending (session : Session) (requirer : String) (keys : List Key) :
    ∃ added, (session.registerAll requirer keys).pending = session.pending ++ added ∧
      ∀ item ∈ added, ∃ key ∈ keys, key.isAutoFactory = true ∧ item = key.base.qualified := by
  unfold registerAll
  induction keys generalizing session with
  | nil => exact ⟨[], by simp, by simp⟩
  | cons key rest ih =>
    obtain ⟨first, firstPending, firstItems⟩ := register_pending session requirer key
    obtain ⟨others, restPending, restItems⟩ := ih (session.register requirer key)
    refine ⟨first ++ others, by rw [List.foldl_cons, restPending, firstPending, List.append_assoc],
      fun item member => ?_⟩
    rcases List.mem_append.mp member with here | later
    · exact ⟨key, List.mem_cons_self, firstItems item here⟩
    · obtain ⟨other, member, found⟩ := restItems item later
      exact ⟨other, List.mem_cons_of_mem _ member, found⟩

/-- A session that satisfies a key records it, and changes in nothing else. -/
theorem satisfy_eq_ok {session next : Session} {key : DirectKey} {kind : BindingKind}
    (done : session.satisfy key kind = .ok next) :
    next = { session with satisfied := session.satisfied ++ [(key, kind)] } := by
  unfold satisfy at done
  split at done <;> cases done
  rfl

private theorem curryAll_eq_ok {session next : Session} {interface : TypeExpr} {method : Method}
    {params : List QualifiedType} {target : String} {arguments : List Argument}
    (done : session.curryAll interface method params target = .ok (arguments, next)) :
    next.satisfied = session.satisfied ∧
      ∃ added, next.pending = session.pending ++ added ∧ ∀ item ∈ added, item ∈ params := by
  obtain ⟨offered, _, done⟩ := bind_eq_ok.mp done
  obtain ⟨wanted, wantedBuilt, done⟩ := bind_eq_ok.mp done
  dsimp only at done
  split at done
  · cases done
    refine ⟨registerAll_satisfied .., ?_⟩
    obtain ⟨added, pending, items⟩ := registerAll_pending session target
      ((curry offered.zipIdx wanted).1.filterMap Source.key?)
    refine ⟨added, pending, fun item member => ?_⟩
    obtain ⟨key, member, auto, same⟩ := items item member
    obtain ⟨param, member, built⟩ := Key.mem_ofParameters wantedBuilt (curry_scope_mem member)
    rw [same, Key.qualified_of_autoFactory built auto]
    exact member
  · cases done

/-- A factory is skipped when its key is satisfied; otherwise its key becomes satisfied and only
constructor parameters of the catalog join the queue. -/
theorem bindFactory_eq_ok {catalog : Catalog} {session next : Session}
    {interface : QualifiedType} (done : session.bindFactory catalog interface = .ok next) :
    (next = session ∧ interface.descriptor ∈ session.bound) ∨
      (interface.descriptor ∉ session.bound ∧
        next.bound = session.bound ++ [interface.descriptor] ∧
        ∃ added, next.pending = session.pending ++ added ∧
          ∀ item ∈ added, item.descriptor ∈ catalog.parameterDescriptors) := by
  obtain ⟨key, keyBuilt, done⟩ := bind_eq_ok.mp done
  have same : key.descriptor = interface.descriptor :=
    congrArg QualifiedType.descriptor (DirectKey.qualified_of_ofType keyBuilt)
  dsimp only at done
  split at done
  next satisfied =>
    cases done
    refine .inl ⟨rfl, ?_⟩
    rw [← same]
    simpa [isSatisfied] using satisfied
  next unsatisfied =>
    refine .inr ⟨?_, ?_⟩
    · rw [← same]
      simpa [isSatisfied] using unsatisfied
    obtain ⟨marked, markedOk, done⟩ := bind_eq_ok.mp done
    have markedEq := satisfy_eq_ok markedOk
    obtain ⟨method, _, done⟩ := bind_eq_ok.mp done
    split at done
    · cases done
    next product _ =>
      obtain ⟨info, infoFound, done⟩ := bind_eq_ok.mp done
      obtain ⟨constructor, selected, done⟩ := bind_eq_ok.mp done
      obtain ⟨⟨arguments, curried⟩, curriedOk, done⟩ := bind_eq_ok.mp done
      cases done
      obtain ⟨satisfied, added, pending, items⟩ := curryAll_eq_ok curriedOk
      refine ⟨?_, added, by rw [pending, markedEq], fun item member => ?_⟩
      · simp only [bound, satisfied, markedEq, List.map_append, List.map_cons, List.map_nil, same]
      · have found := Catalog.find?_of_require infoFound
        exact Catalog.mem_parameterDescriptors found selected (items item member)

/-- Queued interfaces that are no constructor parameter of the catalog. -/
def foreign (catalog : Catalog) (session : Session) : Nat :=
  session.pending.countP (·.descriptor ∉ catalog.parameterDescriptors)

/-- Constructor parameters of the catalog whose key is not satisfied. -/
def unbound (catalog : Catalog) (session : Session) : Nat :=
  catalog.parameterDescriptors.countP (· ∉ session.bound)

/-- The session without the head of its queue. -/
def dequeued (session : Session) : Session := { session with pending := session.pending.tail }

/-- Implementing the head of the queue brings the end of the queue closer. -/
theorem bindFactory_closer {catalog : Catalog} {session next : Session}
    {interface : QualifiedType} {rest : List QualifiedType}
    (queue : session.pending = interface :: rest)
    (done : session.dequeued.bindFactory catalog interface = .ok next) :
    Prod.Lex (· < ·) (Prod.Lex (· < ·) (· < ·))
      (next.foreign catalog, next.unbound catalog, next.pending.length)
      (session.foreign catalog, session.unbound catalog, session.pending.length) := by
  have dequeuedForeign : session.dequeued.foreign catalog
      + (if interface.descriptor ∉ catalog.parameterDescriptors then 1 else 0)
      = session.foreign catalog := by
    simp [foreign, dequeued, queue, List.countP_cons]
  rcases bindFactory_eq_ok done with ⟨same, _⟩ | ⟨fresh, bound, added, pending, items⟩
  · subst same
    have unboundSame : session.dequeued.unbound catalog = session.unbound catalog := rfl
    have shorter : session.dequeued.pending.length < session.pending.length := by
      simp [dequeued, queue]
    rcases Nat.lt_or_eq_of_le (Nat.le.intro dequeuedForeign) with fewer | equal
    · exact Prod.Lex.left _ _ fewer
    · rw [equal, unboundSame]
      exact Prod.Lex.right _ (Prod.Lex.right _ shorter)
  · have nextForeign : next.foreign catalog = session.dequeued.foreign catalog := by
      simp only [foreign, pending, List.countP_append, Nat.add_eq_left, List.countP_eq_zero]
      exact fun item member => by simpa using items item member
    by_cases known : interface.descriptor ∈ catalog.parameterDescriptors
    · have equal : next.foreign catalog = session.foreign catalog := by
        simpa [known, nextForeign] using dequeuedForeign
      rw [equal]
      refine Prod.Lex.right _ (Prod.Lex.left _ _ (countP_lt_of_imp known ?_ ?_ ?_))
      · intro other _ unbound
        simp only [bound, List.mem_append, not_or, decide_eq_true_eq] at unbound ⊢
        exact unbound.1
      · simp [bound]
      · exact decide_eq_true (show interface.descriptor ∉ session.bound from fresh)
    · refine Prod.Lex.left _ _ ?_
      simp only [known, not_false_eq_true, ↓reduceIte] at dequeuedForeign
      omega

/-- Implements queued factory interfaces in order until the queue is empty. -/
def drain (catalog : Catalog) (session : Session) : Except CompileError Session :=
  match _ : session.pending with
  | [] => .ok session
  | interface :: _ =>
    match _ : session.dequeued.bindFactory catalog interface with
    | .error error => .error error
    | .ok next => next.drain catalog
termination_by (session.foreign catalog, session.unbound catalog, session.pending.length)
decreasing_by exact bindFactory_closer ‹_› ‹_›

end Session

end Wiring
