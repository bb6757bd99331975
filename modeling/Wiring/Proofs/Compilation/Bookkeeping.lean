import Wiring.Proofs.Compilation.Gathering

/-! # Bindings against slots

A key is satisfied in five phases, its slot is planned where it is satisfied or, for an alias, later,
and a surfaced value has a slot and is not satisfied at all. What keeps the two books together is that
each step says which bindings it notes and which it plans slots for, whatever the names are. Noted
bindings differ by descriptor, and so do needed keys.

Main statements: `Session.plans_bind`, all phases that come before the queue is drained,
`Session.plans_drain` and `Session.plans_surface`.
-/

namespace Wiring

/-- What is asked for, and how it is bound. -/
structure Binding where
  asked : QualifiedType
  kind : BindingKind
deriving DecidableEq

/-- The text that decides whether two bindings have one key. -/
def Binding.text (binding : Binding) : String := binding.asked.descriptor

/-- What a method provides, if it provides anything. -/
def Method.product? (method : Method) : Option QualifiedType :=
  if method.provides then some ⟨method.returns.getD .unit, method.qualifiers⟩ else none

/-- What the methods of a holder provide, in order of signature. -/
def Catalog.provided (catalog : Catalog) (holder : TypeExpr) : List QualifiedType :=
  match catalog.find? holder.name with
  | none => []
  | some info => info.sortedMethods.filterMap Method.product?

/-- Explicit bindings in the order in which they are noted: declared values, sources of aliases,
constructed types and what holders provide. -/
def Declarations.explicit (declarations : Declarations) (catalog : Catalog) : List Binding :=
  declarations.values.map (⟨·, .value⟩)
    ++ declarations.aliases.map (⟨·.dependency.qualified, .aliased⟩)
    ++ declarations.constructors.map (⟨.plain ·, .constructor⟩)
    ++ (declarations.providers.flatMap catalog.provided).map (⟨·, .provider⟩)

/-- The slot creates what is asked for by the constructor of that type or by a method that provides
it, and closes it if the catalog says that the type is closeable. -/
def CachedSlot.Creates (catalog : Catalog) (asked : QualifiedType) (slot : CachedSlot) : Prop :=
  slot.closeOnTeardown = catalog.isCloseable asked.type ∧
    match slot.recipe with
    | .constructor type => asked = .plain type
    | .provider _ holderType name => ∃ info method, catalog.find? holderType.name = some info ∧
        method ∈ info.methods ∧ method.name = name ∧ method.product? = some asked

/-- The slot is that of the binding. -/
structure Slot.Answers (catalog : Catalog) (binding : Binding) (slot : Slot) : Prop where
  text : slot.keyText? = some binding.text
  kind : slot.kind = binding.kind
  identifier : ∃ key : DirectKey, key.qualified = binding.asked ∧ slot.identifier = key.identifier
  created : ∀ cached, slot = .cached cached → cached.Creates catalog binding.asked

namespace Session

variable {session middle next added : Session} {catalog : Catalog}

def bindings (session : Session) : List Binding :=
  session.satisfied.map fun (key, kind) => ⟨key.qualified, kind⟩

/-- The slots that answer a key. -/
def keyed (session : Session) : List Slot := session.slots.filter (·.keyText?.isSome)

/-- Keys are bound once and noted as needed once, and ordinals are positions. -/
structure Tidy (session : Session) : Prop where
  bound : session.bound.Nodup
  needed : ∃ texts : List String, session.needed = texts.eraseDups
  ordinals : session.cached.map (·.ordinal) = (List.range session.cached.length).map .ofNat

/-- The next session has noted the first bindings and planned slots for the second ones, in any order
of slots. -/
structure Plans (catalog : Catalog) (session : Session) (noted planned : List Binding)
    (next : Session) : Prop where
  bindings : next.bindings = session.bindings ++ noted
  slots : ∃ made, next.keyed.Perm (session.keyed ++ made) ∧
    List.Forall₂ (Slot.Answers catalog) planned made
  tidy : session.Tidy → next.Tidy

section Compose

variable {noted planned noted' planned' : List Binding}

theorem Plans.refl (session : Session) : session.Plans catalog [] [] session where
  bindings := (List.append_nil _).symm
  slots := ⟨[], .of_eq (List.append_nil _).symm, .nil⟩
  tidy := id

/-- What two steps note and plan is noted and planned by both together. -/
theorem Plans.trans (first : session.Plans catalog noted planned middle)
    (second : middle.Plans catalog noted' planned' next) :
    session.Plans catalog (noted ++ noted') (planned ++ planned') next where
  bindings := by rw [second.bindings, first.bindings, List.append_assoc]
  slots := by
    obtain ⟨made, perm, answers⟩ := first.slots
    obtain ⟨made', perm', answers'⟩ := second.slots
    refine ⟨made ++ made', ?_, List.rel_append answers answers'⟩
    rw [← List.append_assoc]
    exact perm'.trans (perm.append_right made')
  tidy := second.tidy ∘ first.tidy

private theorem Plans.of_dequeued (plans : session.dequeued.Plans catalog noted planned next) :
    session.Plans catalog noted planned next where
  bindings := plans.bindings
  slots := plans.slots
  tidy tidy := plans.tidy ⟨tidy.bound, tidy.needed, tidy.ordinals⟩

/-- A fold notes and plans what each of its items does. -/
theorem plans_foldlM {α : Type} {step : Session → α → Except CompileError Session} {items : List α}
    {notes plans : α → List Binding} (done : items.foldlM step session = .ok next)
    (steps : ∀ item ∈ items, ∀ before after, step before item = .ok after →
      before.Plans catalog (notes item) (plans item) after) :
    session.Plans catalog (items.flatMap notes) (items.flatMap plans) next := by
  induction items generalizing session with
  | nil =>
    cases done
    exact .refl _
  | cons item rest ih =>
    obtain ⟨middle, first, done⟩ := foldlM_cons_eq_ok.mp done
    obtain ⟨head, others⟩ := List.forall_mem_cons.mp steps
    exact (head session middle first).trans (ih done others)

end Compose

section Additions

/-! ## Additions -/

theorem keyed_append (session added : Session) :
    (session ++ added).keyed.Perm (session.keyed ++ added.keyed) := by
  rw [keyed, keyed, keyed, ← List.filter_append]
  exact (slots_append session added).filter _

/-- An addition keeps a session tidy if it binds what is not bound, notes what is asked for, and
numbers its slots from where the session ends. -/
theorem Tidy.append {bound : List String} {keys : List Key} {queued : List QualifiedType}
    (tidy : session.Tidy) (fresh : (session.bound ++ added.bound).Nodup)
    (asking : Asking session.needed bound keys added.required queued)
    (ordinals : added.cached.map (·.ordinal) =
      (List.range' session.cached.length added.cached.length).map .ofNat) :
    (session ++ added).Tidy where
  bound := by rwa [bound_append]
  needed := by
    obtain ⟨texts, start⟩ := tidy.needed
    exact ⟨_, (needed_append session added).trans (asking.ordered texts start)⟩
  ordinals := by
    rw [append_cached, List.map_append, tidy.ordinals, ordinals, ← List.map_append,
      List.length_append, List.range_eq_range', List.range_eq_range']
    simpa using congrArg (List.map UInt64.ofNat)
      (@List.range'_append_1 0 session.cached.length added.cached.length)

variable {bound : List String} {keys : List Key} {queued : List QualifiedType} {key : DirectKey}
  {kind : BindingKind} {slot : Slot}

/-- An addition that binds one key and has its slot. -/
theorem plans_binding (fresh : key.descriptor ∉ session.bound)
    (satisfied : added.satisfied = [(key, kind)]) (keyed : added.keyed = [slot])
    (answers : slot.Answers catalog ⟨key.qualified, kind⟩)
    (asking : Asking session.needed bound keys added.required queued)
    (ordinals : added.cached.map (·.ordinal) =
      (List.range' session.cached.length added.cached.length).map .ofNat) :
    session.Plans catalog [⟨key.qualified, kind⟩] [⟨key.qualified, kind⟩] (session ++ added) where
  bindings := by simp [bindings, satisfied]
  slots := ⟨[slot], keyed ▸ keyed_append session added, .cons answers .nil⟩
  tidy tidy := by
    refine tidy.append ?_ asking ordinals
    rw [Session.bound, Session.bound, satisfied]
    exact tidy.bound.append (List.nodup_singleton _) (List.disjoint_singleton.mpr fresh)

/-- An addition that binds nothing. -/
theorem plans_asking {planned : List Binding} (satisfied : added.satisfied = [])
    (answers : List.Forall₂ (Slot.Answers catalog) planned added.keyed) (cached : added.cached = [])
    (asking : Asking session.needed bound keys added.required queued) :
    session.Plans catalog [] planned (session ++ added) where
  bindings := by simp [bindings, satisfied]
  slots := ⟨added.keyed, keyed_append session added, answers⟩
  tidy tidy := by
    refine tidy.append ?_ asking (by simp [cached])
    simpa [Session.bound, satisfied] using tidy.bound

end Additions

section Steps

/-! ## Steps -/

theorem asking_nothing (session : Session) : Asking session.needed session.bound [] [] [] := .nil

private theorem plans_seedValue {type : QualifiedType} (done : session.seedValue type = .ok next) :
    session.Plans catalog [⟨type, .value⟩] [⟨type, .value⟩] next := by
  obtain ⟨key, rfl, fresh, rfl⟩ := seedValue_adds done
  exact plans_binding fresh rfl rfl ⟨rfl, rfl, ⟨key, rfl, rfl⟩, nofun⟩ (asking_nothing session) rfl

/-- The slot of an alias is planned later. -/
theorem plans_seedAlias {declared : Alias} (done : session.seedAlias declared = .ok next) :
    session.Plans catalog [⟨declared.dependency.qualified, .aliased⟩] [] next := by
  obtain ⟨fresh, rfl⟩ := satisfy_adds done
  refine ⟨by simp [bindings], ⟨[], keyed_append .., .nil⟩, fun tidy => ?_⟩
  refine tidy.append ?_ (asking_nothing session) rfl
  exact tidy.bound.append (List.nodup_singleton _) (List.disjoint_singleton.mpr fresh)

private theorem plans_bindConstructor {type : TypeExpr}
    (done : bindConstructor catalog session type = .ok next) :
    session.Plans catalog [⟨.plain type, .constructor⟩] [⟨.plain type, .constructor⟩] next := by
  obtain ⟨info, constructor, key, keys, noted, queued, _, _, same, fresh, _, asking, rfl⟩ :=
    bindConstructor_adds done
  rw [← same]
  refine plans_binding fresh rfl rfl ⟨rfl, rfl, ⟨key, rfl, rfl⟩, ?_⟩ asking rfl
  rintro _ ⟨⟩
  exact ⟨by rw [same]; rfl, same⟩

private theorem plans_bindProvided {holderType : TypeExpr} {holder : DirectKey} {info : TypeInfo}
    {method : Method} (found : catalog.find? holderType.name = some info)
    (member : method ∈ info.sortedMethods)
    (done : bindProvided catalog holderType holder session method = .ok next) :
    session.Plans catalog (method.product?.toList.map (⟨·, .provider⟩))
      (method.product?.toList.map (⟨·, .provider⟩)) next := by
  rcases bindProvided_adds done with ⟨unprovided, rfl⟩ |
    ⟨product, key, keys, noted, queued, provides, returns, same, fresh, _, asking, rfl⟩
  · rw [Method.product?, unprovided]
    exact .refl _
  · have provided : method.product? = some key.qualified := by
      rw [Method.product?, provides, returns, same]
      rfl
    rw [provided]
    refine plans_binding fresh rfl rfl ⟨rfl, rfl, ⟨key, rfl, rfl⟩, ?_⟩ asking rfl
    rintro _ ⟨⟩
    exact ⟨by rw [same]; rfl, info, method, found, TypeInfo.mem_sortedMethods.mp member, rfl, provided⟩

private theorem plans_bindProvider {holderType : TypeExpr}
    (done : bindProvider catalog session holderType = .ok next) :
    session.Plans catalog ((catalog.provided holderType).map (⟨·, .provider⟩))
      ((catalog.provided holderType).map (⟨·, .provider⟩)) next := by
  obtain ⟨_, holder, noted, queued, info, _, _, _, asking, found, bound⟩ := bindProvider_adds done
  have plans := (plans_asking rfl .nil rfl asking).trans
    (plans_foldlM bound fun method member _ _ => plans_bindProvided found member)
  have provided : (catalog.provided holderType).map (Binding.mk · .provider) =
      info.sortedMethods.flatMap fun method => method.product?.toList.map (⟨·, .provider⟩) := by
    simp [Catalog.provided, found, List.filterMap_eq_flatMap_toList, List.map_flatMap]
  rw [provided]
  exact plans

private theorem plans_bindInjector {receiverType : TypeExpr} {receiver : DirectKey} {method : Method}
    (done : bindInjector catalog receiverType receiver session method = .ok next) :
    session.Plans catalog [] [] next := by
  rcases bindInjector_adds done with ⟨_, rfl⟩ | ⟨_, _, _, _, _, _, _, _, _, _, _, asking, rfl⟩
  · exact .refl _
  · exact plans_asking rfl .nil rfl asking

private theorem plans_bindInjectors {receiverType : QualifiedType}
    (done : bindInjectors catalog session receiverType = .ok next) :
    session.Plans catalog [] [] next := by
  obtain ⟨_, _, _, _, info, _, _, _, asking, _, bound⟩ := bindInjectors_adds done
  have plans := (plans_asking rfl .nil rfl asking).trans
    (plans_foldlM bound fun method _ _ _ => plans_bindInjector)
  have nothing : info.sortedMethods.flatMap (fun _ => ([] : List Binding)) = [] := by simp
  rwa [nothing] at plans

private theorem plans_addAlias {declared : Alias} (done : session.addAlias declared = .ok next) :
    session.Plans catalog [] [⟨declared.dependency.qualified, .aliased⟩] next := by
  obtain ⟨_, _, _, _, _, asking, rfl⟩ := addAlias_adds done
  exact plans_asking rfl (.cons ⟨rfl, rfl, ⟨_, rfl, rfl⟩, nofun⟩ .nil) rfl asking

/-- A factory interface is skipped when it is bound, and bound otherwise. -/
theorem plans_bindFactory {interface : QualifiedType}
    (done : session.bindFactory catalog interface = .ok next) :
    next = session ∨ session.Plans catalog [⟨interface, .factory⟩] [⟨interface, .factory⟩] next := by
  rcases bindFactory_adds done with ⟨_, rfl⟩ |
    ⟨key, _, _, _, _, _, _, _, _, rfl, fresh, _, _, _, _, _, _, _, asking, rfl⟩
  · exact .inl rfl
  · exact .inr (plans_binding fresh rfl rfl ⟨rfl, rfl, ⟨key, rfl, rfl⟩, nofun⟩ asking rfl)

end Steps

section Phases

/-! ## Phases -/

/-- The keys that are bound are those of the bindings. -/
theorem bound_eq_map_text (session : Session) : session.bound = session.bindings.map Binding.text := by
  simp [bound, bindings, Binding.text, DirectKey.descriptor, Function.comp_def]

/-- What is bound stays bound. -/
theorem Plans.bound_subset {noted planned : List Binding}
    (plans : session.Plans catalog noted planned next) : session.bound ⊆ next.bound := by
  rw [bound_eq_map_text, bound_eq_map_text, plans.bindings, List.map_append]
  exact List.subset_append_left _ _

/-- Before the queue is drained, the explicit bindings are noted, and each has its slot; those of
aliases come last. -/
theorem plans_bind {declarations : Declarations} (done : declarations.bind catalog = .ok session) :
    ∃ planned, planned.Perm (declarations.explicit catalog) ∧
      Plans catalog { pending := declarations.factories } (declarations.explicit catalog) planned
        session := by
  obtain ⟨_, _, _, _, _, values, sources, constructors, providers, receivers, aliases⟩ :=
    Declarations.phases_of_bind done
  have first : Plans catalog _ _ _ _ := plans_foldlM values fun _ _ _ _ => plans_seedValue
  have plans := first
    |>.trans (plans_foldlM sources fun _ _ _ _ => plans_seedAlias)
    |>.trans (plans_foldlM constructors fun _ _ _ _ => plans_bindConstructor)
    |>.trans (plans_foldlM providers fun _ _ _ _ => plans_bindProvider)
    |>.trans (plans_foldlM receivers fun _ _ _ _ => plans_bindInjectors)
    |>.trans (plans_foldlM aliases fun _ _ _ _ => plans_addAlias)
  have nothing {α : Type} (items : List α) : items.flatMap (fun _ => ([] : List Binding)) = [] := by
    simp
  have single {α : Type} (items : List α) (f : α → Binding) : items.flatMap (fun item => [f item]) =
    items.map f := List.map_eq_flatMap.symm
  simp only [nothing, single, ← List.map_flatMap, List.append_nil] at plans
  refine ⟨_, List.perm_iff_count.mpr fun binding => ?_, plans⟩
  simp only [Declarations.explicit, List.count_append]
  omega

/-- Draining the queue binds every interface that it holds, where that is not bound already, and plans
the slot of its factory. -/
theorem plans_drain (done : session.drain catalog = .ok next) :
    ∃ generated : List QualifiedType,
      session.Plans catalog (generated.map (⟨·, .factory⟩)) (generated.map (⟨·, .factory⟩)) next ∧
      ∀ interface ∈ session.pending, interface.descriptor ∈ next.bound := by
  fun_induction drain catalog session with
  | case1 session empty =>
    cases done
    exact ⟨[], .refl _, by simp [empty]⟩
  | case2 session interface rest queue error failed => cases done
  | case3 session interface rest queue middle made ih =>
    obtain ⟨generated, plans, drained⟩ := ih done
    have kept := plans.bound_subset
    have covered : ∀ item ∈ session.pending, item.descriptor ∈ next.bound := by
      rw [queue]
      refine List.forall_mem_cons.mpr ⟨?_, fun item member => drained item ?_⟩
      · rcases bindFactory_eq_ok made with ⟨rfl, bound⟩ | ⟨_, bound, _⟩
        · exact kept bound
        · exact kept (bound ▸ List.mem_append_right _ List.mem_cons_self)
      · have waiting : item ∈ session.dequeued.pending := by simpa [dequeued, queue] using member
        rcases bindFactory_eq_ok made with ⟨rfl, _⟩ | ⟨_, _, added, pending, _⟩
        · exact waiting
        · exact pending ▸ List.mem_append_left _ waiting
    rcases plans_bindFactory made with rfl | plansMade
    · exact ⟨generated, plans.of_dequeued, covered⟩
    · exact ⟨interface :: generated, (plansMade.trans plans).of_dequeued, covered⟩

/-- After all declarations a session is tidy. -/
theorem tidy_resolve {declarations : Declarations} (done : declarations.resolve catalog = .ok session) :
    session.Tidy := by
  obtain ⟨bound, bind, drain⟩ := bind_eq_ok.mp done
  obtain ⟨_, _, bindings⟩ := plans_bind bind
  obtain ⟨_, factories, _⟩ := plans_drain drain
  exact factories.tidy (bindings.tidy ⟨List.nodup_nil, ⟨[], rfl⟩, rfl⟩)

/-- Every declared factory interface is bound once the queue has been drained. -/
theorem bound_of_declared {declarations : Declarations} (bound : declarations.bind catalog = .ok middle)
    (drained : middle.drain catalog = .ok next) :
    ∀ interface ∈ declarations.factories, interface.descriptor ∈ next.bound := by
  intro interface declared
  obtain ⟨_, _, gathers⟩ := gathers_bind bound
  obtain ⟨generated, plans, covers⟩ := plans_drain drained
  by_cases early : interface.descriptor ∈ middle.bound
  · exact plans.bound_subset early
  · have unbound := QualifiedType.isUnbound_iff.mpr early
    have waiting : interface ∈ middle.pending.filter (·.isUnbound middle.bound) := by
      rw [gathers.pending _ (List.Subset.refl _)]
      exact List.mem_filter.mpr ⟨List.mem_append_left _ declared, unbound⟩
    exact covers interface (List.mem_of_mem_filter waiting)

def missing (session : Session) (needed : List (DirectKey × String)) : List DirectKey :=
  (needed.map (·.1)).filter (·.descriptor ∉ session.bound)

private theorem plans_addImplicit {explicitValues : Bool} {needed : List (DirectKey × String)}
    (done : needed.foldlM (addImplicit explicitValues) session = .ok next) :
    session.Plans catalog [] ((session.missing needed).map (⟨·.qualified, .value⟩)) next := by
  induction needed generalizing session with
  | nil =>
    cases done
    exact .refl _
  | cons entry rest ih =>
    obtain ⟨middle, first, others⟩ := foldlM_cons_eq_ok.mp done
    rcases addImplicit_adds first with ⟨bound, rfl⟩ | ⟨unbound, _, rfl⟩
    · have satisfied : middle.missing (entry :: rest) = middle.missing rest := by simp [missing, bound]
      rw [satisfied]
      exact ih others
    · have surfaced : session.missing (entry :: rest) = entry.1 :: session.missing rest := by
        simp [missing, unbound]
      have value : session.Plans catalog [] [⟨entry.1.qualified, .value⟩]
          (session ++ { values := [entry.1.value .implicit] }) :=
        plans_asking rfl (.cons ⟨rfl, rfl, ⟨entry.1, rfl, rfl⟩, nofun⟩ .nil) rfl (asking_nothing session)
      have same : (session ++ { values := [entry.1.value .implicit] }).missing rest =
          session.missing rest := by
        have unsatisfied : bound { values := [entry.1.value .implicit] } = [] := rfl
        rw [missing, bound_append, unsatisfied, List.append_nil]
        rfl
      have later := ih others
      rw [same] at later
      rw [surfaced]
      exact value.trans later

/-- What is needed and missing gets the slots of values, and stays unbound. -/
theorem plans_surface {explicitValues : Bool} (done : session.surface explicitValues = .ok next) :
    session.Plans catalog [] ((session.missing session.required).map (⟨·.qualified, .value⟩)) next :=
  plans_addImplicit done

/-- A tidy session notes no key twice. -/
theorem Tidy.nodup_needed (tidy : session.Tidy) : session.needed.Nodup := by
  obtain ⟨texts, needed⟩ := tidy.needed
  exact needed ▸ nodup_eraseDups texts

/-- The missing keys of a tidy session differ from each other and from those that are bound. -/
theorem Tidy.nodup_missing (tidy : session.Tidy) :
    (session.bound ++ (session.missing session.required).map (·.descriptor)).Nodup := by
  have part : ((session.missing session.required).map (·.descriptor)).Sublist session.needed := by
    have texts : session.needed = (session.required.map (·.1)).map (·.descriptor) := by
      rw [List.map_map]
      rfl
    exact texts ▸ List.filter_sublist.map _
  refine tidy.bound.append (part.nodup tidy.nodup_needed) fun text bound missing => ?_
  obtain ⟨key, listed, rfl⟩ := List.mem_map.mp missing
  exact of_decide_eq_true (List.mem_filter.mp listed).2 bound

end Phases

end Session

end Wiring
