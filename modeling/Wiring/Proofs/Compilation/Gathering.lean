import Wiring.Proofs.Compilation.Contribution

/-! # What a session gathers

Each step of a compilation gathers one contribution, and a phase gathers those of its declarations in
order. What has been gathered determines which keys are bound and needed, in which order, and what is
left of the queue.

Main statement: `Session.gathers_bind`, all phases that come before the queue is drained.
-/

namespace Wiring

namespace Session

open Contribution

variable {session middle next : Session} {part other : Contribution} {catalog : Catalog}

/-- The next session holds what the first one does, and what is contributed. -/
structure Gathers (session : Session) (part : Contribution) (next : Session) : Prop where
  bound : next.bound = session.bound ++ part.bound
  /-- A key is needed from its first reading on. -/
  needed : ∀ texts : List String, session.needed = texts.eraseDups →
    next.needed = (texts ++ part.needs.map (·.descriptor)).eraseDups
  /-- Nothing is missing from the queue unless it is bound, and nothing else has been added. -/
  pending : ∀ texts, next.bound ⊆ texts →
    next.pending.filter (·.isUnbound texts) =
      (session.pending ++ part.queue).filter (·.isUnbound texts)
  values : next.values = session.values ++ part.values
  factories : next.factories = session.factories ++ part.factories

theorem Gathers.refl (session : Session) : session.Gathers {} session where
  bound := (List.append_nil _).symm
  needed texts start := by simpa [needs] using start
  pending texts _ := by simp [queue]
  values := (List.append_nil _).symm
  factories := (List.append_nil _).symm

/-- What two steps gather is gathered by both together. -/
theorem Gathers.trans (first : session.Gathers part middle) (second : middle.Gathers other next) :
    session.Gathers (part ++ other) next where
  bound := by rw [second.bound, first.bound, append_bound, List.append_assoc]
  needed texts start := by
    rw [second.needed _ (first.needed texts start), append_needs, List.map_append, List.append_assoc]
  pending texts covered := by
    have before : middle.bound ⊆ texts := by
      intro text member
      apply covered
      rw [second.bound]
      exact List.mem_append_left _ member
    rw [second.pending texts covered, List.filter_append, first.pending texts before, append_queue,
      ← List.filter_append, List.append_assoc]
  values := by rw [second.values, first.values, Contribution.append_values, List.append_assoc]
  factories := by
    rw [second.factories, first.factories, Contribution.append_factories, List.append_assoc]

section Steps

/-! ## Steps -/

/-- An addition gathers the keys that are asked for along with it. -/
theorem gathers_append {added : Session}
    (asking : Asking session.needed (session.bound ++ part.bound) part.asks added.required
      added.pending)
    (bound : added.bound = part.bound) (values : added.values = part.values)
    (factories : added.factories = part.factories) : session.Gathers part (session ++ added) where
  bound := by rw [bound_append, bound]
  needed texts start := by
    rw [needed_append, needs, List.map_map]
    exact asking.ordered texts start
  pending texts covered := by
    rw [bound_append, bound] at covered
    rw [append_pending, List.filter_append, List.filter_append, asking.queued_eq, queue,
      List.filter_map, List.filter_map, List.filter_filter, List.filter_filter]
    congr 2
    refine List.filter_congr fun key _ => ?_
    -- What has been bound so far is bound in the end.
    have later : (session.bound ++ part.bound).contains key.base.descriptor = true →
        texts.contains key.base.qualified.descriptor = true := by
      rw [List.contains_iff_mem, List.contains_iff_mem]
      exact @covered _
    simp only [Function.comp, QualifiedType.isUnbound]
    cases known : (session.bound ++ part.bound).contains key.base.descriptor with
    | false => rw [Bool.not_false, Bool.and_true]
    | true => rw [later known, Bool.not_true, Bool.false_and, Bool.false_and]
  values := by rw [append_values, values]
  factories := by rw [append_factories, factories]

/-- An addition that satisfies nothing gathers the keys that are asked for along with it. -/
theorem gathers_asking {keys : List Key} {added : Session}
    (asking : Asking session.needed session.bound keys added.required added.pending)
    (bound : added.bound = []) (values : added.values = []) (factories : added.factories = []) :
    session.Gathers { asks := keys } (session ++ added) := by
  refine gathers_append ?_ bound values factories
  rw [Contribution.bound, List.map_nil, List.append_nil]
  exact asking

/-- Nothing has to be noted or queued when no key is asked for. -/
theorem Asking.nil {needed bound : List String} : Asking needed bound [] [] [] :=
  ⟨by simp, by simp, by simp, rfl⟩

/-- A fold gathers what each of its items brings. -/
theorem gathers_foldlM {α : Type} {step : Session → α → Except CompileError Session}
    {of : α → Contribution → Prop} {items : List α} (done : items.foldlM step session = .ok next)
    (steps : ∀ item ∈ items, ∀ before after, step before item = .ok after →
      ∃ part, of item part ∧ before.Gathers part after) :
    ∃ parts, List.Forall₂ of items parts ∧ session.Gathers (join parts) next := by
  induction items generalizing session with
  | nil =>
    cases done
    exact ⟨[], .nil, .refl _⟩
  | cons item rest ih =>
    obtain ⟨middle, first, done⟩ := foldlM_cons_eq_ok.mp done
    obtain ⟨head, others⟩ := List.forall_mem_cons.mp steps
    obtain ⟨part, brings, gathers⟩ := head session middle first
    obtain ⟨parts, bring, gathersRest⟩ := ih done others
    exact ⟨part :: parts, .cons brings bring, gathers.trans gathersRest⟩

private theorem gathers_seedValue {type : QualifiedType} (done : session.seedValue type = .ok next) :
    ∃ part, OfValue type part ∧ session.Gathers part next := by
  obtain ⟨key, same, _, rfl⟩ := seedValue_adds done
  exact ⟨_, ⟨key, same, rfl⟩, gathers_append .nil rfl rfl rfl⟩

private theorem gathers_seedAlias {declared : Alias} (done : session.seedAlias declared = .ok next) :
    ∃ part, OfSource declared part ∧ session.Gathers part next := by
  obtain ⟨_, rfl⟩ := satisfy_adds done
  exact ⟨_, rfl, gathers_append .nil rfl rfl rfl⟩

private theorem gathers_bindConstructor {type : TypeExpr}
    (done : bindConstructor catalog session type = .ok next) :
    ∃ part, OfConstructor catalog type part ∧ session.Gathers part next := by
  obtain ⟨info, constructor, key, keys, noted, queued, found, selected, same, _, built, asking, rfl⟩ :=
    bindConstructor_adds done
  exact ⟨_, ⟨info, constructor, key, keys, found, selected, same, built, rfl⟩,
    gathers_append asking rfl rfl rfl⟩

private theorem gathers_bindProvided {holderType : TypeExpr} {holder : DirectKey} {method : Method}
    (done : bindProvided catalog holderType holder session method = .ok next) :
    ∃ part, OfProvided method part ∧ session.Gathers part next := by
  rcases bindProvided_adds done with ⟨unprovided, rfl⟩ |
    ⟨product, key, keys, noted, queued, provides, returns, same, _, built, asking, rfl⟩
  · exact ⟨{}, .inl ⟨unprovided, rfl⟩, .refl _⟩
  · exact ⟨_, .inr ⟨product, key, keys, provides, returns, same, built, rfl⟩,
      gathers_append asking rfl rfl rfl⟩

private theorem gathers_bindProvider {holderType : TypeExpr}
    (done : bindProvider catalog session holderType = .ok next) :
    ∃ part, OfProvider catalog holderType part ∧ session.Gathers part next := by
  obtain ⟨full, holder, noted, queued, info, built, _, _, asking, found, bound⟩ := bindProvider_adds done
  obtain ⟨parts, provided, gathers⟩ := gathers_foldlM bound fun method _ _ _ => gathers_bindProvided
  exact ⟨_, ⟨full, info, parts, built, found, provided, rfl⟩,
    (gathers_asking asking rfl rfl rfl).trans gathers⟩

private theorem gathers_bindInjector {receiverType : TypeExpr} {receiver : DirectKey} {method : Method}
    (done : bindInjector catalog receiverType receiver session method = .ok next) :
    ∃ part, OfInjected catalog method part ∧ session.Gathers part next := by
  rcases bindInjector_adds done with ⟨unmarked, rfl⟩ |
    ⟨interface, implemented, offered, wanted, noted, queued, marked, single, offers, wants, _, asking,
      rfl⟩
  · exact ⟨{}, .inl ⟨unmarked, rfl⟩, .refl _⟩
  · exact ⟨_, .inr ⟨interface, implemented, _, marked, single, ⟨offered, wanted, offers, wants, rfl⟩,
      rfl⟩, gathers_asking asking rfl rfl rfl⟩

private theorem gathers_bindInjectors {receiverType : QualifiedType}
    (done : bindInjectors catalog session receiverType = .ok next) :
    ∃ part, OfReceiver catalog receiverType part ∧ session.Gathers part next := by
  obtain ⟨full, receiver, noted, queued, info, built, _, _, asking, found, bound⟩ :=
    bindInjectors_adds done
  obtain ⟨parts, injected, gathers⟩ := gathers_foldlM bound fun method _ _ _ => gathers_bindInjector
  exact ⟨_, ⟨full, info, parts, built, found, injected, rfl⟩,
    (gathers_asking asking rfl rfl rfl).trans gathers⟩

private theorem gathers_addAlias {declared : Alias} (done : session.addAlias declared = .ok next) :
    ∃ part, OfAlias declared part ∧ session.Gathers part next := by
  obtain ⟨full, noted, queued, built, _, asking, rfl⟩ := addAlias_adds done
  exact ⟨_, ⟨full, built, rfl⟩, gathers_asking asking rfl rfl rfl⟩

/-- A factory interface is skipped when it is bound, and implemented otherwise. -/
theorem gathers_bindFactory {interface : QualifiedType}
    (done : session.bindFactory catalog interface = .ok next) :
    (interface.descriptor ∈ session.bound ∧ next = session) ∨
      (interface.descriptor ∉ session.bound ∧
        ∃ part, OfFactory catalog interface part ∧ session.Gathers part next) := by
  rcases bindFactory_adds done with skipped | ⟨key, method, product, info, constructor, offered,
    wanted, noted, queued, rfl, fresh, single, returns, found, selected, offers, wants, _, asking, rfl⟩
  · exact .inl skipped
  · exact .inr ⟨fresh, _, ⟨key, method, product, info, constructor, _, rfl, single, returns, found,
      selected, ⟨offered, wanted, offers, wants, rfl⟩, rfl⟩, gathers_append asking rfl rfl rfl⟩

end Steps

section Phases

/-! ## Phases -/

/-- Before the queue is drained, what everything declared brings has been gathered. -/
theorem gathers_bind {declarations : Declarations} (done : declarations.bind catalog = .ok session) :
    ∃ bindings, declarations.Contribute catalog bindings ∧
      Gathers { pending := declarations.factories } bindings session := by
  obtain ⟨_, _, _, _, _, values, sources, constructors, providers, receivers, aliases⟩ :=
    Declarations.phases_of_bind done
  obtain ⟨valueParts, ofValues, first⟩ := gathers_foldlM values fun _ _ _ _ => gathers_seedValue
  obtain ⟨sourceParts, ofSources, second⟩ := gathers_foldlM sources fun _ _ _ _ => gathers_seedAlias
  obtain ⟨constructorParts, ofConstructors, third⟩ :=
    gathers_foldlM constructors fun _ _ _ _ => gathers_bindConstructor
  obtain ⟨providerParts, ofProviders, fourth⟩ :=
    gathers_foldlM providers fun _ _ _ _ => gathers_bindProvider
  obtain ⟨receiverParts, ofReceivers, fifth⟩ :=
    gathers_foldlM receivers fun _ _ _ _ => gathers_bindInjectors
  obtain ⟨aliasParts, ofAliases, last⟩ := gathers_foldlM aliases fun _ _ _ _ => gathers_addAlias
  refine ⟨_, ⟨valueParts, sourceParts, constructorParts, providerParts, receiverParts, aliasParts,
    ofValues, ofSources, ofConstructors, ofProviders, ofReceivers, ofAliases, rfl⟩, ?_⟩
  simp only [join_append]
  exact ((((first.trans second).trans third).trans fourth).trans fifth).trans last

end Phases

end Session

end Wiring
