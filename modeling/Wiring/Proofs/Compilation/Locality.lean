import Wiring.Proofs.Compilation.Assembly

/-! # Steps that do not look at each other

Whether a step of a compilation succeeds depends on little of what was done before: it must bind no
key that is bound already. Apart from that it fails on every session or on none, and it adds the
same to each, which can be read off what it adds to an empty one. So two steps that succeed one
after the other succeed the other way round as well, and leave sessions that hold the same, though
not in the same order.

A queued factory is left out of the comparison once its key is bound, since such an item is skipped;
whether it is queued at all depends on what came first. Slots that are created once are compared
without their positions.
-/

namespace Wiring

def CachedSlot.unnumbered (slot : CachedSlot) : CachedSlot := { slot with ordinal := 0 }

namespace Session

variable {α : Type} {session other third added next : Session}

section Similar

/-! ## Sessions that hold the same -/

/-- The same keys are bound and needed, and the same slots are planned. -/
structure Alike (session other : Session) : Prop where
  bound : session.bound.Perm other.bound
  needed : ∀ descriptor, descriptor ∈ session.needed ↔ descriptor ∈ other.needed
  values : session.values.Perm other.values
  aliases : session.aliases.Perm other.aliases
  cached : (session.cached.map CachedSlot.unnumbered).Perm (other.cached.map CachedSlot.unnumbered)
  factories : session.factories.Perm other.factories
  injectors : session.injectors.Perm other.injectors

/-- Of the queue an item counts that is still to be implemented, or that cannot be. -/
def Awaits (session : Session) (item : QualifiedType) : Prop :=
  item.type.isLazy = true ∨ item.descriptor ∉ session.bound

/-- The sessions hold the same and have the same work before them. -/
structure Similar (session other : Session) : Prop extends Alike session other where
  pending : ∀ item, session.Awaits item → (item ∈ session.pending ↔ item ∈ other.pending)

namespace Alike

theorem refl (session : Session) : session.Alike session :=
  ⟨.refl _, fun _ => .rfl, .refl _, .refl _, .refl _, .refl _, .refl _⟩

theorem symm (alike : session.Alike other) : other.Alike session :=
  ⟨alike.bound.symm, fun text => (alike.needed text).symm, alike.values.symm, alike.aliases.symm,
    alike.cached.symm, alike.factories.symm, alike.injectors.symm⟩

theorem trans (first : session.Alike other) (second : other.Alike third) : session.Alike third :=
  ⟨first.bound.trans second.bound, fun text => (first.needed text).trans (second.needed text),
    first.values.trans second.values, first.aliases.trans second.aliases,
    first.cached.trans second.cached, first.factories.trans second.factories,
    first.injectors.trans second.injectors⟩

theorem append {added' : Session} (alike : session.Alike other) (adds : added.Alike added') :
    (session ++ added).Alike (other ++ added') where
  bound := by simpa using alike.bound.append adds.bound
  needed text := by simp [alike.needed text, adds.needed text]
  values := alike.values.append adds.values
  aliases := alike.aliases.append adds.aliases
  cached := by simpa using alike.cached.append adds.cached
  factories := alike.factories.append adds.factories
  injectors := alike.injectors.append adds.injectors

theorem append_comm (session added : Session) : (session ++ added).Alike (added ++ session) where
  bound := by simpa using List.perm_append_comm
  needed text := by simp [or_comm]
  values := List.perm_append_comm
  aliases := List.perm_append_comm
  cached := by simpa using List.perm_append_comm
  factories := List.perm_append_comm
  injectors := List.perm_append_comm

end Alike

theorem Alike.awaits_iff (alike : session.Alike other) {item : QualifiedType} :
    session.Awaits item ↔ other.Awaits item :=
  or_congr_right (not_congr alike.bound.mem_iff)

private theorem Awaits.of_append {item : QualifiedType} (awaits : (session ++ added).Awaits item) :
    session.Awaits item ∧ added.Awaits item := by
  rcases awaits with deferred | unbound
  · exact ⟨.inl deferred, .inl deferred⟩
  · rw [bound_append, List.mem_append, not_or] at unbound
    exact ⟨.inr unbound.1, .inr unbound.2⟩

namespace Similar

theorem refl (session : Session) : session.Similar session := ⟨.refl _, fun _ _ => .rfl⟩

theorem symm (similar : session.Similar other) : other.Similar session :=
  ⟨similar.toAlike.symm,
    fun item awaits => (similar.pending item (similar.awaits_iff.mpr awaits)).symm⟩

theorem trans (first : session.Similar other) (second : other.Similar third) : session.Similar third :=
  ⟨first.toAlike.trans second.toAlike, fun item awaits =>
    (first.pending item awaits).trans (second.pending item (first.awaits_iff.mp awaits))⟩

theorem append {added' : Session} (similar : session.Similar other) (adds : added.Similar added') :
    (session ++ added).Similar (other ++ added') where
  toAlike := similar.toAlike.append adds.toAlike
  pending item awaits := by
    obtain ⟨first, second⟩ := awaits.of_append
    simp [similar.pending item first, adds.pending item second]

theorem append_comm (session added : Session) : (session ++ added).Similar (added ++ session) where
  toAlike := .append_comm session added
  pending item _ := by simp [or_comm]

end Similar

end Similar

section Local

/-! ## Local steps -/

/-- The next session holds what was there and what is added, and notes no key twice. -/
structure Gains (session added next : Session) : Prop where
  apart : session.bound.Disjoint added.bound
  similar : next.Similar (session ++ added)
  distinct : session.needed.Nodup → next.needed.Nodup

/-- What the step adds, it adds to every session that binds none of the keys that it binds; on all
others it fails. -/
def Local (step : Session → Except CompileError Session) : Prop := ∀ session,
  (∀ next, step session = .ok next → ∃ added, step {} = .ok added ∧ session.Gains added next) ∧
  ∀ added, step {} = .ok added → session.bound.Disjoint added.bound →
    ∃ next, step session = .ok next

/-- A step that binds no key and always succeeds. -/
theorem Local.of_total {add : Session → Session} (binds : (add {}).bound = [])
    (adds : ∀ session, (add session).Similar (session ++ add {}))
    (distinct : ∀ session, session.needed.Nodup → (add session).needed.Nodup) :
    Local fun session => .ok (add session) := by
  refine fun session => ⟨fun next done => ?_, fun _ _ _ => ⟨_, rfl⟩⟩
  cases done
  exact ⟨_, rfl, by simp [binds], adds session, distinct session⟩

theorem Local.pure : Local .ok :=
  of_total rfl (fun session => (append_empty session).symm ▸ .refl session) fun _ distinct => distinct

theorem Local.throw (error : CompileError) : Local fun _ => .error error :=
  fun _ => ⟨fun _ done => (by cases done), fun _ done => (by cases done)⟩

/-- What is known beforehand may be used. -/
theorem Local.ofExcept {result : Except CompileError α} {next : α → Session → Except CompileError Session}
    (rest : ∀ value, result = .ok value → Local (next value)) :
    Local fun session => result >>= fun value => next value session := by
  cases result with
  | ok value => exact rest value rfl
  | error error => exact .throw error

/-- What is bound next is what was bound and what the added part binds. -/
theorem Gains.bound (gains : session.Gains added next) :
    next.bound.Perm (session.bound ++ added.bound) := by
  simpa using gains.similar.bound

theorem Gains.disjoint_left (gains : session.Gains added next) {texts : List String} :
    next.bound.Disjoint texts ↔ session.bound.Disjoint texts ∧ added.bound.Disjoint texts := by
  rw [gains.bound.disjoint_left, List.disjoint_append_left]

private theorem Gains.disjoint_right (gains : session.Gains added next) {texts : List String} :
    texts.Disjoint next.bound ↔ texts.Disjoint session.bound ∧ texts.Disjoint added.bound := by
  rw [gains.bound.disjoint_right, List.disjoint_append_right]

/-- Two local steps make a local step. -/
theorem Local.andThen {first second : Session → Except CompileError Session} (start : Local first)
    (rest : Local second) : Local fun session => first session >>= second := by
  intro session
  constructor
  · intro last done
    obtain ⟨middle, begun, ended⟩ := bind_eq_ok.mp done
    obtain ⟨added, adds, gains⟩ := (start session).1 middle begun
    obtain ⟨further, addsFurther, gains'⟩ := (rest middle).1 last ended
    obtain ⟨apart, apart'⟩ := gains.disjoint_left.mp gains'.apart
    obtain ⟨whole, both⟩ := (rest added).2 further addsFurther apart'
    obtain ⟨again, same, gainsWhole⟩ := (rest added).1 whole both
    obtain rfl : further = again := by simpa [addsFurther] using same
    refine ⟨whole, bind_eq_ok.mpr ⟨added, adds, both⟩, ?_, ?_, fun distinct => ?_⟩
    · exact gainsWhole.disjoint_right.mpr ⟨gains.apart, apart⟩
    · have spread := gains'.similar.trans (gains.similar.append (.refl further))
      rw [append_assoc] at spread
      exact spread.trans (Similar.append (.refl session) gainsWhole.similar.symm)
    · exact gains'.distinct (gains.distinct distinct)
  · intro whole done apart
    obtain ⟨added, adds, both⟩ := bind_eq_ok.mp done
    obtain ⟨further, addsFurther, gainsWhole⟩ := (rest added).1 whole both
    obtain ⟨apart, apart'⟩ := gainsWhole.disjoint_right.mp apart
    obtain ⟨middle, begun⟩ := (start session).2 added adds apart
    obtain ⟨again, same, gains⟩ := (start session).1 middle begun
    obtain rfl : added = again := by simpa [adds] using same
    obtain ⟨last, ended⟩ := (rest middle).2 further addsFurther
      (gains.disjoint_left.mpr ⟨apart', gainsWhole.apart⟩)
    exact ⟨last, bind_eq_ok.mpr ⟨middle, begun, ended⟩⟩

/-- Local steps make a local sequence. -/
theorem Local.foldlM {step : Session → α → Except CompileError Session} {items : List α}
    (each : ∀ item ∈ items, Local (step · item)) : Local fun session => items.foldlM step session := by
  induction items with
  | nil => exact .pure
  | cons item rest ih =>
    simp only [List.foldlM_cons]
    exact .andThen (each item List.mem_cons_self)
      (ih fun other later => each other (List.mem_cons_of_mem _ later))

end Local

section Moves

/-! ## Moves are local -/

theorem local_satisfy (key : DirectKey) (kind : BindingKind) : Local (·.satisfy key kind) := by
  intro session
  constructor
  · intro next done
    obtain ⟨fresh, rfl⟩ := satisfy_adds done
    exact ⟨_, rfl, by simpa [bound] using fresh, .refl _, by simp⟩
  · rintro _ ⟨⟩ apart
    have fresh : key.descriptor ∉ session.bound := by simpa [bound] using apart
    exact ⟨_, satisfy_of_not_mem fresh⟩

private theorem local_note (requirer : String) (key : DirectKey) :
    Local fun session => .ok (session.note requirer key) := by
  have alone : note {} requirer key = { required := [(key, requirer)] } := rfl
  refine .of_total rfl (fun session => ?_) fun session distinct => ?_
  · rw [alone]
    by_cases known : key.descriptor ∈ session.needed
    · have same (text : String) : text ∈ session.needed ↔ text ∈ session.needed ∨ text = key.descriptor :=
        ⟨.inl, fun either => either.elim id fun same => same ▸ known⟩
      rw [note_of_mem known]
      refine ⟨⟨?_, fun text => ?_, ?_, ?_, ?_, ?_, ?_⟩, by simp⟩
      case refine_2 => simpa [needed] using same text
      all_goals simp [bound]
    · rw [note_of_not_mem known]
      exact .refl _
  · by_cases known : key.descriptor ∈ session.needed
    · rwa [note_of_mem known]
    · rw [note_of_not_mem known, needed_append]
      refine List.nodup_append.mpr ⟨distinct, by simp [needed], ?_⟩
      rintro text needed _ here rfl
      obtain rfl : text = key.descriptor := by simpa [Session.needed] using here
      exact known needed

private theorem local_enqueue (key : Key) : Local fun session => .ok (session.enqueue key) := by
  have alone : enqueue {} key =
      { pending := if key.isAutoFactory then [key.base.qualified] else [] } := by
    cases auto : key.isAutoFactory <;> simp [enqueue, auto, isSatisfied, bound]
  have binds : (enqueue {} key).bound = [] := by rw [alone]; rfl
  refine .of_total binds (fun session => ?_) fun session distinct => ?_
  case refine_2 =>
    unfold enqueue
    split <;> exact distinct
  rw [alone]
  unfold enqueue
  cases auto : key.isAutoFactory
  · have whole : session ++ ({ pending := [] } : Session) = session := append_empty session
    simpa [whole] using Similar.refl session
  cases satisfied : session.isSatisfied key.base
  · have whole : { session with pending := session.pending ++ [key.base.qualified] } =
        session ++ ({ pending := [key.base.qualified] } : Session) := by ext1 <;> simp
    simpa [← whole] using Similar.refl _
  · -- The factory is bound already, so its item would not count.
    have bound := isSatisfied_iff.mp satisfied
    have skipped : session.Similar (session ++ ({ pending := [key.base.qualified] } : Session)) := by
      refine ⟨⟨?_, ?_, ?_, ?_, ?_, ?_, ?_⟩, fun item awaits => ?_⟩
      case refine_8 =>
        have other : item ≠ key.base.qualified := by
          rintro rfl
          exact awaits.elim (by simp [key.base.notLazy]) (absurd bound)
        simp [other]
      all_goals simp [Session.bound, needed]
    simpa using skipped

/-- A slot that is planned without a look at the others. -/
theorem local_append (added : Session) (binds : added.bound = []) (asks : added.needed = []) :
    Local fun session => .ok (session ++ added) := by
  have alone : ({} : Session) ++ added = added := by ext1 <;> simp
  refine .of_total (by rw [alone]; exact binds) (fun session => ?_) fun session distinct => ?_
  · rw [alone]
    exact .refl _
  · rwa [needed_append, asks, List.append_nil]

private theorem local_addCached (key : DirectKey) (recipe : Recipe) (arguments : List Argument)
    (closeOnTeardown : Bool) :
    Local fun session => .ok (session.addCached key recipe arguments closeOnTeardown) := by
  refine .of_total rfl (fun session => ?_) fun _ distinct => distinct
  simp only [addCached_adds]
  refine ⟨⟨?_, ?_, ?_, ?_, ?_, ?_, ?_⟩, fun item _ => by simp⟩
  all_goals simp [bound, needed, DirectKey.cached, CachedSlot.unnumbered]

/-- Steps are local since all moves are. -/
theorem Assembled.isLocal {step : Session → Except CompileError Session} (assembled : Assembled step) :
    Local step := by
  induction assembled with
  | done => exact .pure
  | throw error => exact .throw error
  | satisfy key kind => exact local_satisfy key kind
  | note requirer key => exact local_note requirer key
  | enqueue key => exact local_enqueue key
  | addCached key recipe arguments closeOnTeardown =>
    exact local_addCached key recipe arguments closeOnTeardown
  | addSlots aliases factories injectors => exact local_append _ rfl rfl
  | andThen _ _ first second => exact .andThen first second

/-- Declaring a value is local. -/
theorem local_seedValue (type : QualifiedType) : Local (·.seedValue type) := by
  refine .ofExcept fun key _ => .andThen (local_satisfy key .value) ?_
  simp only [addValue_adds]
  exact local_append _ rfl rfl

end Moves

end Session

end Wiring
