import Wiring.Proofs.Scope.Creation
import Wiring.Proofs.Scope.Shutting

/-! # A scope that is closed stays closed

As long as no recipe closes the scope, its first closing divides a run. Behind it no recipe is
started, no slot becomes cached and nothing is taken for the teardown, whoever asks and however
deeply. What is settled is still answered, under each of its names; a slot that is still empty fails
without reading anything, and so does every call that gives the right number of arguments. A handle
to a scope that nobody refers to any more fails with its own name, whatever it leads to.

Main statement: `Scope.closed_for_good`.
-/

namespace Wiring

variable {σ V : Type}

namespace Scope

/-- How a client is answered once closing has begun, and what is left of each operation. -/
structure Shut (scope : Scope σ V) (w : World σ V) : Prop where
  ready : w.held = true → ∀ identifier value,
    scope.served? (scope.target identifier) = some (.ready value) →
      scope.operate (.read identifier) w = (.shared value, w)
  cached : w.held = true → ∀ identifier slot value,
    scope.served? (scope.target identifier) = some (.cached slot) →
      w.cells (scope.target identifier) = .cached value →
        scope.operate (.read identifier) w = (.shared value, w)
  failed : w.held = true → ∀ identifier slot failure,
    scope.served? (scope.target identifier) = some (.cached slot) →
      w.cells (scope.target identifier) = .failed failure →
        scope.operate (.read identifier) w = (.failed failure, w)
  empty : w.held = true → ∀ identifier slot,
    scope.served? (scope.target identifier) = some (.cached slot) →
      w.cells (scope.target identifier) = .empty →
        scope.operate (.read identifier) w =
          (.failed (.scopeClosed (scope.target identifier)),
            w.setCell (scope.target identifier) (.failed (.scopeClosed (scope.target identifier))))
  factory slot (given : List (Instance V)) : given.length = slot.parameters.length →
    scope.operate (.callFactory slot given) w = (.failed (.scopeClosed slot.identifier), w)
  injector slot (given : List (Instance V)) : given.length = slot.parameters.length →
    scope.operate (.callInjector slot given) w = (.failed (.scopeClosed slot.identifier), w)
  released : w.held = false → ∀ identifier,
    scope.operate (.read identifier) w = (.failed (.scopeClosed identifier), w)

section Operations

variable {scope : Scope σ V} {w : World σ V} {operation : Operation V} {answer : Answer V}

/-- What an operation comes to at the lowest level, and that there is nothing to be settled. -/
theorem operate_eq {after : World σ V}
    (performed : scope.performWith (scope.handler (scope.potential w + 1)) operation w =
      some (answer, after))
    (alive : after.alive = after.held) : scope.operate operation w = (answer, after) := by
  have same := (performWith_handler operation (Nat.lt_succ_self _)).symm.trans performed
  simp only [operate, Option.some_inj.mp same, settle_of_attended alive.symm.trans]
  rfl

variable (closed : w.teardown.closed = true) (alive : w.alive = w.held)

include closed alive

private theorem operate_read_of_closed (held : w.held = true) (identifier : String) :
    scope.operate (.read identifier) w =
      (scope.readShut identifier w).map (·.answer .shared .failed) id := by
  have read : (scope.handler (scope.potential w + 1)).read identifier w =
      some (scope.readShut identifier w) := read_of_closed closed identifier
  have attended : (scope.readShut identifier w).2.alive = (scope.readShut identifier w).2.held := by
    rcases scope.readShut_world identifier w with same | ⟨slot, _, settled⟩
    · rw [same]
      exact alive
    · rw [settled]
      exact alive
  refine operate_eq ?_ attended
  simp only [performWith, Handler.readAlive, alive, held, ↓reduceIte, read]
  rfl

private theorem shut_of_closed : scope.Shut w where
  ready held identifier value served := by
    rw [operate_read_of_closed closed alive held, readShut, served]
    rfl
  cached held identifier slot value served cell := by
    rw [← (mem_cached_of_served? served).2] at cell
    rw [operate_read_of_closed closed alive held, readShut, served]
    simp only [cell]
    rfl
  failed held identifier slot failure served cell := by
    rw [← (mem_cached_of_served? served).2] at cell
    rw [operate_read_of_closed closed alive held, readShut, served]
    simp only [cell]
    rfl
  empty held identifier slot served cell := by
    have same := (mem_cached_of_served? served).2
    rw [← same] at cell
    rw [operate_read_of_closed closed alive held, readShut, served]
    simp only [cell, ← same]
    rfl
  factory slot given arity := by
    refine operate_eq ?_ alive
    simp only [performWith, callFactory_of_closed closed, arity, ↓reduceIte]
    rfl
  injector slot given arity := by
    refine operate_eq ?_ alive
    simp only [performWith, callInjector_of_closed closed, arity, ↓reduceIte]
    rfl
  released dropped identifier := by
    refine operate_eq ?_ alive
    simp only [performWith, Handler.readAlive, alive, dropped, Bool.false_eq_true, ↓reduceIte]
    rfl

end Operations

/-- As long as no recipe closes the scope, the first closing divides a run: before it, what is asked
for is also answered; behind it, no recipe is started, and every read is answered as it is in a scope
that is closed. From then on, whatever the client does, nothing is taken any more, and the cells that
are not empty stay as they are. A scope that the client has given up is closed. -/
theorem closed_for_good (scope : Scope σ V) (free : scope.recipes.All Program.CloseFree) (host : σ)
    (operations : List (Operation V)) :
    ∃ answers last, scope.chronicle host operations = some (answers, last) ∧
      scope.run operations (start host) = (answers, last.plain) ∧
      (∃ early late, last.events = early ++ late ∧ (∀ event ∈ early, event.Heeds scope false) ∧
        (∀ event ∈ late, event.Heeds scope true) ∧ (last.teardown.closed = false → late = [])) ∧
      (last.held = false → last.teardown.closed = true) ∧
      (last.teardown.closed = true → scope.Shut last.plain ∧
        ∀ later, ∃ others final,
          scope.chronicle host (operations ++ later) = some (answers ++ others, final) ∧
            last.plain.Spares final.plain ∧
            ∃ events, final.events = last.events ++ events ∧
              ∀ event ∈ events, event.Heeds scope true) := by
  obtain ⟨answers, last, written, plain⟩ := scope.exists_chronicle host operations
  obtain ⟨divides, attending⟩ := divides_runWith free written
  obtain ⟨early, late, told, open_, shut, _, idle⟩ := divides.told
  have attended : last.Attended := attending ⟨rfl, nofun⟩
  refine ⟨answers, last, written, plain, ⟨early, late, told, open_, shut, idle⟩, attended.closed,
    fun closed => ⟨shut_of_closed closed attended.alive, fun later => ?_⟩⟩
  obtain ⟨replies, final, whole, _⟩ := scope.exists_chronicle host (operations ++ later)
  have split := whole
  rw [chronicle, runWith_append, show scope.chronicled.runWith _ operations _ = some (answers, last)
    from written] at split
  obtain ⟨⟨others, ending⟩, going, same⟩ := Option.map_eq_some_iff.mp split
  obtain ⟨rfl, rfl⟩ := Prod.mk.inj same
  have behind := (divides_runWith free going).1
  obtain ⟨none, events, more, _, shutting, unopened, _⟩ := behind.told
  obtain rfl := unopened closed
  have spares := behind.spares closed
  exact ⟨others, ending, whole, ⟨spares.teardown, spares.cells⟩, events, more, shutting⟩

theorem check_studio : studio.check = .ok () := by
  have acyclic : studio.plan.checkCycles = .ok () := by cbv
  rw [check, checkPlan, acyclic]
  rfl

theorem closeFree_studio : studio.recipes.All Program.CloseFree := by
  refine ⟨fun entry member arguments => ?_, List.forall_mem_nil _⟩
  simp only [studio, List.mem_cons, List.not_mem_nil, or_false] at member
  rcases member with rfl | rfl | rfl
  · trivial
  · intro _ answer
    cases answer <;> trivial
  · trivial

theorem closed_studio :
    let operations : List (Operation Bool) := [.read "light", .close]
    let last : World Unit Bool := (studio.run operations (start ())).2
    studio.check = .ok () ∧ studio.recipes.All Program.CloseFree ∧
      studio.operate (.read "light") last = (.shared ⟨.made 0, .host true⟩, last) ∧
      studio.operate (.read "switch") last =
        (.failed (.scopeClosed "switch"), last.setCell "switch" (.failed (.scopeClosed "switch"))) := by
  intro operations last
  obtain ⟨answers, world, _, plain, _, _, behind⟩ := closed_for_good studio closeFree_studio () operations
  have same : world.plain = last := (congrArg Prod.snd plain).symm
  have closed : world.teardown.closed = true := (congrArg (·.teardown.closed) same).trans rfl
  have shut := (behind closed).1
  rw [same] at shut
  exact ⟨check_studio, closeFree_studio, shut.cached rfl "light" _ _ rfl rfl, shut.empty rfl "switch" _ rfl rfl⟩

/-- Arguments are counted first: also a factory that has outlived its scope, called with too many,
fails for their number. -/
theorem miscounted_studio :
    let dimming : FactorySlot :=
      ⟨"dimming", "Dimming", "Dimming", "dim", [], .named "Dimmer", [.slot "light"]⟩
    let operations : List (Operation Bool) := [.read "lamp", .release]
    let last : World Unit Bool := (studio.run operations (start ())).2
    studio.check = .ok () ∧ studio.recipes.All Program.CloseFree ∧ dimming ∈ studio.plan.factories ∧
      last.held = false ∧ last.teardown.closed = true ∧
      (studio.operate (.callFactory dimming [⟨.made 0, .host true⟩]) last).1 =
        .failed (.arityMismatch "dimming" 0 1) ∧
      (studio.operate (.callFactory dimming [⟨.made 0, .host true⟩]) last).1 ≠
        .failed (.scopeClosed "dimming") := by
  intro dimming operations last
  have answered : (studio.operate (.callFactory dimming [⟨.made 0, .host true⟩]) last).1 =
      .failed (.arityMismatch "dimming" 0 1) := by rfl
  refine ⟨check_studio, closeFree_studio, List.mem_singleton.mpr rfl, rfl, rfl, answered, ?_⟩
  rw [answered]
  exact nofun

end Scope

end Wiring
