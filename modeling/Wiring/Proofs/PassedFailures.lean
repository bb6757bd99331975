import Wiring.Proofs.Scope.Testimony

/-! # How failures are passed on

A slot that meets the failure of another one fails with it, whichever way it meets it and however long
the way from where the failure arose: no slot renames it, wraps it again or drops it. An error of a
recipe's own is wrapped at the slot of that recipe, and there alone. Whoever reads a slot that has failed
is told the same failure for good.

Main statement: `Scope.failures_pass`.
-/

namespace Wiring

variable {σ V : Type}

namespace Scope

/-- The chronicle tells of a creation of the outer slot that meets a failure of the inner one: it reads
an identifier that the inner slot is served under, and is answered the failure that is in the cell of
that slot by then. -/
inductive Met (scope : Scope σ V) (events : List (Event σ V)) (outer inner : CachedSlot) : Prop
  | intro {identifier via : String} {before after asked met : World σ V} {error : RuntimeError}
      {reply : Reply RuntimeError (Instance V)}
      (told : .answered identifier before reply after ∈ events)
      (served : scope.served? (scope.target identifier) = some (.cached outer))
      (meets : scope.Meets outer before via asked error met)
      (leads : scope.served? (scope.target via) = some (.cached inner))
      (failed : met.cells inner.identifier = .failed error)

/-- The slot has failed for good. The reads that the chronicle tells of are answered so, but for those that
unwind and those that the slot itself asks for while it is created. The client's own reads in the run are
answered so, and those that the client makes after whatever else happens. -/
structure Fails (scope : Scope σ V) (host : σ) (operations : List (Operation V)) (last : Recorded σ V)
    (slot : CachedSlot) (error : RuntimeError) : Prop where
  failed : last.cells slot.identifier = .failed error
  answered identifier before reply after : .answered identifier before reply after ∈ last.events →
    scope.served? (scope.target identifier) = some (.cached slot) →
    before.cells slot.identifier ≠ .creating → (∀ text, reply ≠ .panic text) → reply = .error error
  told earlier identifier later answer : operations = earlier ++ .read identifier :: later →
    scope.served? (scope.target identifier) = some (.cached slot) →
    (scope.run earlier (start host)).2.alive = true →
    (scope.run operations (start host)).1[earlier.length]? = some answer →
    (∀ text, answer ≠ .panicked text) → answer = .failed error
  replayed identifier later : scope.served? (scope.target identifier) = some (.cached slot) →
    (scope.run later last.plain).2.alive = true →
    (scope.operate (.read identifier) (scope.run later last.plain).2).1 = .failed error

variable {scope : Scope σ V} {slot outer inner : CachedSlot} {w before after last : World σ V}
  {identifier : String} {error : RuntimeError} {events : List (Event σ V)}
  {reply : Reply RuntimeError (Instance V)}

/-! ## Reads of one slot -/

/-- A read that ends at a cached slot is an access of this slot. -/
theorem unbounded_read_of_served (served : scope.served? (scope.target identifier) = some (.cached slot)) :
    scope.unbounded.read identifier = scope.access scope.unbounded slot := by
  rw [unbounded_read, Scope.read, served]

/-- A slot that has failed in the end was answered so in every read. -/
theorem reply_of_failed (attested : (Event.answered identifier before reply after).Attested scope last)
    (served : scope.served? (scope.target identifier) = some (.cached slot))
    (failed : last.cells slot.identifier = .failed error)
    (begun : before.cells slot.identifier ≠ .creating) (returns : ∀ text, reply ≠ .panic text) :
    reply = .error error := by
  obtain ⟨ran, kept⟩ := attested
  rw [unbounded_read_of_served served] at ran
  rcases access_cases ran with ⟨answer, answered, rfl, rfl⟩ | ⟨_, middle, _, rfl⟩
  · cases cell : after.cells slot.identifier with
    | empty => simp [cell, Cell.answer?] at answered
    | creating => exact (begun cell).elim
    | cached value =>
      have same := kept slot.identifier (.ok value) (by rw [cell]; rfl)
      rw [failed, cell] at same
      cases same
    | failed other =>
      have same := kept slot.identifier (.error other) (by rw [cell]; rfl)
      rw [failed, cell] at same
      cases same
      simp only [cell, Cell.answer?, Option.some.injEq] at answered
      rw [← answered]
      rfl
  · have settled := kept slot.identifier
    rw [World.cells_setCell_self, failed] at settled
    cases reply with
    | ok value => cases settled (.ok value) rfl
    | error other =>
      cases settled (.error other) rfl
      rfl
    | panic text => exact (returns text rfl).elim

/-- What the client is answered is the reply to the read. -/
theorem perform_read (alive : w.alive = true) (ran : scope.unbounded.read identifier w = some (reply, after)) :
    scope.perform (.read identifier) w = (reply.answer .shared .failed, after) := by
  have performed := performWith_handler (.read identifier) (Nat.lt_succ_self (scope.potential w))
  have read : (scope.handler (scope.potential w + 1)).read identifier w = some (reply, after) := ran
  simp only [performWith, Handler.readAlive, alive, ↓reduceIte, read] at performed
  exact (Option.some.inj performed).symm

/-- The client is told the failure of a slot. -/
theorem operate_of_failed (served : scope.served? (scope.target identifier) = some (.cached slot))
    (failed : w.cells slot.identifier = .failed error) (alive : w.alive = true) (held : w.held = true) :
    (scope.operate (.read identifier) w).1 = .failed error := by
  have read : scope.unbounded.read identifier w = some (.error error, w) := by
    rw [unbounded_read_of_served served]
    simp only [access, failed, Cell.answer?]
    rfl
  simp only [operate, perform_read alive read, settle_of_attended fun _ => held]
  rfl

private theorem grounds_settling (scope : Scope σ V) (w : World σ V) :
    Grounds scope w (scope.settle w).2 := by
  have below := Nat.lt_succ_self (scope.potential w)
  have closes := (grounding_handler scope (scope.potential w + 1)).closes
  exact within_settleWith (.same rfl) closes .trans (.same rfl) (settleWith_handler below)

/-- Operations are answered one after another. -/
theorem run_append (earlier later : List (Operation V)) (w : World σ V) :
    scope.run (earlier ++ later) w =
      ((scope.run earlier w).1 ++ (scope.run later (scope.run earlier w).2).1,
        (scope.run later (scope.run earlier w).2).2) := by
  induction earlier generalizing w with
  | nil => rfl
  | cons operation rest ih => simp only [List.cons_append, run, ih]

private theorem length_run (operations : List (Operation V)) (w : World σ V) :
    (scope.run operations w).1.length = operations.length := by
  induction operations generalizing w with
  | nil => rfl
  | cons operation rest ih => simp only [run, List.length_cons, ih]

/-- An operation is answered in the world that the ones before it lead to. -/
theorem getElem?_run (earlier later : List (Operation V)) (operation : Operation V) (w : World σ V) :
    (scope.run (earlier ++ operation :: later) w).1[earlier.length]? =
      some (scope.operate operation (scope.run earlier w).2).1 := by
  rw [run_append, List.getElem?_append_right (by rw [length_run]), length_run, Nat.sub_self]
  rfl

/-- The client is told so also before, unless it reads a slot that is being created. -/
theorem answer_of_failed {later : List (Operation V)}
    (served : scope.served? (scope.target identifier) = some (.cached slot))
    (failed : (scope.run (.read identifier :: later) w).2.cells slot.identifier = .failed error)
    (alive : w.alive = true)
    (returns : ∀ text, (scope.operate (.read identifier) w).1 ≠ .panicked text) :
    (scope.operate (.read identifier) w).1 = .failed error := by
  obtain ⟨reply, after, ran, _⟩ :=
    (answers_handler scope _).read identifier w (Nat.lt_succ_self (scope.potential w))
  have same : scope.perform (.read identifier) w = (reply.answer .shared .failed, after) :=
    perform_read alive ran
  have kept : Grounds scope after (scope.run (.read identifier :: later) w).2 := by
    simp only [run, operate, same]
    exact (scope.grounds_settling after).trans (scope.grounds_run later _)
  have attested : (Event.answered identifier w reply after).Attested scope
      (scope.run (.read identifier :: later) w).2 :=
    ⟨ran, fun name result settled => kept.cells name (Cell.isEmpty_of_outcome? settled)⟩
  have begun : w.cells slot.identifier ≠ .creating := fun creating => by
    have still := (scope.grounds_run (.read identifier :: later) w).cells slot.identifier (by
      rw [creating]
      rfl)
    rw [failed, creating] at still
    cases still
  have answered : (scope.operate (.read identifier) w).1 = reply.answer .shared .failed := by
    simp only [operate, same] at returns ⊢
    refine (Answer.settled_cases _ _).resolve_right ?_
    rintro ⟨text, _, panics⟩
    exact returns text panics
  rw [answered] at returns ⊢
  have replied := reply_of_failed attested served failed begun fun text panics =>
    returns text (by rw [panics]; rfl)
  rw [replied]
  rfl

/-- A slot whose cell has failed at the end of a run has failed for good. -/
theorem fails_of_failed {host : σ} {operations : List (Operation V)} {answers : List (Answer V)}
    {last : Recorded σ V} (ran : scope.run operations (start host) = (answers, last.plain))
    (attested : ∀ event ∈ last.events, event.Attested scope last.plain)
    (failed : last.cells slot.identifier = .failed error) :
    scope.Fails host operations last slot error where
  failed := failed
  answered identifier before reply after member served :=
    reply_of_failed (attested _ member) served failed
  told earlier identifier later answer split served alive listed returns := by
    rw [split, getElem?_run] at listed
    obtain rfl := Option.some.inj listed
    rw [split, run_append] at ran
    have ended : (scope.run (.read identifier :: later) (scope.run earlier (start host)).2).2.cells
        slot.identifier = .failed error := by
      rw [congrArg Prod.snd ran]
      exact failed
    exact answer_of_failed served ended alive returns
  replayed identifier later served alive := by
    have ended : (scope.run operations (start host)).2 = last.plain := congrArg Prod.snd ran
    have attended := scope.held_of_alive_run operations (w := start host) fun _ => rfl
    have held := scope.held_of_alive_run later (ended ▸ attended) alive
    refine operate_of_failed served ?_ alive held
    have kept := (scope.grounds_run later last.plain).cells slot.identifier (by
      rw [show last.plain.cells slot.identifier = .failed error from failed]
      rfl)
    exact kept.trans failed

/-! ## Chains of slots -/

/-- What has been met is the failure of both slots, and the outer one was answered it when it was
created. -/
theorem Met.passes (attested : ∀ event ∈ events, event.Attested scope last)
    (met : scope.Met events outer inner) :
    ∃ error identifier before after, last.cells inner.identifier = .failed error ∧
      last.cells outer.identifier = .failed error ∧
      .answered identifier before (.error error) after ∈ events ∧
      scope.served? (scope.target identifier) = some (.cached outer) ∧
      before.cells outer.identifier = .empty := by
  obtain ⟨told, served, meets, leads, failed⟩ := met
  obtain ⟨ran, kept⟩ := attested _ told
  obtain ⟨after, accessed, passed, settled⟩ := access_of_meets meets
  rw [unbounded_read_of_served served, accessed, Option.some_inj, Prod.mk.injEq] at ran
  obtain ⟨rfl, rfl⟩ := ran
  have stays {slot : String} {error : RuntimeError} (failed : after.cells slot = .failed error) :
      last.cells slot = .failed error :=
    (kept slot (.error error) (by rw [failed]; rfl)).trans failed
  have met := (settled _ _ (by rw [failed]; rfl)).trans failed
  exact ⟨_, _, _, _, stays met, stays passed, told, served, meets.empty⟩

/-- The failure of the last slot of a chain is that of all slots of the chain. -/
theorem failed_of_chain {chain : List CachedSlot} {innermost : CachedSlot}
    (attested : ∀ event ∈ events, event.Attested scope last) (linked : chain.IsChain (scope.Met events))
    (ends : chain.getLast? = some innermost) (failed : last.cells innermost.identifier = .failed error) :
    (∀ slot ∈ chain, last.cells slot.identifier = .failed error) ∧
      ∀ slot ∈ chain.dropLast, ∃ identifier before after,
        .answered identifier before (.error error) after ∈ events ∧
        scope.served? (scope.target identifier) = some (.cached slot) ∧
        before.cells slot.identifier = .empty := by
  induction chain with
  | nil => cases ends
  | cons outer rest ih =>
    cases rest with
    | nil =>
      cases ends
      exact ⟨List.forall_mem_singleton.mpr failed, List.forall_mem_nil _⟩
    | cons inner rest =>
      obtain ⟨met, linked⟩ := List.isChain_cons_cons.mp linked
      rw [List.getLast?_cons_cons] at ends
      obtain ⟨all, created⟩ := ih linked ends
      obtain ⟨other, identifier, before, after, same, passed, told, served, empty⟩ := met.passes attested
      -- both slots have failed with what was met, and the inner one with the failure of the chain
      rw [all inner List.mem_cons_self] at same
      cases same
      rw [List.dropLast_cons_cons]
      exact ⟨List.forall_mem_cons.mpr ⟨passed, all⟩,
        List.forall_mem_cons.mpr ⟨⟨identifier, before, after, told, served, empty⟩, created⟩⟩

/-- A fault that the recipe of a slot raises is the failure of the slot, and wrapped if it is an error of
the recipe's own. -/
theorem reply_of_raised {α : Type} {program : Program σ V α} {started ended : World σ V} {fault : Fault}
    (attested : (Event.answered identifier before reply after).Attested scope last)
    (served : scope.served? (scope.target identifier) = some (.cached slot))
    (launches : scope.Launches slot before program started)
    (raised : program.exec scope scope.unbounded started = some (.error fault, ended)) :
    reply = .error (fault.atSlot slot.identifier) ∧
      last.cells slot.identifier = .failed (fault.atSlot slot.identifier) := by
  obtain ⟨ran, kept⟩ := attested
  obtain ⟨after, accessed, failed⟩ := access_of_raised launches raised
  rw [unbounded_read_of_served served, accessed, Option.some_inj, Prod.mk.injEq] at ran
  obtain ⟨rfl, rfl⟩ := ran
  exact ⟨rfl, (kept _ _ (by rw [failed]; rfl)).trans failed⟩

/-- In every run, whatever the recipes and the closers do, the failure of the last slot of a chain in which
each slot has met a failure of the next one is the failure of all of them, for good. A fault is wrapped
at the slot whose recipe raises it if it is an error of the recipe's own, and becomes the failure of that
slot as it is if it is a failure of the scope. So every wrapped failure was wrapped when the slot that it
names was created, and says what the recipe of that slot raised, unless a program has made it up. -/
theorem failures_pass (scope : Scope σ V) (host : σ) (operations : List (Operation V)) :
    ∃ answers last, scope.chronicle host operations = some (answers, last) ∧
      scope.run operations (start host) = (answers, last.plain) ∧
      (∀ (chain : List CachedSlot) innermost error, chain.IsChain (scope.Met last.events) →
        chain.getLast? = some innermost →
        last.cells innermost.identifier = .failed error →
        (∀ slot ∈ chain, scope.Fails host operations last slot error) ∧
        ∀ slot ∈ chain.dropLast, ∃ identifier before after,
          .answered identifier before (.error error) after ∈ last.events ∧
          scope.served? (scope.target identifier) = some (.cached slot) ∧
          before.cells slot.identifier = .empty) ∧
      (∀ identifier before reply after slot, .answered identifier before reply after ∈ last.events →
        scope.served? (scope.target identifier) = some (.cached slot) →
        ∀ {α : Type} (program : Program σ V α) started ended fault,
          scope.Launches slot before program started →
          program.exec scope scope.unbounded started = some (.error fault, ended) →
          reply = .error (fault.atSlot slot.identifier) ∧
            scope.Fails host operations last slot (fault.atSlot slot.identifier)) ∧
      scope.Explained last := by
  obtain ⟨answers, last, written, ran, attested, explained⟩ := scope.exists_testimony host operations
  refine ⟨answers, last, written, ran, fun chain innermost error linked ends failed => ?_,
    fun identifier before reply after slot member served α program started ended fault launches raised => ?_,
    explained⟩
  · obtain ⟨all, created⟩ := failed_of_chain attested linked ends failed
    exact ⟨fun slot member => fails_of_failed ran attested (all slot member), created⟩
  · obtain ⟨same, failed⟩ := reply_of_raised (attested _ member) served launches raised
    exact ⟨same, fails_of_failed ran attested failed⟩

/-- A tap, whose recipe reads the pump and passes its failure on. The pump is attached to the pipe, which
needs the water of a spring, and that is dry. -/
def fountain : Scope Unit Unit where
  plan := {
    package := "demo"
    scopeName := "Fountain"
    values := []
    aliases := [⟨"water", "Water", "Water", "spring"⟩]
    cached := [
      ⟨0, "spring", "Spring", "Spring", .constructor (.named "Spring"), [], false⟩,
      ⟨1, "pipe", "Pipe", "Pipe", .constructor (.named "Pipe"), [.slot "water"], false⟩,
      ⟨2, "pump", "Pump", "Pump", .provider "pipe" (.named "Pipe") "attach", [], false⟩,
      ⟨3, "tap", "Tap", "Tap", .constructor (.named "Tap"), [.lazy "pump"], false⟩]
    factories := []
    injectors := [] }
  values := .empty
  recipes := {
    constructors := [
      ("Spring", fun _ => .fail (.foreign "dry")),
      ("Pipe", fun _ => .finish (.fresh ())),
      ("Tap", fun _ => .read "pump" fun
        | .ok _ => .finish (.fresh ())
        | .error failure => .fail (.runtime failure))]
    methods := [(("Pipe", "attach"), fun _ _ => .finish (some (.fresh ())))] }
  host := {
    typeName := fun _ => "Unit"
    factoryName := "Factory"
    injectorName := "Injector"
    closer := fun _ => none }

/-- That the spring is dry comes out at the tap, by a handle, a holder and an argument. -/
theorem failures_pass_fountain :
    let operations : List (Operation Unit) := [.read "tap", .read "water"]
    let failure := RuntimeError.creationFailed "spring" "dry"
    fountain.check = .ok () ∧
      (fountain.run operations (start ())).1 = [.failed failure, .failed failure] ∧
      ∃ answers last spring pipe pump tap, fountain.chronicle () operations = some (answers, last) ∧
        fountain.plan.cached = [spring, pipe, pump, tap] ∧
        [tap, pump, pipe, spring].IsChain (fountain.Met last.events) ∧
        ∀ slot ∈ [tap, pump, pipe, spring], fountain.Fails () operations last slot failure := by
  intro operations failure
  obtain ⟨answers, last, written, _, passes, _⟩ := failures_pass fountain () operations
  have told {event : Event Unit Unit} (index : Nat)
      (listed : (fountain.chronicle () operations).map (fun ran => ran.2.events[index]?) =
        some (some event)) : event ∈ last.events := by
    rw [written] at listed
    exact List.mem_of_getElem? (Option.some.inj listed)
  have dry : last.cells "spring" = .failed failure := by
    have cell : (fountain.chronicle () operations).map (fun ran => ran.2.cells "spring") =
        some (.failed failure) := by rfl
    rw [written] at cell
    exact Option.some.inj cell
  let spring : CachedSlot := ⟨0, "spring", "Spring", "Spring", .constructor (.named "Spring"), [], false⟩
  let pipe : CachedSlot := ⟨1, "pipe", "Pipe", "Pipe", .constructor (.named "Pipe"), [.slot "water"], false⟩
  let pump : CachedSlot :=
    ⟨2, "pump", "Pump", "Pump", .provider "pipe" (.named "Pipe") "attach", [], false⟩
  let tap : CachedSlot := ⟨3, "tap", "Tap", "Tap", .constructor (.named "Tap"), [.lazy "pump"], false⟩
  -- the reads of the tap, the pump and the pipe are the last three that are answered for the client
  have linked : [tap, pump, pipe, spring].IsChain (fountain.Met last.events) := by
    have launched : fountain.Launches tap (start ()) _ _ := .constructor rfl ⟨rfl, rfl, rfl⟩ rfl
    have listed : pipe.arguments = [] ++ .slot "water" :: [] := rfl
    refine .cons_cons ?_ (.cons_cons ?_ (.cons_cons ?_ (.singleton _)))
    · exact .intro (told 9 rfl) rfl (.handle launched .here rfl rfl rfl) rfl rfl
    · exact .intro (told 8 rfl) rfl (.holder rfl ⟨rfl, rfl, rfl⟩ rfl) rfl rfl
    · exact .intro (told 7 rfl) rfl (.argument listed ⟨rfl, rfl, rfl⟩ rfl) rfl rfl
  exact ⟨check_of_checkCycles (by cbv), by rfl, answers, last, spring, pipe, pump, tap, written, rfl, linked,
    (passes _ _ _ linked rfl dry).1⟩

end Scope

end Wiring
