import Wiring.Proofs.Scope.Starts
import Wiring.Proofs.Scope.Wrapping

/-! # A chronicle is true

An answer that a chronicle tells is the one that the scope gives to the read in the world in which it is
asked for, and what is in the cells by then is still there in the end. So what is known of single reads
is known of all the reads of a run.

A wrapped failure in a cell is explained: the chronicle tells of a creation that has wrapped it, unless a
program has raised it of its own accord.

Main statement: `Scope.exists_testimony`.
-/

namespace Wiring

variable {σ V : Type}

namespace Event

/-- The read that is told is answered so, and what is settled by then is settled in the last world. -/
def Attested (scope : Scope σ V) (last : World σ V) : Event σ V → Prop
  | asked _ _ => True
  | answered identifier before reply after =>
    scope.unbounded.read identifier before = some (reply, after) ∧
      ∀ slot result, (after.cells slot).outcome? = some result → last.cells slot = after.cells slot
  | started _ _ => True
  | closing _ => True
  | closed _ _ => True

/-- A creation of the slot `name` fails, since the recipe of that slot raises the error. -/
def Wraps (scope : Scope σ V) (name source : String) : Event σ V → Prop
  | asked _ _ => False
  | answered identifier before reply _ =>
    ∃ slot, scope.served? (scope.target identifier) = some (.cached slot) ∧ slot.identifier = name ∧
      scope.Wraps slot before source ∧ reply = .error (.creationFailed name source)
  | started _ _ => False
  | closing _ => False
  | closed _ _ => False

theorem Attested.mono {scope : Scope σ V} {event : Event σ V} {w after : World σ V}
    (attested : event.Attested scope w)
    (kept : ∀ slot result, (w.cells slot).outcome? = some result → after.cells slot = w.cells slot) :
    event.Attested scope after := by
  cases event with
  | asked _ _ => trivial
  | answered identifier before reply last =>
    refine ⟨attested.1, fun slot result settled => ?_⟩
    have same := attested.2 slot result settled
    rw [kept slot result (by rw [same, settled]), same]
  | started _ _ => trivial
  | closing _ => trivial
  | closed _ _ => trivial

end Event

/-- The chronicle tells where a wrapped failure in a cell has been wrapped, or else a program raises the
failure of its own accord. -/
def Scope.Explained (scope : Scope σ V) (w : Recorded σ V) : Prop :=
  ∀ slot name source, w.cells slot = .failed (.creationFailed name source) →
    (∃ event ∈ w.events, event.Wraps scope name source) ∨
      scope.Raises scope.plan.Hands (.creationFailed name source)

/-- From the one world to the other the chronicle tells the truth, cells that are not empty stay as they
are, and failures stay explained. -/
structure Testifies (scope : Scope σ V) (w after : Recorded σ V) : Prop where
  kept slot : (w.cells slot).isEmpty = false → after.cells slot = w.cells slot
  told : ∃ events, after.events = w.events ++ events ∧ ∀ event ∈ events, event.Attested scope after.plain
  explained : scope.Explained w → scope.Explained after

namespace Testifies

variable {scope : Scope σ V} {w middle after : Recorded σ V}

private theorem settled (testifies : Testifies scope w after) {slot : String}
    {result : Except RuntimeError (Instance V)} (settled : (w.cells slot).outcome? = some result) :
    after.cells slot = w.cells slot :=
  testifies.kept slot (Cell.isEmpty_of_outcome? settled)

theorem trans (first : Testifies scope w middle) (second : Testifies scope middle after) :
    Testifies scope w after where
  kept := World.KeepsFilled.trans first.kept second.kept
  told := by
    obtain ⟨events, written, attested⟩ := first.told
    obtain ⟨later, rest, others⟩ := second.told
    refine ⟨events ++ later, by rw [rest, written, List.append_assoc], ?_⟩
    refine List.forall_mem_append.mpr ⟨fun event member => ?_, others⟩
    exact (attested event member).mono fun slot result => second.settled
  explained explained := second.explained (first.explained explained)

/-- What is written is true, and nothing happens to the cells. -/
theorem write {events : List (Event σ V)} (cells : after.cells = w.cells)
    (written : after.events = w.events ++ events)
    (attested : ∀ event ∈ events, event.Attested scope after.plain) : Testifies scope w after where
  kept slot _ := by rw [cells]
  told := ⟨events, written, attested⟩
  explained explained slot name source failed := by
    rw [cells] at failed
    rcases explained slot name source failed with ⟨event, member, wraps⟩ | raises
    · exact .inl ⟨event, by rw [written]; exact List.mem_append_left _ member, wraps⟩
    · exact .inr raises

theorem same (cells : after.cells = w.cells) (events : after.events = w.events) :
    Testifies scope w after :=
  .write cells (by rw [events, List.append_nil]) (List.forall_mem_nil _)

theorem note {event : Event σ V} (attested : event.Attested scope w.plain) :
    Testifies scope w (w.note event) :=
  .write rfl rfl (List.forall_mem_singleton.mpr attested)

/-- The cell that has been marked is settled, and an event tells so. A wrapped failure that it is settled
with is wrapped here, or it is known already. -/
theorem settle {slot : String} {content : Cell (Instance V)} {event : Event σ V}
    (creation : Testifies scope (w.setCell slot .creating) middle) (empty : w.cells slot = .empty)
    (attested : event.Attested scope (middle.setCell slot content).plain)
    (accounted : ∀ name source, content = .failed (.creationFailed name source) →
      event.Wraps scope name source ∨ scope.Knows (.creationFailed name source) middle.plain) :
    Testifies scope w ((middle.setCell slot content).note event) := by
  have creating : middle.cells slot = .creating := World.KeepsFilled.creating creation.kept
  refine ⟨World.KeepsFilled.settle empty creation.kept content, ?_, fun explained => ?_⟩
  · obtain ⟨events, written, others⟩ := creation.told
    refine ⟨events ++ [event], ?_, List.forall_mem_append.mpr ⟨fun told member => ?_,
      List.forall_mem_singleton.mpr attested⟩⟩
    · show middle.events ++ [event] = _
      rw [written, List.append_assoc]
      rfl
    · -- the marked cell was not settled in any world that has been told of
      refine (others told member).mono fun other result settled => ?_
      refine World.cells_setCell_of_ne _ _ fun same => ?_
      have open? : middle.cells other = .creating := same ▸ creating
      rw [show middle.plain.cells other = middle.cells other from rfl, open?] at settled
      cases settled
  · have marked : scope.Explained (w.setCell slot .creating) := by
      intro other name source failed
      refine explained other name source ?_
      simp only [World.setCell] at failed
      split at failed
      · cases failed
      · exact failed
    have told := creation.explained marked
    have known {name source : String} {other : String}
        (failed : middle.cells other = .failed (.creationFailed name source)) :
        (∃ told ∈ middle.events ++ [event], told.Wraps scope name source) ∨
          scope.Raises scope.plan.Hands (.creationFailed name source) := by
      rcases told other name source failed with ⟨told, member, wraps⟩ | raises
      · exact .inl ⟨told, List.mem_append_left _ member, wraps⟩
      · exact .inr raises
    intro other name source failed
    have behind : (middle.setCell slot content).cells other = .failed (.creationFailed name source) := failed
    by_cases same : other = slot
    · rw [same, World.cells_setCell_self] at behind
      rcases accounted name source behind with wraps | knows
      · exact .inl ⟨event, List.mem_append_right _ (List.mem_singleton_self event), wraps⟩
      · rcases knows name source rfl with ⟨_, failed⟩ | raises
        · exact known failed
        · exact .inr raises
    · rw [World.cells_setCell_of_ne _ _ same] at behind
      exact known behind

end Testifies

namespace Scope

variable {scope : Scope σ V} {w after : Recorded σ V}

theorem passage_testifies (scope : Scope σ V) : Passage (Testifies scope) where
  refl _ := .same rfl rfl
  trans := .trans
  release _ := .same rfl rfl
  update _ _ := .same rfl rfl
  share _ := .same rfl rfl

theorem Starting.testifies {slot : String} (starting : scope.Starting (Testifies scope) slot w after) :
    Testifies scope w after := by
  rcases starting with going | ⟨middle, before, behind⟩
  · exact going
  · have started : Testifies scope middle (middle.note (.started slot (scope.state? middle.plain slot))) :=
      .note trivial
    exact before.trans (started.trans behind)

theorem testifies_closing (w : Recorded σ V) {event : Event σ V} (closing : event.isClosing = true) :
    Testifies scope w (w.note event) := by
  rcases Event.cases_of_isClosing closing with ⟨value, rfl⟩ | ⟨value, reply, rfl⟩
  · exact .note trivial
  · exact .note trivial

section Reading

/-! ## Reads -/

variable {level : Nat}
  (reads : ∀ identifier, ((scope.chronicler level).read identifier).Within (Testifies scope))
  (closes : (scope.chronicler level).close.Within (Testifies scope))

include reads closes

/-- The whole of a read, from where it is asked for to where it is answered. -/
theorem testifies_noted {identifier : String} {reply : Reply RuntimeError (Instance V)}
    {middle : Recorded σ V}
    (ran : scope.chronicled.read (scope.chronicler level) identifier (w.note (.asked identifier w.plain)) =
      some (reply, middle)) :
    Testifies scope w (middle.note (.answered identifier w.plain reply middle.plain)) := by
  have passage := scope.passage_testifies
  have asked : Testifies scope w (w.note (.asked identifier w.plain)) := .note trivial
  have answered : scope.unbounded.read identifier w.plain = some (reply, middle.plain) := by
    rw [unbounded_read]
    exact simulates_read scope.mirrors_chronicled (scope.simulates_unbounded level) identifier
      (w.note (.asked identifier w.plain)) reply middle ran
  have attested : (Event.answered identifier w.plain reply middle.plain).Attested scope middle.plain :=
    ⟨answered, fun _ _ _ => rfl⟩
  refine asked.trans ?_
  rcases read_cases ran with ⟨slot, served, accessed⟩ | ⟨_, rfl⟩
  · rw [served?_chronicled, target_chronicled] at served
    rcases access_cases accessed with ⟨_, _, _, rfl⟩ | ⟨empty, inner, created, rfl⟩
    · exact .note attested
    · have creation := (within_create passage reads (.inr closes)
        (within_own passage reads closes testifies_closing (fun _ _ => .same rfl rfl) _) _ _ _ created).testifies
      refine creation.settle empty attested fun name source failed => ?_
      cases reply with
      | ok value => cases failed
      | error error =>
        cases failed
        have accounted : scope.Accounts slot w.plain _ inner.plain :=
          accounts_create (mem_cached_of_served? served).1 empty
            (simulates_create scope.mirrors_chronicled (scope.simulates_unbounded level) slot _ _ _ created)
        rcases accounted with ⟨_, same, wraps⟩ | knows
        · cases same
          exact .inl ⟨slot, served, rfl, wraps, rfl⟩
        · exact .inr knows
      | panic text => cases failed
  · exact .note attested

end Reading

/-- However deeply requests nest. -/
theorem testifies_chronicler (scope : Scope σ V) (level : Nat) :
    (∀ identifier, ((scope.chronicler level).read identifier).Within (Testifies scope)) ∧
      (scope.chronicler level).close.Within (Testifies scope) :=
  within_chronicler scope.passage_testifies testifies_closing (fun _ _ => .same rfl rfl)
    (fun _ reads closes => testifies_noted reads closes) level

section Operations

/-! ## Operations -/

variable {level : Nat}

private theorem testifies_performWith {operation : Operation V} {answer : Answer V}
    (performed : scope.chronicled.performWith (scope.chronicler level) operation w = some (answer, after)) :
    Testifies scope w after := by
  have passage := scope.passage_testifies
  obtain ⟨reads, closes⟩ := scope.testifies_chronicler level
  exact within_performWith (fun slot _ => within_readAlive passage reads slot)
    (fun slot given _ => .mono (within_callFactory passage reads (.inr closes) slot given) Starting.testifies)
    (fun slot given _ => .mono (within_callInjector passage reads (.inr closes) slot given) Starting.testifies)
    closes passage.release performed

private theorem testifies_runWith {operations : List (Operation V)} {answers : List (Answer V)}
    (ran : scope.chronicled.runWith (scope.chronicler level) operations w = some (answers, after)) :
    Testifies scope w after := by
  have passage := scope.passage_testifies
  obtain ⟨_, closes⟩ := scope.testifies_chronicler level
  refine within_runWith passage.refl passage.trans
    (fun operation _ w _ middle _ _ performed settled => ?_) ran
  exact passage.trans (testifies_performWith performed)
    (within_settleWith (passage.refl middle) closes passage.trans (.same rfl rfl) settled)

/-- Every run has a chronicle that is true. -/
theorem exists_testimony (scope : Scope σ V) (host : σ) (operations : List (Operation V)) :
    ∃ answers last, scope.chronicle host operations = some (answers, last) ∧
      scope.run operations (start host) = (answers, last.plain) ∧
      (∀ event ∈ last.events, event.Attested scope last.plain) ∧ scope.Explained last := by
  obtain ⟨answers, last, written, plain⟩ := scope.exists_chronicle host operations
  have testifies := testifies_runWith written
  obtain ⟨events, same, attested⟩ := testifies.told
  obtain rfl : last.events = events := same
  have nothing : scope.Explained (start (host, [])) := fun _ _ _ failed => by cases failed
  exact ⟨answers, last, written, plain, attested, testifies.explained nothing⟩

end Operations

end Scope

end Wiring
