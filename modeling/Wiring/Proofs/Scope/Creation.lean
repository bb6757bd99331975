import Mathlib.Data.List.Count
import Wiring.Proofs.Scope.Passage

/-! # A slot is created once

The cell of a slot leaves its empty stage when the creation of the slot begins, and is settled when
the creation has ended, in whatever way. So the recipe of a slot is started once at most, and every
later read is answered from the cell. This holds of every plan and of all programs, however the
reads of a run nest.

A segment of a chronicle tells what happens between two worlds; a step of a scope adds a segment in
which each start of a recipe is paid for by a cell that leaves its empty stage. Main statement:
`Scope.created_once`.
-/

namespace Wiring

variable {σ V ε α : Type}

namespace Cell

/-- A cell is marked when it is empty, and settled when it is marked. -/
inductive Next : Cell α → Cell α → Prop
  | mark : Next .empty .creating
  | settle (name : String) (reply : Reply RuntimeError α) : Next .creating (.settled name reply)

/-- The one cell may become the other. -/
def Forward : Cell α → Cell α → Prop := Relation.ReflTransGen Next

/-- A settled cell stays as it is. -/
theorem Forward.outcome? {cell later : Cell α} (forward : cell.Forward later)
    {result : Except RuntimeError α} (settled : cell.outcome? = some result) : later = cell := by
  induction forward with
  | refl => rfl
  | tail _ next ih =>
    subst ih
    cases next <;> cases settled

end Cell

/-- Every cell of the one world may become that of the other. -/
def World.Forward (w after : World σ V) : Prop := ∀ slot, (w.cells slot).Forward (after.cells slot)

namespace World

theorem Forward.refl (w : World σ V) : w.Forward w := fun _ => .refl

theorem Forward.trans {w middle after : World σ V} (first : w.Forward middle)
    (second : middle.Forward after) : w.Forward after :=
  fun slot => Relation.ReflTransGen.trans (first slot) (second slot)

private theorem forward_setCell {w : World σ V} {slot : String} {content : Cell (Instance V)}
    (next : (w.cells slot).Next content) : w.Forward (w.setCell slot content) := by
  intro other
  simp only [setCell]
  split
  next same =>
    rw [same]
    exact .single next
  next => exact .refl

/-- One for a cell that is not empty any more. -/
def spent (w : World σ V) (slot : String) : Nat := if (w.cells slot).isEmpty then 0 else 1

theorem spent_le_one (w : World σ V) (slot : String) : w.spent slot ≤ 1 := by
  unfold spent
  split <;> omega

end World

namespace Event

def starts (slot : String) : Event σ V → Bool
  | started other _ => other == slot
  | asked _ _ => false
  | answered _ _ _ _ => false
  | closing _ => false
  | closed _ _ => false

/-- A read of a cached slot is answered from the cell, or else the cell is settled with the answer;
and the recipe of a cached slot is started while the slot is being created. -/
def Faithful (scope : Scope σ V) : Event σ V → Prop
  | asked _ _ => True
  | answered identifier before reply after =>
    ∀ slot, scope.served? (scope.target identifier) = some (.cached slot) →
      match (before.cells slot.identifier).answer? slot.identifier with
      | some answer => reply = .ofExcept answer
      | none => after.cells slot.identifier = .settled slot.identifier reply
  | started identifier stage =>
    ∀ slot, scope.served? identifier = some (.cached slot) → stage = some .creating
  | closing _ => True
  | closed _ _ => True

end Event

/-- Reads are asked for before they are answered. -/
def Asked (events : List (Event σ V)) : Prop :=
  ∀ earlier identifier before reply after later,
    events = earlier ++ .answered identifier before reply after :: later →
      .asked identifier before ∈ earlier

theorem Asked.append {first second : List (Event σ V)} (before : Asked first) (behind : Asked second) :
    Asked (first ++ second) := by
  intro earlier identifier w reply after later split
  rcases List.append_eq_append_iff.mp split with ⟨between, rfl, ends⟩ | ⟨between, rfl, ends⟩
  · exact List.mem_append_right _ (behind _ _ _ _ _ _ ends)
  · cases between with
    | nil => cases behind [] _ _ _ _ _ ends.symm
    | cons event between =>
      cases ends
      exact before _ _ _ _ _ _ rfl

private theorem Asked.answered {events : List (Event σ V)} {identifier : String} {before after : World σ V}
    {reply : Reply RuntimeError (Instance V)} (asked : Asked events)
    (member : .asked identifier before ∈ events) :
    Asked (events ++ [.answered identifier before reply after]) := by
  intro earlier other w answer last later split
  rcases List.append_eq_append_iff.mp split with ⟨between, rfl, ends⟩ | ⟨between, rfl, ends⟩
  · obtain ⟨rfl, same⟩ | ⟨_, impossible⟩ := List.singleton_eq_append_iff.mp ends
    · cases same
      simpa using member
    · cases impossible
  · cases between with
    | nil =>
      cases ends
      simpa using member
    | cons event between =>
      cases ends
      exact asked _ _ _ _ _ _ rfl

/-- Nothing is answered. -/
theorem Asked.of_forall_ne {events : List (Event σ V)}
    (none : ∀ identifier before reply after, .answered identifier before reply after ∉ events) :
    Asked events := by
  rintro earlier identifier before reply after later rfl
  exact absurd (List.mem_append_right _ List.mem_cons_self) (none identifier before reply after)

/-- The worlds in which reads are asked for or answered. -/
def seen (events : List (Event σ V)) : List (World σ V) := events.filterMap Event.world?

section Seen

variable {identifier : String} {before after w : World σ V} {events later : List (Event σ V)}
  {reply : Reply RuntimeError (Instance V)} {stage : Option CellState} {value : V}
  {ending : Reply Fault Unit}

@[simp] theorem seen_nil : seen ([] : List (Event σ V)) = [] := rfl

@[simp] theorem seen_append : seen (events ++ later) = seen events ++ seen later :=
  List.filterMap_append

@[simp] theorem seen_asked : seen (.asked identifier w :: events) = w :: seen events := rfl

@[simp] theorem seen_answered :
    seen (.answered identifier before reply after :: events) = after :: seen events := rfl

@[simp] theorem seen_started : seen (.started identifier stage :: events) = seen events := rfl

@[simp] theorem seen_closing : seen (.closing value :: events) = seen events := rfl

@[simp] theorem seen_closed : seen (.closed value ending :: events) = seen events := rfl

end Seen

/-- Worlds that are in order up to a joint, and from there on, are in order. -/
theorem pairwise_through {front back : List (World σ V)} {joint : World σ V}
    (start : (front ++ [joint]).Pairwise World.Forward)
    (rest : (joint :: back).Pairwise World.Forward) : (front ++ back).Pairwise World.Forward := by
  obtain ⟨front, _, toJoint⟩ := List.pairwise_append.mp start
  obtain ⟨fromJoint, back⟩ := List.pairwise_cons.mp rest
  refine List.pairwise_append.mpr ⟨front, back, fun first before last behind => ?_⟩
  exact (toJoint first before joint (List.mem_singleton_self joint)).trans (fromJoint last behind)

/-- What a chronicle tells between two worlds. Recipes are started for cells that leave their empty
stage, and as often as the budget allows besides. -/
structure Segment (scope : Scope σ V) (budget : String → Nat) (w : World σ V)
    (events : List (Event σ V)) (after : World σ V) : Prop where
  ordered : (w :: (seen events ++ [after])).Pairwise World.Forward
  creating slot : w.cells slot = .creating ↔ after.cells slot = .creating
  starts identifier slot : scope.served? identifier = some (.cached slot) →
    events.countP (Event.starts identifier) + w.spent identifier ≤
      after.spent identifier + budget identifier
  faithful : ∀ event ∈ events, event.Faithful scope
  asked : Asked events

namespace Segment

variable {scope : Scope σ V} {budget budget' : String → Nat} {w middle after : World σ V}
  {events later : List (Event σ V)}

theorem nil (creating : ∀ slot, w.cells slot = .creating ↔ after.cells slot = .creating)
    (forward : w.Forward after) (spent : ∀ slot, w.spent slot ≤ after.spent slot) :
    Segment scope budget w [] after where
  ordered := by simpa using forward
  creating := creating
  starts identifier _ _ := by
    have := spent identifier
    simp only [List.countP_nil]
    omega
  faithful := List.forall_mem_nil _
  asked := .of_forall_ne (by simp)

/-- Nothing happens as far as cells go. -/
theorem same (cells : after.cells = w.cells) : Segment scope budget w [] after :=
  nil (fun slot => by rw [cells]) (fun slot => by rw [cells]; exact .refl)
    fun slot => by rw [World.spent, World.spent, cells]

theorem append (first : Segment scope budget w events middle)
    (second : Segment scope budget' middle later after) :
    Segment scope (fun slot => budget slot + budget' slot) w (events ++ later) after where
  ordered := by
    have joined : (w :: seen events ++ (seen later ++ [after])).Pairwise World.Forward :=
      pairwise_through first.ordered second.ordered
    simpa using joined
  creating slot := (first.creating slot).trans (second.creating slot)
  starts identifier slot served := by
    have start := first.starts identifier slot served
    have rest := second.starts identifier slot served
    simp only [List.countP_append]
    omega
  faithful event member := (List.mem_append.mp member).elim (first.faithful event) (second.faithful event)
  asked := first.asked.append second.asked

/-- More may be started than is. -/
theorem loosen (segment : Segment scope budget w events after)
    (more : ∀ identifier slot, scope.served? identifier = some (.cached slot) →
      budget identifier ≤ budget' identifier) :
    Segment scope budget' w events after :=
  { segment with
    starts := fun identifier slot served =>
      (segment.starts identifier slot served).trans (Nat.add_le_add_left (more identifier slot served) _) }

/-- A recipe is started within the budget for its slot. -/
theorem start {identifier : String} {stage : Option CellState}
    (creating : ∀ slot, scope.served? identifier = some (.cached slot) → stage = some .creating) :
    Segment scope (fun slot => if slot = identifier then 1 else 0) w [.started identifier stage] w where
  ordered := by simpa using World.Forward.refl w
  creating _ := .rfl
  starts other _ _ := by
    by_cases same : other = identifier
    · simp [Event.starts, same, Nat.add_comm]
    · simp [Event.starts, same, Ne.symm same]
  faithful := by simpa [Event.Faithful] using creating
  asked := .of_forall_ne (by simp)

theorem close {event : Event σ V} (closing : event.isClosing = true) :
    Segment scope budget w [event] w := by
  rcases Event.cases_of_isClosing closing with ⟨value, rfl⟩ | ⟨value, reply, rfl⟩
  all_goals
    refine ⟨by simpa using World.Forward.refl w, fun _ => .rfl, fun other _ _ => ?_, ?_,
      .of_forall_ne (by simp)⟩
    · simp [Event.starts]
    · simp [Event.Faithful]

/-- A read is asked for at one end of the segment and answered at the other. -/
theorem noting {identifier : String} {reply : Reply RuntimeError (Instance V)}
    (segment : Segment scope budget w events after)
    (faithful : (Event.answered identifier w reply after).Faithful scope) :
    Segment scope budget w (.asked identifier w :: (events ++ [.answered identifier w reply after]))
      after where
  ordered := by
    have start : ([w, w] ++ [w]).Pairwise World.Forward := by simpa using World.Forward.refl w
    have ends : [after, after, after].Pairwise World.Forward := by
      simpa using World.Forward.refl after
    have joined : ([w, w] ++ (seen events ++ [after])).Pairwise World.Forward :=
      pairwise_through start segment.ordered
    have whole : ([w, w] ++ seen events ++ [after, after]).Pairwise World.Forward :=
      pairwise_through (by rwa [List.append_assoc]) ends
    simpa using whole
  creating := segment.creating
  starts other slot served := by simpa [Event.starts] using segment.starts other slot served
  faithful := by
    refine List.forall_mem_cons.mpr ⟨trivial, fun event member => ?_⟩
    rcases List.mem_append.mp member with inside | last
    · exact segment.faithful event inside
    · exact List.mem_singleton.mp last ▸ faithful
  asked := by
    have start : Asked ([.asked identifier w] : List (Event σ V)) := .of_forall_ne (by simp)
    exact (start.append segment.asked).answered List.mem_cons_self

/-- The whole of a creation: the empty cell is marked before it and settled behind it. -/
theorem settle {slot : String} {reply : Reply RuntimeError (Instance V)}
    (segment : Segment scope (fun other => if other = slot then 1 else 0) (w.setCell slot .creating)
      events after)
    (empty : w.cells slot = .empty) :
    Segment scope (fun _ => 0) w events (after.setCell slot (.settled slot reply)) := by
  have marked : (w.setCell slot .creating).cells slot = .creating := if_pos rfl
  have creating : after.cells slot = .creating := (segment.creating slot).mp marked
  have marking : w.Forward (w.setCell slot .creating) := World.forward_setCell (empty ▸ .mark)
  have settling : after.Forward (after.setCell slot (.settled slot reply)) :=
    World.forward_setCell (creating ▸ .settle slot reply)
  refine ⟨?_, fun other => ?_, fun other cached served => ?_, segment.faithful, segment.asked⟩
  · have start : ([w] ++ [w.setCell slot .creating]).Pairwise World.Forward := by simpa using marking
    have ends : [after, after.setCell slot (.settled slot reply)].Pairwise World.Forward := by
      simpa using settling
    have joined : ([w] ++ (seen events ++ [after])).Pairwise World.Forward :=
      pairwise_through start segment.ordered
    have whole : ([w] ++ seen events ++ [after.setCell slot (.settled slot reply)]).Pairwise
        World.Forward :=
      pairwise_through (by rwa [List.append_assoc]) ends
    exact whole
  · by_cases same : other = slot
    · subst same
      simp only [World.setCell, empty, ↓reduceIte]
      cases reply <;> simp [Cell.settled]
    · have inside := segment.creating other
      simpa only [World.setCell, if_neg same] using inside
  · have inside := segment.starts other cached served
    by_cases same : other = slot
    · subst same
      have full := World.spent_le_one after other
      have started : (w.setCell other .creating).spent other = 1 := by
        simp [World.spent, Cell.isEmpty]
      have ended : (after.setCell other (.settled other reply)).spent other = 1 := by
        simp [World.spent, World.setCell, Cell.isEmpty_settled]
      have unspent : w.spent other = 0 := by simp [World.spent, empty, Cell.isEmpty]
      simp only [↓reduceIte] at inside
      omega
    · simpa only [World.spent, World.setCell, if_neg same] using inside

end Segment

/-- The one world leads to the other, and the chronicle tells how. -/
def Scope.Evolves (scope : Scope σ V) (budget : String → Nat) (w after : Recorded σ V) : Prop :=
  ∃ events, after.host.2 = w.host.2 ++ events ∧ Segment scope budget w.plain events after.plain

namespace Scope

variable {scope : Scope σ V} {budget budget' : String → Nat} {w middle after : Recorded σ V}

theorem Evolves.same (cells : after.cells = w.cells) (chronicle : after.host.2 = w.host.2) :
    scope.Evolves budget w after :=
  ⟨[], by simp [chronicle], .same cells⟩

theorem Evolves.trans (first : scope.Evolves budget w middle)
    (second : scope.Evolves budget' middle after) :
    scope.Evolves (fun slot => budget slot + budget' slot) w after := by
  obtain ⟨events, written, segment⟩ := first
  obtain ⟨later, more, rest⟩ := second
  exact ⟨events ++ later, by rw [more, written, List.append_assoc], segment.append rest⟩

/-- Starts are paid for by the cells alone. -/
abbrev Leads (scope : Scope σ V) : Recorded σ V → Recorded σ V → Prop := scope.Evolves fun _ => 0

theorem passage_leads (scope : Scope σ V) : Passage scope.Leads where
  refl _ := .same rfl rfl
  trans := Evolves.trans
  release _ := .same rfl rfl
  update _ _ := .same rfl rfl
  share _ := .same rfl rfl

theorem leads_closing (w : Recorded σ V) {event : Event σ V} (closing : event.isClosing = true) :
    scope.Leads w (w.note event) :=
  ⟨[event], rfl, .close closing⟩

theorem Evolves.loosen (evolves : scope.Evolves budget w after)
    (more : ∀ identifier slot, scope.served? identifier = some (.cached slot) →
      budget identifier ≤ budget' identifier) :
    scope.Evolves budget' w after :=
  evolves.imp fun _ ⟨written, segment⟩ => ⟨written, segment.loosen more⟩

/-- A recipe is started at most once for a slot that is being created. -/
theorem Starting.evolves {slot : String}
    (creating : ∀ cached, scope.served? slot = some (.cached cached) → w.cells slot = .creating)
    (starting : scope.Starting scope.Leads slot w after) :
    scope.Evolves (fun other => if other = slot then 1 else 0) w after := by
  rcases starting with led | ⟨middle, before, behind⟩
  · exact led.loosen fun _ _ _ => Nat.zero_le _
  · obtain ⟨events, written, segment⟩ := before
    have start : scope.Evolves (fun other => if other = slot then 1 else 0) middle
        (middle.note (.started slot (scope.state? middle.plain slot))) := by
      refine ⟨[.started slot (scope.state? middle.plain slot)], rfl, .start fun cached served => ?_⟩
      obtain ⟨_, rfl⟩ := mem_cached_of_served? served
      have marked := (segment.creating cached.identifier).mp (creating cached served)
      rw [state?, served]
      simp only [marked, Cell.state]
    have whole := (Evolves.trans ⟨events, written, segment⟩ start).trans behind
    exact whole.loosen fun other _ _ => by simp

section Steps

variable {handler : Handler (σ × List (Event σ V)) V}
  (reads : ∀ identifier, (handler.read identifier).Within scope.Leads)
  (closes : handler.close.Within scope.Leads)

include reads closes

private theorem leads_access (slot : CachedSlot) :
    (scope.chronicled.access handler slot).Within scope.Leads := by
  intro w reply after ran
  rcases access_cases ran with ⟨answer, answered, rfl, rfl⟩ | ⟨empty, middle, created, rfl⟩
  · exact scope.passage_leads.refl _
  · have passage := scope.passage_leads
    have starting := within_create passage reads (.inr closes)
      (within_own passage reads closes leads_closing (fun _ _ => .same rfl rfl) _) _ _ _ created
    obtain ⟨events, written, segment⟩ := starting.evolves fun _ _ => if_pos rfl
    have whole : Segment scope (fun _ => 0) w.plain events
        (middle.plain.setCell slot.identifier (.settled slot.identifier reply)) :=
      segment.settle empty
    exact ⟨events, written, whole⟩

private theorem leads_read (identifier : String) :
    (scope.chronicled.read handler identifier).Within scope.Leads := by
  intro w reply after ran
  rcases read_cases ran with ⟨slot, _, accessed⟩ | ⟨_, rfl⟩
  · exact leads_access reads closes slot w reply after accessed
  · exact scope.passage_leads.refl _

end Steps

/-- The answer to a read is what its cell tells. -/
theorem faithful_of_read {handler : Handler (σ × List (Event σ V)) V} {identifier : String}
    {reply : Reply RuntimeError (Instance V)}
    (ran : scope.chronicled.read handler identifier w = some (reply, after)) :
    (Event.answered identifier w.plain reply after.plain).Faithful scope := by
  intro slot served
  have cases := read_cases ran
  simp only [target_chronicled, served?_chronicled] at cases
  rcases cases with ⟨other, known, accessed⟩ | ⟨unserved, _⟩
  · obtain rfl : other = slot := by simpa using known.symm.trans served
    rcases access_cases accessed with ⟨answer, answered, rfl, _⟩ | ⟨empty, middle, _, rfl⟩
    · have told : (w.plain.cells other.identifier).answer? other.identifier = some answer := answered
      rw [told]
    · have untold : (w.plain.cells other.identifier).answer? other.identifier = none :=
        congrArg (Cell.answer? other.identifier) empty
      rw [untold]
      exact if_pos rfl
  · exact (unserved slot served).elim

private theorem leads_noted {identifier : String} {reply : Reply RuntimeError (Instance V)}
    (led : scope.Leads (w.note (.asked identifier w.plain)) after)
    (faithful : (Event.answered identifier w.plain reply after.plain).Faithful scope) :
    scope.Leads w (after.note (.answered identifier w.plain reply after.plain)) := by
  obtain ⟨events, written, segment⟩ := led
  have noted : Segment scope (fun _ => 0) w.plain
      (.asked identifier w.plain :: (events ++ [.answered identifier w.plain reply after.plain]))
      after.plain :=
    Segment.noting segment faithful
  refine ⟨_, ?_, noted⟩
  simp [World.note, written]

/-- However deeply requests nest. -/
theorem leads_chronicler (scope : Scope σ V) (level : Nat) :
    (∀ identifier, ((scope.chronicler level).read identifier).Within scope.Leads) ∧
      (scope.chronicler level).close.Within scope.Leads := by
  refine within_chronicler scope.passage_leads leads_closing (fun _ _ => .same rfl rfl)
    (fun level reads closes identifier w reply middle found => ?_) level
  have faithful : (Event.answered identifier w.plain reply middle.plain).Faithful scope :=
    faithful_of_read (w := w.note (.asked identifier w.plain)) found
  exact leads_noted (leads_read reads closes identifier _ _ _ found) faithful

end Scope

/-! ## Operations -/

/-- The client calls factories and injectors that the plan has. -/
def Operation.Offered (scope : Scope σ V) : Operation V → Prop
  | callFactory slot _ => slot ∈ scope.plan.factories
  | callInjector slot _ => slot ∈ scope.plan.injectors
  | read _ => True
  | close => True
  | release => True

namespace Scope

variable {scope : Scope σ V} {handler : Handler (σ × List (Event σ V)) V} {w after : Recorded σ V}

/-- An identifier of a factory or an injector never serves a cached slot, since factories and
injectors come last in the table. -/
theorem not_cached_of_callable {identifier : String}
    (callable : (∃ slot ∈ scope.plan.factories, slot.identifier = identifier) ∨
      ∃ slot ∈ scope.plan.injectors, slot.identifier = identifier) (slot : CachedSlot) :
    scope.served? identifier ≠ some (.cached slot) := by
  intro served
  have listed := mem_cached_of_served? served
  let ready : List (String × Served V) :=
    scope.plan.factories.map (fun slot =>
        (slot.identifier, .ready ⟨.slot slot.identifier, .factory slot⟩))
      ++ scope.plan.injectors.map (fun slot =>
        (slot.identifier, .ready ⟨.slot slot.identifier, .injector slot⟩))
  have known : (ready.reverse.lookup identifier).isSome = true := by
    rw [List.lookup_isSome_iff]
    rcases callable with ⟨slot, member, rfl⟩ | ⟨slot, member, rfl⟩
    · exact ⟨_, List.mem_reverse.mpr (List.mem_append_left _ (List.mem_map_of_mem member)), by simp⟩
    · exact ⟨_, List.mem_reverse.mpr (List.mem_append_right _ (List.mem_map_of_mem member)), by simp⟩
  obtain ⟨found, lookup⟩ := Option.isSome_iff_exists.mp known
  have same : found = .cached slot := by
    rw [served?, entries, List.append_assoc, List.reverse_append, List.lookup_append, lookup,
      Option.some_or, Option.some_inj] at served
    exact served
  have member : (identifier, found) ∈ ready := List.mem_reverse.mp (mem_of_lookup lookup)
  rw [same] at member
  simp [ready] at member

section Steps

variable (reads : ∀ identifier, (handler.read identifier).Within scope.Leads)
  (closes : handler.close.Within scope.Leads)

include reads closes

private theorem leads_performWith {operation : Operation V} (offered : operation.Offered scope)
    {answer : Answer V}
    (performed : scope.chronicled.performWith handler operation w = some (answer, after)) :
    scope.Leads w after := by
  have passage := scope.passage_leads
  have started {w after : Recorded σ V} {slot : String}
      (callable : ∀ cached, scope.served? slot ≠ some (.cached cached))
      (starting : scope.Starting scope.Leads slot w after) : scope.Leads w after :=
    (starting.evolves fun cached served => (callable cached served).elim).loosen
      fun identifier cached served => by
        have other : identifier ≠ slot := fun same => callable cached (same ▸ served)
        simp [other]
  refine within_performWith (fun slot _ => within_readAlive passage reads slot)
    (fun slot given same => ?_) (fun slot given same => ?_) closes passage.release performed
  · subst same
    exact .mono (within_callFactory passage reads (.inr closes) slot given)
      (started (not_cached_of_callable (.inl ⟨slot, offered, rfl⟩)))
  · subst same
    exact .mono (within_callInjector passage reads (.inr closes) slot given)
      (started (not_cached_of_callable (.inr ⟨slot, offered, rfl⟩)))

private theorem leads_runWith {operations : List (Operation V)}
    (offered : ∀ operation ∈ operations, operation.Offered scope) {answers : List (Answer V)}
    (ran : scope.chronicled.runWith handler operations w = some (answers, after)) :
    scope.Leads w after := by
  have passage := scope.passage_leads
  refine within_runWith passage.refl passage.trans
    (fun operation member w _ middle _ _ performed settled => ?_) ran
  exact passage.trans (leads_performWith reads closes (offered operation member) performed)
    (within_settleWith (passage.refl middle) closes passage.trans (.same rfl rfl) settled)

end Steps

/-- However the reads of a run nest, and whatever its recipes do, the recipe of a cached slot is
started at most once, while the slot is being created. From when on the slot is settled, every read
that is asked for is answered with what the cell holds. Cells only move forward, and none is being
created after an operation. -/
theorem created_once (scope : Scope σ V) (host : σ) (operations : List (Operation V))
    (offered : ∀ operation ∈ operations, operation.Offered scope) :
    ∃ answers last, scope.chronicle host operations = some (answers, last) ∧
      scope.run operations (start host) = (answers, last.plain) ∧
      (∀ identifier slot, scope.served? identifier = some (.cached slot) →
        last.events.countP (Event.starts identifier) ≤ 1) ∧
      (∀ earlier later, last.events = earlier ++ later → ∀ w ∈ seen earlier,
        ∀ identifier slot result, scope.served? (scope.target identifier) = some (.cached slot) →
          (w.cells slot.identifier).outcome? = some result →
          ∀ before reply after, .asked identifier before ∈ later →
            .answered identifier before reply after ∈ last.events → reply = .ofExcept result) ∧
      (∀ event ∈ last.events, event.Faithful scope) ∧ Asked last.events ∧
      (start host :: (seen last.events ++ [last.plain])).Pairwise World.Forward ∧
      ∀ slot, last.cells slot ≠ .creating := by
  obtain ⟨answers, last, written, plain⟩ := scope.exists_chronicle host operations
  obtain ⟨reads, closes⟩ := scope.leads_chronicler (scope.potential (start host : World σ V) + 1)
  obtain ⟨events, same, segment⟩ := leads_runWith reads closes offered written
  obtain rfl : last.events = events := same
  refine ⟨answers, last, written, plain, fun identifier slot served => ?_, ?_, segment.faithful,
    segment.asked, segment.ordered, fun slot creating => ?_⟩
  · have paid := segment.starts identifier slot served
    have full := World.spent_le_one last.plain identifier
    omega
  · intro earlier later split w member identifier slot result served settled before reply after asked
      answered
    have faithful := segment.faithful _ answered slot served
    have forward : w.Forward before := by
      have ordered := segment.ordered
      rw [split, seen_append] at ordered
      have listed : before ∈ seen later := List.mem_filterMap.mpr ⟨_, asked, rfl⟩
      simp only [List.append_assoc, List.pairwise_cons, List.pairwise_append] at ordered
      exact ordered.2.2.2 w member before (List.mem_append_left _ listed)
    have kept := (forward slot.identifier).outcome? settled
    rw [kept, Cell.answer?_of_outcome? settled] at faithful
    exact faithful
  · exact nomatch (segment.creating slot).mpr creating

end Scope

/-- A lamp, which the scope closes, with another name for it; a switch, which has a handle to the
lamp; and a factory of dimmers for the lamp. -/
def Plan.studio : Plan where
  package := "demo"
  scopeName := "Studio"
  values := []
  aliases := [⟨"light", "Light", "Light", "lamp"⟩]
  cached := [
    ⟨0, "lamp", "Lamp", "Lamp", .constructor (.named "Lamp"), [], true⟩,
    ⟨1, "switch", "Switch", "Switch", .constructor (.named "Switch"), [.lazy "light"], false⟩]
  factories := [⟨"dimming", "Dimming", "Dimming", "dim", [], .named "Dimmer", [.slot "light"]⟩]
  injectors := []

namespace Scope

/-- A studio whose switch reads the lamp and itself while it is created, and then fails. -/
def studio : Scope Unit Bool where
  plan := .studio
  values := .empty
  recipes := {
    constructors := [
      ("Lamp", fun _ => .finish (.fresh true)),
      ("Switch", fun _ => .read "light" fun _ => .read "switch" fun
        | .ok _ => .finish (.fresh false)
        | .error failure => .fail (.foreign failure.message)),
      ("Dimmer", fun _ => .finish (.fresh false))] }
  host := {
    typeName := fun lit => if lit then "Lamp" else "Switch"
    factoryName := "Factory"
    injectorName := "Injector"
    closer := fun lit => if lit then some (.finish ()) else none }

theorem created_once_studio :
    let dimming : FactorySlot :=
      ⟨"dimming", "Dimming", "Dimming", "dim", [], .named "Dimmer", [.slot "light"]⟩
    let operations : List (Operation Bool) :=
      [.read "switch", .callFactory dimming [], .read "light", .read "switch"]
    let failure := RuntimeError.creationFailed "switch"
      "Circular dependency or failed initialization for switch"
    (∀ operation ∈ operations, operation.Offered studio) ∧
      (studio.run operations (start ())).1 = [.failed failure, .shared ⟨.made 1, .host false⟩,
        .shared ⟨.made 0, .host true⟩, .failed failure] ∧
      ∃ answers last, studio.chronicle () operations = some (answers, last) ∧
        last.events.countP (Event.starts "lamp") ≤ 1 ∧
        last.events.countP (Event.starts "switch") ≤ 1 ∧
        (start () :: (seen last.events ++ [last.plain])).Pairwise World.Forward := by
  intro dimming operations failure
  have offered : ∀ operation ∈ operations, operation.Offered studio := by
    simp [operations, Operation.Offered, studio, Plan.studio, dimming]
  obtain ⟨answers, last, written, _, once, _, _, _, ordered, _⟩ :=
    created_once studio () operations offered
  exact ⟨offered, by rfl, answers, last, written, once "lamp" _ (by rfl), once "switch" _ (by rfl),
    ordered⟩

end Scope

end Wiring
