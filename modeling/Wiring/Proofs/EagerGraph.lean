import Mathlib.Data.List.Chain
import Mathlib.Data.List.Nodup
import Mathlib.Logic.Relation
import Wiring.Plan.Cycle
import Wiring.Success

/-! # The graph of eager reads

An identifier stands for the last slot that carries it, and reads eagerly what that slot needs
before it can be created. The depth-first search is sound and complete for cycles of this graph.
A slot is validated only after everything it reads, so a list of validated slots, newest first, is
an order in which every edge points towards the end. The path is a walk of the graph without
repetition, so the part of it that a blocked search reports is a cycle.

Nothing is asked of the plan: identifiers may be repeated and references may lead nowhere.
-/

namespace Wiring.Plan

/-- The slot carries the identifier, and no later slot does. -/
def Last (plan : Plan) (identifier : String) (slot : Slot) : Prop :=
  ∃ before after, plan.slots = before ++ slot :: after ∧ slot.identifier = identifier ∧
    ∀ other ∈ after, other.identifier ≠ identifier

/-- Reading the first identifier reads the second one at once. -/
def Eager (plan : Plan) (reader read : String) : Prop :=
  ∃ slot, plan.Last reader slot ∧ read ∈ slot.eagerDependencies

/-- No identifier leads back to itself along eager reads. -/
def Acyclic (plan : Plan) : Prop := ∀ identifier, ¬ Relation.TransGen plan.Eager identifier identifier

/-- A walk along eager reads that ends where it starts and meets no other slot twice. -/
structure IsCycle (plan : Plan) (chain : List String) : Prop where
  long : 2 ≤ chain.length
  closed : chain.head? = chain.getLast?
  simple : chain.dropLast.Nodup
  linked : chain.IsChain plan.Eager

variable {plan : Plan} {path validated : List String} {slot reader read : String}

/-- The last slot of an identifier is the one that none of this identifier follows. -/
theorem lastSlot?_eq_some_iff {found : Slot} :
    plan.lastSlot? slot = some found ↔ plan.Last slot found := by
  rw [lastSlot?, List.find?_eq_some_iff_append]
  constructor
  · rintro ⟨same, later, earlier, split, others⟩
    refine ⟨earlier.reverse, later.reverse, ?_, of_decide_eq_true same, fun other member => ?_⟩
    · simpa using congrArg List.reverse split
    · simpa using others other (List.mem_reverse.mp member)
  · rintro ⟨before, after, split, same, others⟩
    refine ⟨decide_eq_true same, after.reverse, before.reverse, by simp [split], ?_⟩
    exact fun other member => by simpa using others other (List.mem_reverse.mp member)

/-- Eager reads are the edges that the search follows. -/
theorem eager_iff_edges? :
    plan.Eager reader read ↔ ∃ edges, plan.edges? reader = some edges ∧ read ∈ edges := by
  simp only [Eager, edges?, Option.map_eq_some_iff]
  constructor
  · rintro ⟨slot, last, member⟩
    exact ⟨_, ⟨slot, lastSlot?_eq_some_iff.mpr last, rfl⟩, member⟩
  · rintro ⟨_, ⟨slot, found, rfl⟩, member⟩
    exact ⟨slot, lastSlot?_eq_some_iff.mp found, member⟩

theorem mem_edges_iff : read ∈ (plan.edges? reader).getD [] ↔ plan.Eager reader read := by
  rw [eager_iff_edges?]
  cases plan.edges? reader <;> simp

theorem Eager.mem_identifiers (eager : plan.Eager reader read) : reader ∈ plan.identifiers := by
  obtain ⟨edges, found, _⟩ := eager_iff_edges?.mp eager
  exact mem_identifiers_of_edges? found

section Visiting

/-! ## What a visit does -/

/-- A slot that is validated already is passed over. -/
theorem visit_of_mem (known : slot ∈ validated) :
    plan.visit path validated slot = .ok validated := by
  rw [visit, if_pos known]

/-- A slot that is on the path closes a cycle. -/
theorem visit_of_onPath (fresh : slot ∉ validated) (met : slot ∈ path) :
    plan.visit path validated slot = .error ⟨⟨path, validated⟩, slot⟩ := by
  rw [visit, if_neg fresh, dif_pos met]

/-- A slot without edges is validated at once. -/
theorem visit_of_edges?_none (fresh : slot ∉ validated) (unmet : slot ∉ path)
    (leaves : plan.edges? slot = none) :
    plan.visit path validated slot = .ok (slot :: validated) := by
  rw [visit, if_neg fresh, dif_neg unmet]
  split <;> simp_all

/-- Any other slot is validated after all that it reads. -/
theorem visit_of_edges?_some {edges : List String} (fresh : slot ∉ validated)
    (unmet : slot ∉ path) (found : plan.edges? slot = some edges) :
    plan.visit path validated slot =
      (slot :: ·) <$> plan.visitAll (path ++ [slot]) validated edges := by
  rw [visit, if_neg fresh, dif_neg unmet]
  split
  · simp_all
  next others same =>
    obtain rfl : edges = others := Option.some.inj (found.symm.trans same)
    cases plan.visitAll (path ++ [slot]) validated edges <;> rfl

theorem visitAll_cons (rest : List String) :
    plan.visitAll path validated (slot :: rest) =
      (plan.visit path validated slot >>= fun validated => plan.visitAll path validated rest) := by
  rw [visitAll]
  cases plan.visit path validated slot <;> rfl

end Visiting

section Validated

/-! ## Validated slots lead to no cycle -/

/-- Whatever a slot of the list reads eagerly comes after it. -/
def Settled (plan : Plan) : List String → Prop
  | [] => True
  | slot :: rest => (∀ read, plan.Eager slot read → read ∈ rest) ∧ plan.Settled rest

theorem Settled.mem_of_eager (settled : plan.Settled validated) (member : reader ∈ validated)
    (eager : plan.Eager reader read) : read ∈ validated := by
  induction validated with
  | nil => cases member
  | cons head rest ih =>
    rcases List.mem_cons.mp member with rfl | later
    · exact List.mem_cons_of_mem _ (settled.1 read eager)
    · exact List.mem_cons_of_mem _ (ih settled.2 later)

private theorem Settled.mem_of_reflTransGen (settled : plan.Settled validated)
    (member : reader ∈ validated) (walk : Relation.ReflTransGen plan.Eager reader read) :
    read ∈ validated := by
  induction walk with
  | refl => exact member
  | tail _ eager ih => exact settled.mem_of_eager ih eager

/-- Take the last occurrence of the slot: all that it reads comes later, where it is not. -/
theorem Settled.not_transGen (settled : plan.Settled validated) (member : slot ∈ validated) :
    ¬ Relation.TransGen plan.Eager slot slot := by
  induction validated with
  | nil => cases member
  | cons head rest ih =>
    by_cases later : slot ∈ rest
    · exact ih settled.2 later
    · obtain rfl : slot = head := (List.mem_cons.mp member).resolve_right later
      intro cycle
      obtain ⟨next, eager, walk⟩ := Relation.TransGen.head'_iff.mp cycle
      exact later (settled.2.mem_of_reflTransGen (settled.1 next eager) walk)

private theorem Settled.acc (settled : plan.Settled validated) (member : slot ∈ validated) :
    Acc (fun read reader => plan.Eager reader read) slot := by
  induction validated generalizing slot with
  | nil => cases member
  | cons head rest ih =>
    rcases List.mem_cons.mp member with rfl | later
    · exact ⟨_, fun read eager => ih settled.2 (settled.1 read eager)⟩
    · exact ih settled.2 later

/-- Visits that succeed validate their slots and keep the order. -/
theorem visits_settled (plan : Plan) :
    (∀ path validated slot after, plan.visit path validated slot = .ok after →
      plan.Settled validated → plan.Settled after ∧ slot ∈ after ∧ validated ⊆ after) ∧
    (∀ path validated slots after, plan.visitAll path validated slots = .ok after →
      plan.Settled validated → plan.Settled after ∧ slots ⊆ after ∧ validated ⊆ after) := by
  refine visit.mutual_induct plan _ _ ?known ?met ?leaves ?blocked ?done ?none ?stops ?all
  case known =>
    intro path validated slot known after ran settled
    rw [visit_of_mem known] at ran
    cases ran
    exact ⟨settled, known, List.Subset.refl _⟩
  case met =>
    intro path validated slot fresh met after ran
    rw [visit_of_onPath fresh met] at ran
    cases ran
  case leaves =>
    intro path validated slot fresh unmet leaves after ran settled
    rw [visit_of_edges?_none fresh unmet leaves] at ran
    cases ran
    refine ⟨⟨fun read eager => ?_, settled⟩, List.mem_cons_self, List.subset_cons_self _ _⟩
    obtain ⟨edges, found, _⟩ := eager_iff_edges?.mp eager
    rw [leaves] at found
    cases found
  case blocked =>
    intro path validated slot fresh unmet edges found blocked stopped _ after ran
    rw [visit_of_edges?_some fresh unmet found, stopped] at ran
    cases ran
  case done =>
    intro path validated slot fresh unmet edges found visited visitedAll ih after ran settled
    rw [visit_of_edges?_some fresh unmet found, visitedAll] at ran
    cases ran
    obtain ⟨order, reads, kept⟩ := ih visited visitedAll settled
    refine ⟨⟨fun read eager => ?_, order⟩, List.mem_cons_self, List.subset_cons_of_subset _ kept⟩
    obtain ⟨others, same, member⟩ := eager_iff_edges?.mp eager
    obtain rfl : edges = others := Option.some.inj (found.symm.trans same)
    exact reads member
  case none =>
    intro path validated after ran settled
    rw [visitAll] at ran
    cases ran
    exact ⟨settled, List.nil_subset _, List.Subset.refl _⟩
  case stops =>
    intro path validated slot rest blocked stopped _ after ran
    rw [visitAll_cons, stopped] at ran
    cases ran
  case all =>
    intro path validated slot rest middle visited first others after ran settled
    rw [visitAll_cons, visited] at ran
    obtain ⟨order, here, kept⟩ := first middle visited settled
    obtain ⟨last, later, keptAll⟩ := others after ran order
    exact ⟨last, List.cons_subset.mpr ⟨keptAll here, later⟩, fun _ member => keptAll (kept member)⟩

/-- A search that succeeds has every slot of the plan in order. -/
theorem settled_of_checkCycles (checked : plan.checkCycles = .ok ()) :
    ∃ validated, plan.Settled validated ∧ plan.identifiers ⊆ validated := by
  unfold checkCycles resume at checked
  split at checked
  next validated ran =>
    obtain ⟨settled, all, _⟩ := (visits_settled plan).2 _ _ _ _ ran trivial
    exact ⟨validated, settled, all⟩
  next => cases checked

/-- A plan that passes the search has no cycle. -/
theorem acyclic_of_checkCycles (checked : plan.checkCycles = .ok ()) : plan.Acyclic := by
  obtain ⟨validated, settled, all⟩ := settled_of_checkCycles checked
  intro identifier cycle
  obtain ⟨next, eager, _⟩ := Relation.TransGen.head'_iff.mp cycle
  exact settled.not_transGen (all eager.mem_identifiers) cycle

/-- What a plan without cycles reads eagerly can be followed by recursion. -/
theorem wellFounded_of_checkCycles (checked : plan.checkCycles = .ok ()) :
    WellFounded fun read reader => plan.Eager reader read := by
  obtain ⟨validated, settled, all⟩ := settled_of_checkCycles checked
  refine ⟨fun identifier => ⟨_, fun read eager => ?_⟩⟩
  exact settled.acc (settled.mem_of_eager (all eager.mem_identifiers) eager)

end Validated

section Blocking

/-! ## A blocked search has found a cycle -/

/-- The path is a walk without repetition, and the slot it stopped at is on it and read by its
last slot. -/
def OnWalk (plan : Plan) (blocked : Blocked) : Prop :=
  blocked.search.path.Nodup ∧ blocked.slot ∈ blocked.search.path ∧
    (blocked.search.path ++ [blocked.slot]).IsChain plan.Eager

/-- The path stays a walk without repetition until a visit is blocked. -/
theorem visits_blocked (plan : Plan) :
    (∀ path validated slot blocked, plan.visit path validated slot = .error blocked →
      path.Nodup → (path ++ [slot]).IsChain plan.Eager → plan.OnWalk blocked) ∧
    (∀ path validated slots blocked, plan.visitAll path validated slots = .error blocked →
      path.Nodup → (∀ slot ∈ slots, (path ++ [slot]).IsChain plan.Eager) →
        plan.OnWalk blocked) := by
  refine visit.mutual_induct plan _ _ ?known ?met ?leaves ?blocked ?done ?none ?stops ?all
  case known =>
    intro path validated slot known blocked ran
    rw [visit_of_mem known] at ran
    cases ran
  case met =>
    intro path validated slot fresh met blocked ran nodup walk
    rw [visit_of_onPath fresh met] at ran
    cases ran
    exact ⟨nodup, met, walk⟩
  case leaves =>
    intro path validated slot fresh unmet leaves blocked ran
    rw [visit_of_edges?_none fresh unmet leaves] at ran
    cases ran
  case blocked =>
    intro path validated slot fresh unmet edges found inner stopped ih blocked ran nodup walk
    rw [visit_of_edges?_some fresh unmet found, stopped] at ran
    cases ran
    refine ih inner stopped ?_ fun read member => ?_
    · exact path.concat_eq_append ▸ List.Nodup.concat unmet nodup
    · have eager : plan.Eager slot read := eager_iff_edges?.mpr ⟨edges, found, member⟩
      rw [List.append_assoc]
      exact List.isChain_append_cons_cons.mpr ⟨walk, eager, List.isChain_singleton _⟩
  case done =>
    intro path validated slot fresh unmet edges found visited visitedAll _ blocked ran
    rw [visit_of_edges?_some fresh unmet found, visitedAll] at ran
    cases ran
  case none =>
    intro path validated blocked ran
    rw [visitAll] at ran
    cases ran
  case stops =>
    intro path validated slot rest inner stopped ih blocked ran nodup walks
    rw [visitAll_cons, stopped] at ran
    cases ran
    exact ih inner stopped nodup (walks slot List.mem_cons_self)
  case all =>
    intro path validated slot rest middle visited _ ih blocked ran nodup walks
    rw [visitAll_cons, visited] at ran
    exact ih blocked ran nodup fun other later => walks other (List.mem_cons_of_mem _ later)

/-- From the slot it stopped at, the walk of a blocked search closes to a cycle. -/
theorem OnWalk.isCycle {blocked : Blocked} (onWalk : plan.OnWalk blocked) :
    plan.IsCycle blocked.chain := by
  obtain ⟨⟨path, validated⟩, slot⟩ := blocked
  obtain ⟨nodup, onPath, walk⟩ := onWalk
  dsimp only at nodup onPath walk
  obtain ⟨before, after, rfl, first⟩ := List.eq_append_cons_of_mem onPath
  have chain : Blocked.chain ⟨⟨before ++ slot :: after, validated⟩, slot⟩
      = (slot :: after) ++ [slot] := by
    have passed : ∀ other ∈ before, decide (other ≠ slot) = true := fun other member =>
      decide_eq_true fun same => first (same ▸ member)
    simp only [Blocked.chain, List.dropWhile_append_of_pos passed]
    simp
  rw [chain]
  refine ⟨by simp, by rw [List.getLast?_concat]; rfl, ?_, ?_⟩
  · rw [List.dropLast_concat]
    exact (List.nodup_append.mp nodup).2.1
  · rw [List.append_assoc] at walk
    exact walk.suffix (List.suffix_append _ _)

/-- A search that fails reports a cycle. -/
theorem isCycle_of_checkCycles {error : CompileError}
    (checked : plan.checkCycles = .error error) :
    ∃ chain, error = .circularDependency chain ∧ plan.IsCycle chain := by
  unfold checkCycles resume at checked
  split at checked
  next => cases checked
  next blocked ran =>
    cases checked
    have onWalk := (visits_blocked plan).2 _ _ _ _ ran List.nodup_nil
      fun slot _ => List.isChain_singleton slot
    exact ⟨blocked.chain, rfl, onWalk.isCycle⟩

/-- A closed walk leads from its first slot back to it. -/
theorem IsCycle.not_acyclic {chain : List String} (cycle : plan.IsCycle chain) :
    ¬ plan.Acyclic := by
  obtain ⟨long, closed, _, linked⟩ := cycle
  match chain with
  | [] | [_] => simp at long
  | first :: second :: rest =>
    intro acyclic
    obtain ⟨eager, walk⟩ := List.isChain_cons_cons.mp linked
    refine acyclic first (Relation.TransGen.head'_iff.mpr ⟨second, eager, ?_⟩)
    refine List.relationReflTransGen_of_exists_isChain_cons rest walk ?_
    rw [List.head?_cons, List.getLast?_cons_cons, List.getLast?_eq_some_getLast (by simp)] at closed
    exact (Option.some.inj closed).symm

end Blocking

/-- A plan without a cycle passes the search. -/
theorem checkCycles_of_acyclic (acyclic : plan.Acyclic) : plan.checkCycles = .ok () := by
  cases checked : plan.checkCycles with
  | ok result => rfl
  | error error =>
    obtain ⟨chain, _, cycle⟩ := isCycle_of_checkCycles checked
    exact (cycle.not_acyclic acyclic).elim

/-- The check accepts exactly the plans without a cycle of eager reads, and what it reports against
any other is such a cycle. -/
theorem checkCycles_eq_ok_iff_acyclic (plan : Plan) :
    (plan.checkCycles = .ok () ↔ plan.Acyclic) ∧
      ∀ error, plan.checkCycles = .error error →
        ∃ chain, error = .circularDependency chain ∧ plan.IsCycle chain := by
  exact ⟨⟨acyclic_of_checkCycles, checkCycles_of_acyclic⟩, fun error => isCycle_of_checkCycles⟩

end Wiring.Plan
