import Mathlib.Logic.Function.Iterate
import Wiring.Proofs.EagerGraph

/-! # A search that is run again

Each run of a search goes on from where the one before it stopped. After a run that succeeds nothing
is left to visit, so every later run succeeds as well.

After a run that is blocked the slots of its path are still marked as being visited, and none of them
is validated. The next run passes what is validated, comes to the first slot of that path and is
blocked there, so it reports the whole path, closed by its first slot. That is the cycle of the first
run if the cycle goes through the slot where the path began. If the path only leads to the cycle, the
later report is a longer chain, and no cycle unless the last slot happens to read the first one.

Main statements: `Plan.verdicts` and `Plan.verdict_hallway`.
-/

namespace Wiring.Plan

/-- Where the search is after so many runs. -/
def searchAfter (plan : Plan) (runs : Nat) : Search := (fun search => (plan.resume search).2)^[runs] {}

/-- What the search answers when it is run after so many other runs. -/
def verdict (plan : Plan) (runs : Nat) : Except CompileError Unit :=
  (plan.resume (plan.searchAfter runs)).1

variable {plan : Plan} {path validated : List String} {slot : String} {search : Search}

private theorem verdict_zero (plan : Plan) : plan.verdict 0 = plan.checkCycles := rfl

private theorem searchAfter_succ (plan : Plan) (runs : Nat) :
    plan.searchAfter (runs + 1) = (plan.resume (plan.searchAfter runs)).2 :=
  Function.iterate_succ_apply' _ _ _

/-- A run that leaves the search where it was is answered in the same way ever after. -/
theorem resume_searchAfter {answer : Except CompileError Unit} {first : Nat}
    (again : plan.resume search = (answer, search)) (reached : plan.searchAfter first = search)
    (runs : Nat) : plan.resume (plan.searchAfter (first + runs)) = (answer, search) := by
  induction runs with
  | zero => rw [Nat.add_zero, reached, again]
  | succ runs ih => rw [← Nat.add_assoc, searchAfter_succ, ih, again]

section Passing

/-! ## Validated slots are passed -/

theorem visitAll_of_subset {slots : List String} (known : slots ⊆ validated) :
    plan.visitAll path validated slots = .ok validated := by
  induction slots with
  | nil => rw [visitAll]
  | cons slot rest ih =>
    obtain ⟨here, later⟩ := List.cons_subset.mp known
    rw [visitAll_cons, visit_of_mem here]
    exact ih later

private theorem visitAll_append {slots : List String} (others : List String) :
    plan.visitAll path validated (slots ++ others) =
      (plan.visitAll path validated slots >>= fun validated => plan.visitAll path validated others) := by
  induction slots generalizing validated with
  | nil => rw [List.nil_append, visitAll]; rfl
  | cons slot rest ih =>
    rw [List.cons_append, visitAll_cons, visitAll_cons, bind_assoc]
    exact bind_congr fun _ => ih

/-- A sequence is blocked at one of its slots, and the ones before it have been visited. -/
theorem visitAll_eq_error {slots : List String} {blocked : Blocked}
    (stopped : plan.visitAll path validated slots = .error blocked) :
    ∃ before slot after visited, slots = before ++ slot :: after ∧
      plan.visitAll path validated before = .ok visited ∧
      plan.visit path visited slot = .error blocked := by
  induction slots generalizing validated with
  | nil => rw [visitAll] at stopped; cases stopped
  | cons slot rest ih =>
    rw [visitAll_cons] at stopped
    rcases bind_eq_error.mp stopped with here | ⟨middle, visited, later⟩
    · exact ⟨[], slot, rest, validated, rfl, by rw [visitAll], here⟩
    · obtain ⟨before, stop, after, last, rfl, passed, stuck⟩ := ih later
      refine ⟨slot :: before, stop, after, last, rfl, ?_, stuck⟩
      rw [visitAll_cons, visited]
      exact passed

end Passing

section Marks

/-! ## No slot of the path is validated -/

/-- What was validated stays so, and no slot of the path is validated. When the visit is blocked the
path has only grown. -/
def Marks (path validated : List String) : Except Blocked (List String) → Prop
  | .ok after => validated ⊆ after ∧ path.Disjoint after
  | .error blocked => validated ⊆ blocked.search.validated ∧ path <+: blocked.search.path ∧
      blocked.search.path.Disjoint blocked.search.validated

private theorem Marks.after {visited : List String} {result : Except Blocked (List String)}
    (marks : Marks path visited result) (kept : validated ⊆ visited) : Marks path validated result := by
  cases result with
  | ok after => exact ⟨fun _ member => marks.1 (kept member), marks.2⟩
  | error blocked => exact ⟨fun _ member => marks.1 (kept member), marks.2⟩

theorem visits_marks (plan : Plan) :
    (∀ path validated slot, path.Disjoint validated →
      Marks path validated (plan.visit path validated slot)) ∧
    (∀ path validated slots, path.Disjoint validated →
      Marks path validated (plan.visitAll path validated slots)) := by
  have entered {path validated : List String} {slot : String} (fresh : slot ∉ validated)
      (apart : path.Disjoint validated) : (path ++ [slot]).Disjoint validated :=
    List.disjoint_append_left.mpr ⟨apart, List.singleton_disjoint.mpr fresh⟩
  refine visit.mutual_induct plan _ _ ?known ?met ?leaves ?blocked ?done ?none ?stops ?all
  case known =>
    intro path validated slot known apart
    rw [visit_of_mem known]
    exact ⟨List.Subset.refl _, apart⟩
  case met =>
    intro path validated slot fresh met apart
    rw [visit_of_onPath fresh met]
    exact ⟨List.Subset.refl _, List.prefix_refl _, apart⟩
  case leaves =>
    intro path validated slot fresh unmet leaves apart
    rw [visit_of_edges?_none fresh unmet leaves]
    exact ⟨List.subset_cons_self _ _, List.disjoint_cons_right.mpr ⟨unmet, apart⟩⟩
  case blocked =>
    intro path validated slot fresh unmet edges found inner stopped ih apart
    rw [visit_of_edges?_some fresh unmet found, stopped]
    rw [stopped] at ih
    obtain ⟨kept, grown, still⟩ := ih (entered fresh apart)
    exact ⟨kept, (List.prefix_append _ _).trans grown, still⟩
  case done =>
    intro path validated slot fresh unmet edges found visited visitedAll ih apart
    rw [visit_of_edges?_some fresh unmet found, visitedAll]
    rw [visitedAll] at ih
    obtain ⟨kept, still⟩ := ih (entered fresh apart)
    have above : path.Disjoint visited := (List.disjoint_append_left.mp still).1
    exact ⟨List.subset_cons_of_subset _ kept, List.disjoint_cons_right.mpr ⟨unmet, above⟩⟩
  case none =>
    intro path validated apart
    rw [visitAll]
    exact ⟨List.Subset.refl _, apart⟩
  case stops =>
    intro path validated slot rest inner stopped ih apart
    rw [visitAll_cons, stopped]
    rw [stopped] at ih
    exact ih apart
  case all =>
    intro path validated slot rest middle visited first others apart
    rw [visitAll_cons, visited]
    rw [visited] at first
    obtain ⟨kept, still⟩ := first apart
    exact (others still).after kept

/-- A visit that starts with an empty path is blocked on a path that begins with the visited slot. -/
theorem head?_of_visit {blocked : Blocked} (stopped : plan.visit [] validated slot = .error blocked) :
    blocked.search.path.head? = some slot := by
  have fresh : slot ∉ validated := fun known => by rw [visit_of_mem known] at stopped; cases stopped
  cases found : plan.edges? slot with
  | none =>
    rw [visit_of_edges?_none fresh List.not_mem_nil found] at stopped
    cases stopped
  | some edges =>
    rw [visit_of_edges?_some fresh List.not_mem_nil found] at stopped
    cases ran : plan.visitAll [slot] validated edges with
    | ok visited =>
      rw [List.nil_append, ran] at stopped
      cases stopped
    | error inner =>
      rw [List.nil_append, ran] at stopped
      cases stopped
      have marks := (visits_marks plan).2 [slot] validated edges (List.singleton_disjoint.mpr fresh)
      rw [ran] at marks
      exact (List.singleton_prefix_iff_head?_eq_some ..).mp marks.2.1

end Marks

section Runs

/-! ## Later runs -/

private theorem resume_of_ok {after : List String}
    (ran : plan.visitAll search.path search.validated plan.identifiers = .ok after) :
    plan.resume search = (.ok (), { search with validated := after }) := by
  rw [resume, ran]

theorem resume_of_error {blocked : Blocked}
    (ran : plan.visitAll search.path search.validated plan.identifiers = .error blocked) :
    plan.resume search = (.error (.circularDependency blocked.chain), blocked.search) := by
  rw [resume, ran]

/-- A run that is blocked leaves the search below the first slot of its path, where the next run is
blocked in turn and stays. -/
theorem resume_of_blocked {blocked : Blocked}
    (stopped : plan.visitAll [] [] plan.identifiers = .error blocked) :
    ∃ root, blocked.search.path.head? = some root ∧
      plan.resume blocked.search =
        (.error (.circularDependency (blocked.search.path ++ [root])), blocked.search) := by
  obtain ⟨before, root, after, visited, split, passed, stuck⟩ := visitAll_eq_error stopped
  have rooted := head?_of_visit stuck
  have marks := (visits_marks plan).1 [] visited root (List.disjoint_nil_left _)
  rw [stuck] at marks
  obtain ⟨kept, _, apart⟩ := marks
  have onPath : root ∈ blocked.search.path := List.mem_of_mem_head? rooted
  have known : before ⊆ blocked.search.validated := fun _ member =>
    kept (((visits_settled plan).2 _ _ _ _ passed trivial).2.1 member)
  have again : plan.visitAll blocked.search.path blocked.search.validated plan.identifiers =
      .error ⟨blocked.search, root⟩ := by
    rw [split, visitAll_append, visitAll_of_subset known]
    change plan.visitAll _ _ (root :: after) = _
    rw [visitAll_cons, visit_of_onPath (apart onPath) onPath]
    rfl
  have whole : Blocked.chain ⟨blocked.search, root⟩ = blocked.search.path ++ [root] := by
    obtain ⟨rest, path⟩ := List.head?_eq_some_iff.mp rooted
    simp [Blocked.chain, path]
  exact ⟨root, rooted, by rw [resume_of_error again, whole]⟩

/-- The chain that closes at the first slot of the path is the one that closes at the met slot if these
are one slot. -/
theorem whole_eq_chain_iff {blocked : Blocked} {root : String}
    (rooted : blocked.search.path.head? = some root) :
    blocked.search.path ++ [root] = blocked.chain ↔ blocked.slot = root := by
  obtain ⟨rest, path⟩ := List.head?_eq_some_iff.mp rooted
  constructor
  · intro same
    exact (List.singleton_inj.mp (List.append_inj' same rfl).2).symm
  · rintro rfl
    simp [Blocked.chain, path]

/-- The whole path, closed by its first slot, is a cycle if its last slot reads the first one. -/
theorem OnWalk.isCycle_whole_iff {blocked : Blocked} {root : String} (onWalk : plan.OnWalk blocked)
    (rooted : blocked.search.path.head? = some root) :
    plan.IsCycle (blocked.search.path ++ [root]) ↔
      ∀ last ∈ blocked.search.path.getLast?, plan.Eager last root := by
  obtain ⟨nodup, onPath, walk⟩ := onWalk
  have linked : (blocked.search.path ++ [root]).IsChain plan.Eager ↔
      ∀ last ∈ blocked.search.path.getLast?, plan.Eager last root := by
    rw [List.isChain_append]
    simp [(List.isChain_append.mp walk).1]
  refine ⟨fun cycle => linked.mp cycle.linked, fun reads => ⟨?_, ?_, ?_, linked.mpr reads⟩⟩
  · have entered : 0 < blocked.search.path.length := List.length_pos_of_mem onPath
    rw [List.length_append, List.length_singleton]
    omega
  · rw [List.getLast?_concat, List.head?_append, rooted, Option.some_or]
  · rwa [List.dropLast_concat]

/-- A plan without cycles is accepted by every run. Of any other plan the first run reports a cycle, and
every later one the whole path of the first, closed by its first slot: the same chain if the cycle
closes there, and a cycle if the last slot of the path reads its first one. -/
theorem verdicts (plan : Plan) :
    (plan.Acyclic ∧ ∀ runs, plan.verdict runs = .ok ()) ∨
    (¬ plan.Acyclic ∧ ∃ blocked root, plan.OnWalk blocked ∧
      blocked.search.path.head? = some root ∧
      plan.verdict 0 = .error (.circularDependency blocked.chain) ∧ plan.IsCycle blocked.chain ∧
      (∀ runs, plan.verdict (runs + 1) =
        .error (.circularDependency (blocked.search.path ++ [root]))) ∧
      (blocked.search.path ++ [root] = blocked.chain ↔ blocked.slot = root) ∧
      (plan.IsCycle (blocked.search.path ++ [root]) ↔
        ∀ last ∈ blocked.search.path.getLast?, plan.Eager last root)) := by
  cases ran : plan.visitAll [] [] plan.identifiers with
  | ok validated =>
    have first : plan.resume {} = (.ok (), { validated }) := resume_of_ok ran
    have all : plan.identifiers ⊆ validated := ((visits_settled plan).2 _ _ _ _ ran trivial).2.1
    have again : plan.resume { validated } = (.ok (), { validated }) :=
      resume_of_ok (visitAll_of_subset all)
    have reached : plan.searchAfter 1 = { validated } := congrArg Prod.snd first
    refine .inl ⟨acyclic_of_checkCycles (congrArg Prod.fst first), fun runs => ?_⟩
    cases runs with
    | zero => exact congrArg Prod.fst first
    | succ runs =>
      rw [verdict, Nat.add_comm, resume_searchAfter again reached]
  | error blocked =>
    have first : plan.resume {} = (.error (.circularDependency blocked.chain), blocked.search) :=
      resume_of_error ran
    obtain ⟨root, rooted, again⟩ := resume_of_blocked ran
    have reached : plan.searchAfter 1 = blocked.search := congrArg Prod.snd first
    have onWalk : plan.OnWalk blocked := (visits_blocked plan).2 _ _ _ _ ran List.nodup_nil
      fun slot _ => List.isChain_singleton slot
    refine .inr ⟨onWalk.isCycle.not_acyclic, blocked, root, onWalk, rooted, congrArg Prod.fst first,
      onWalk.isCycle, fun runs => ?_, whole_eq_chain_iff rooted, onWalk.isCycle_whole_iff rooted⟩
    rw [verdict, Nat.add_comm, resume_searchAfter again reached]

/-- A lamp and a switch that need each other, in a hallway that needs the lamp. -/
def hallway : Plan where
  package := "demo"
  scopeName := "Hallway"
  values := []
  aliases := []
  cached := [
    ⟨0, "hallway", "Hallway", "Hallway", .constructor (.named "Hallway"), [.slot "lamp"], false⟩,
    ⟨1, "lamp", "Lamp", "Lamp", .constructor (.named "Lamp"), [.slot "switch"], false⟩,
    ⟨2, "switch", "Switch", "Switch", .constructor (.named "Switch"), [.slot "lamp"], false⟩]
  factories := []
  injectors := []

/-- The first run reports the cycle, and the second one a chain that is none: the switch does not need
the hallway. -/
theorem verdict_hallway :
    hallway.verdict 0 = .error (.circularDependency ["lamp", "switch", "lamp"]) ∧
    hallway.verdict 1 = .error (.circularDependency ["hallway", "lamp", "switch", "hallway"]) ∧
    hallway.IsCycle ["lamp", "switch", "lamp"] ∧
    ¬ hallway.IsCycle ["hallway", "lamp", "switch", "hallway"] := by
  let stuck : Search := { path := ["hallway", "lamp", "switch"], validated := [] }
  have start : hallway.resume {} = (.error (.circularDependency ["lamp", "switch", "lamp"]), stuck) := by
    cbv
  have again : hallway.resume stuck =
      (.error (.circularDependency ["hallway", "lamp", "switch", "hallway"]), stuck) := by cbv
  have first : hallway.verdict 0 = .error (.circularDependency ["lamp", "switch", "lamp"]) :=
    congrArg Prod.fst start
  have reached : hallway.searchAfter 1 = stuck := congrArg Prod.snd start
  have second : hallway.verdict 1 =
      .error (.circularDependency ["hallway", "lamp", "switch", "hallway"]) := by
    rw [verdict, reached, again]
  obtain ⟨chain, same, cycle⟩ := isCycle_of_checkCycles (verdict_zero hallway ▸ first)
  cases same
  refine ⟨first, second, cycle, fun longer => ?_⟩
  have reads : hallway.Eager "switch" "hallway" := by
    obtain ⟨_, linked⟩ := List.isChain_cons_cons.mp longer.linked
    obtain ⟨_, linked⟩ := List.isChain_cons_cons.mp linked
    exact (List.isChain_cons_cons.mp linked).1
  have needs : hallway.edges? "switch" = some ["lamp"] := by decide
  obtain ⟨edges, found, member⟩ := eager_iff_edges?.mp reads
  obtain rfl : ["lamp"] = edges := Option.some.inj (needs.symm.trans found)
  exact absurd member (by decide)

end Runs

end Wiring.Plan
