import Wiring.Proofs.Scope.Provenance

/-! # Reads follow the validated edges

As long as no slot is read while a recipe runs, everything that reading a slot reads in turn lies
along an edge that the validator has checked, and no slot meets itself. A read is therefore the
same as one that has no answer off the edges: it follows aliases one by one, starves where a nested
read leaves the edges of the slot it is made for, starves at a cell that is being created, and
starves at every read of a closer.

Nothing is asked of the plan but that a scope opens with it: identifiers may be repeated and
references may lead nowhere. Main statement: `Scope.guided_eq_read`.
-/

namespace Wiring

variable {σ V α : Type}

namespace Scope

variable {scope : Scope σ V}

/-- Failures of slots that meet themselves are raised by programs of their own accord. -/
abbrev quiet (scope : Scope σ V) : Conduct σ V := scope.within .any (·.isCircular = false)

/-- Every scope keeps to its quiet conduct, since handles to all slots are known there. -/
theorem behaves_quiet (scope : Scope σ V) : scope.Behaves scope.quiet :=
  behaves_within scope.behaves_any

theorem admits_quiet (quiet : scope.Quiet .any) : scope.quiet.Admits :=
  admits_within (fun _ residual => by cases residual <;> rfl) fun noisy => (noisy quiet).elim

theorem callable_fits_quiet (callable : Callable) : callable.Fits scope.quiet scope := by
  intro error missing
  cases callable with
  | constructor type =>
    simp only [RecipeTable.require, RecipeTable.findConstructor] at missing
    cases found : scope.recipes.constructors.lookup type.name with
    | some recipe =>
      rw [found] at missing
      cases missing
    | none =>
      rw [found] at missing
      cases missing
      exact .inl rfl
  | method type name =>
    simp only [RecipeTable.require, RecipeTable.findMethod] at missing
    cases found : scope.recipes.methods.lookup (type.name, name) with
    | some recipe =>
      rw [found] at missing
      cases missing
    | none =>
      rw [found] at missing
      cases missing
      exact .inl rfl

theorem argument_fits_quiet (argument : Argument) (callers : Nat) :
    argument.Fits scope.quiet callers := by
  cases argument with
  | slot identifier => trivial
  | lazy identifier => trivial
  | curried index => exact .inr fun _ _ => .inl rfl

/-- A scope that has been checked fits this conduct, also if references lead nowhere. -/
theorem fits_of_check (checked : scope.check = .ok ()) : scope.Fits scope.quiet where
  supplied := supplied_of_check checked
  acyclic := Plan.acyclic_of_checkCycles (checkCycles_of_check checked)
  served _ _ _ := .inl rfl
  cached _ _ := ⟨fun _ _ _ _ _ => trivial, fun argument _ => argument_fits_quiet argument 0,
    fun _ _ _ _ => trivial, callable_fits_quiet _⟩

theorem operation_fits_quiet (operation : Operation V) : operation.Fits scope.quiet scope := by
  cases operation with
  | read slot => trivial
  | callFactory slot given =>
    exact ⟨⟨fun _ _ _ _ _ => trivial, fun argument _ => argument_fits_quiet argument _,
        callable_fits_quiet _⟩,
      fun _ _ _ _ => trivial, .inr fun _ _ => .inl rfl⟩
  | callInjector slot given =>
    exact ⟨⟨fun _ _ _ _ _ => trivial, trivial, fun argument _ => argument_fits_quiet argument _,
        callable_fits_quiet _⟩,
      fun _ _ _ _ => trivial, .inr fun _ _ => .inl rfl⟩
  | close => trivial
  | release => trivial

section Guided

/-! ## Guided reads -/

/-- Closes at a level, but has no answer to a read. -/
def silent (scope : Scope σ V) : Nat → Handler σ V
  | 0 => ⟨fun _ => .starved, .starved⟩
  | level + 1 => ⟨fun _ => .starved, scope.close (scope.silent level)⟩

/-- Reads along the edges that the validator knows of the identifier, and closes without reading. -/
def along (scope : Scope σ V) (identifier : String)
    (read : String → ScopeStep σ V RuntimeError (Instance V)) : Handler σ V where
  read next := if next ∈ (scope.plan.edges? identifier).getD [] then read next else .starved
  close w := (scope.silent (scope.potential w + 1)).close w

/-- Reads a slot, at most so many edges deep. -/
def guided (scope : Scope σ V) : Nat → String → ScopeStep σ V RuntimeError (Instance V)
  | 0, _ => .starved
  | depth + 1, identifier =>
    let nested := scope.along identifier (scope.guided depth)
    match scope.served? identifier with
    | some (.ready value) => .ok value
    | some (.aliased target) => nested.read target
    | some (.cached slot) => fun w =>
      if (w.cells slot.identifier).state = .creating then none else scope.access nested slot w
    | none => .error (.unknownSlot identifier)

private theorem refines_silent (scope : Scope σ V) :
    (level : Nat) → (scope.silent level).Refines (scope.handler level)
  | 0 => ⟨fun _ => .refl _, .refl _⟩
  | level + 1 => ⟨fun _ _ _ ran => (by cases ran), refines_close (refines_silent scope level)⟩

private theorem refines_along (identifier : String)
    {read : String → ScopeStep σ V RuntimeError (Instance V)}
    (refines : ∀ next, (read next).Refines (scope.unbounded.read next)) :
    (scope.along identifier read).Refines scope.unbounded where
  read next w result ran := by
    unfold along at ran
    dsimp only at ran
    split at ran
    · exact refines next w result ran
    · cases ran
  close w result ran := (refines_silent scope (scope.potential w + 1)).close w result ran

/-- Whatever a guided read is answered, a read is answered. -/
theorem refines_guided (checked : scope.check = .ok ()) (depth : Nat) (identifier : String) :
    (scope.guided depth identifier).Refines (scope.unbounded.read identifier) := by
  have supplied := supplied_of_check checked
  have acyclic := Plan.acyclic_of_checkCycles (checkCycles_of_check checked)
  induction depth generalizing identifier with
  | zero => exact fun _ _ ran => by cases ran
  | succ depth ih =>
    have nested := refines_along identifier ih
    have read := unbounded_read scope identifier
    unfold Scope.read at read
    cases served : scope.served? identifier with
    | none =>
      rw [target_of_not_aliased (by simp [served]), served] at read
      simp only [guided, served, read]
      exact .refl _
    | some found =>
      cases found with
      | ready value =>
        rw [target_of_not_aliased (by simp [served]), served] at read
        simp only [guided, served, read]
        exact .refl _
      | aliased target =>
        have same : scope.unbounded.read identifier = scope.unbounded.read target := by
          rw [unbounded_read scope target, Scope.read, ← target_of_aliased supplied acyclic served, read]
        simp only [guided, served, same]
        exact nested.read target
      | cached slot =>
        rw [target_of_not_aliased (by simp [served]), served] at read
        simp only [guided, served, read]
        intro w result ran
        dsimp only at ran
        split at ran
        · cases ran
        · exact refines_access nested slot w result ran

/-! ## Guided reads have answers -/

/-- Closers that read nothing never starve. -/
theorem closes_silent {conduct : Conduct σ V} (admits : conduct.Admits) (behaves : scope.Behaves conduct)
    (readFree : ¬ conduct.closersRead) (level : Nat) {marks : Marks} (below : marks.limit < level)
    {w : World σ V} (held : w.Fits conduct scope marks) :
    ∃ reply after, (scope.silent level).close w = some (reply, after) ∧
      after.Fits conduct scope { marks with closed := true } ∧
      reply.Meets (fun _ => True) (CloseError.Fits conduct) := by
  induction level generalizing marks w with
  | zero => exact absurd below (Nat.not_lt_zero _)
  | succ level ih =>
    refine meets_close admits behaves (fun positive => ⟨fun reads => (readFree reads).elim, ?_⟩) held
    intro _ w held
    have inner : marks.closing.limit < level := by
      simp only [Marks.closing]
      omega
    obtain ⟨reply, after, ran, kept, wanted⟩ := ih inner held
    exact ⟨reply, after, ran, kept.reopen (.inr rfl), wanted⟩

/-- What the requests of a recipe or of a late closer need: recipes read nothing, and where they
close the scope, closers read nothing either. -/
theorem lets_along (quiet : scope.Quiet .any) {marks : Marks} {identifier : String}
    {read : String → ScopeStep σ V RuntimeError (Instance V)} {reads closes : Prop}
    (readFree : ¬ reads) (late : closes → scope.quiet.recipesClose) :
    (scope.along identifier read).Lets scope.quiet scope marks reads closes where
  read may := (readFree may).elim
  close may w held := by
    have readFree : ¬ scope.quiet.closersRead :=
      fun reads => quiet.closing.elim (late may) fun free => reads free
    obtain ⟨reply, after, ran, kept, wanted⟩ :=
      closes_silent (admits_quiet quiet) scope.behaves_quiet readFree (scope.potential w + 1)
        (Nat.lt_succ_self _) held.tighten
    have kept : after.Fits scope.quiet scope { marks with closed := true } := kept.loosen held.limit
    exact ⟨reply, after, ran, kept.reopen (.inl (late may)), wanted⟩

/-- From this depth on, a guided read of the slot has an answer wherever the slot is apart from what
is being created. -/
def Reaches (scope : Scope σ V) (identifier : String) (depth : Nat) : Prop :=
  ∀ deeper ≥ depth, ∀ marks, scope.Apart marks identifier →
    (scope.guided deeper identifier).Meets (World.Fits scope.quiet scope marks)
      (Instance.Fits scope.quiet) scope.quiet.fails

private theorem exists_common_depth {identifiers : List String}
    (each : ∀ identifier ∈ identifiers, ∃ depth, scope.Reaches identifier depth) :
    ∃ depth, ∀ identifier ∈ identifiers, scope.Reaches identifier depth := by
  induction identifiers with
  | nil => exact ⟨0, List.forall_mem_nil _⟩
  | cons head rest ih =>
    obtain ⟨first, reaches⟩ := each head List.mem_cons_self
    obtain ⟨depth, others⟩ := ih fun other later => each other (List.mem_cons_of_mem _ later)
    refine ⟨max first depth, List.forall_mem_cons.mpr ⟨?_, fun other later => ?_⟩⟩
    · exact fun deeper deep => reaches deeper (Nat.le_trans (Nat.le_max_left _ _) deep)
    · exact fun deeper deep => others other later deeper (Nat.le_trans (Nat.le_max_right _ _) deep)

private theorem meets_along {marks : Marks} {identifier next : String} {depth deeper : Nat}
    (reaches : scope.Reaches next depth) (deep : depth ≤ deeper)
    (eager : scope.plan.Eager identifier next)
    (apart : scope.Apart marks next) :
    ((scope.along identifier (scope.guided deeper)).read next).Meets
      (World.Fits scope.quiet scope marks) (Instance.Fits scope.quiet) scope.quiet.fails := by
  simp only [along, if_pos (Plan.mem_edges_iff.mpr eager)]
  exact reaches deeper deep marks apart

private theorem state_ne_creating {marks : Marks} {w : World σ V} (held : w.Fits scope.quiet scope marks)
    {slot : String} (outside : ¬ marks.creating slot) : (w.cells slot).state ≠ .creating := by
  intro creating
  refine outside ((held.creating slot).mp ?_)
  cases cell : w.cells slot <;> rw [cell] at creating <;> cases creating

/-- Where the reads of a slot have answers, one more edge leads to an answer for the slot. -/
theorem reaches_succ (checked : scope.check = .ok ()) (quiet : scope.Quiet .any) {identifier : String}
    {depth : Nat} (edges : ∀ next, scope.plan.Eager identifier next → scope.Reaches next depth) :
    scope.Reaches identifier (depth + 1) := by
  have fits := fits_of_check checked
  intro deeper deep marks apart
  obtain ⟨deeper, rfl⟩ := Nat.exists_eq_add_of_le' (Nat.le_trans (Nat.le_add_left 1 depth) deep)
  have deep : depth ≤ deeper := by omega
  have eager {next : String} {found : Served V} (served : scope.served? identifier = some found)
      (member : next ∈ found.reads) : scope.plan.Eager identifier next :=
    (eager_iff_served? fits.supplied).mpr ⟨found, served, member⟩
  cases served : scope.served? identifier with
  | none =>
    simp only [guided, served]
    exact .error (.inl rfl)
  | some found =>
    cases found with
    | ready value =>
      simp only [guided, served]
      exact .ok (fits_of_ready scope.behaves_quiet served)
    | aliased target =>
      simp only [guided, served]
      have reads := eager served List.mem_cons_self
      exact meets_along (edges _ reads) deep reads fun other walk => apart other (.head reads walk)
    | cached slot =>
      obtain ⟨member, rfl⟩ := mem_cached_of_served? served
      intro w held
      simp only [guided, served, if_neg (state_ne_creating held (apart _ .refl))]
      refine meets_access (admits_quiet quiet) member
        (fun creating => (apart _ .refl creating).elim) (fun _ => ?_) w held
      refine meets_create (admits_quiet quiet) scope.behaves_quiet
        (lets_along quiet (fun reads => reads quiet.recipes) id)
        (fun late => lets_along quiet (fun reads => quiet.closing.elim late reads) fun _ => late)
        (fits.cached slot member) fun next listed => ?_
      have reads := eager served listed
      exact meets_along (edges _ reads) deep reads (apart.inside fits.acyclic reads)

/-- Reads along edges end, since the plan has no cycles. -/
theorem exists_reaches (checked : scope.check = .ok ()) (quiet : scope.Quiet .any) (identifier : String) :
    ∃ depth, scope.Reaches identifier depth := by
  have wellFounded := Plan.wellFounded_of_checkCycles (checkCycles_of_check checked)
  induction identifier using wellFounded.induction with
  | _ identifier ih =>
    obtain ⟨depth, reaches⟩ : ∃ depth, ∀ next ∈ (scope.plan.edges? identifier).getD [],
        scope.Reaches next depth := by
      refine exists_common_depth fun next member => ih next (Plan.eager_iff_edges?.mpr ?_)
      cases edges : scope.plan.edges? identifier with
      | none => simp [edges] at member
      | some listed => exact ⟨listed, rfl, by simpa [edges] using member⟩
    refine ⟨depth + 1, reaches_succ checked quiet fun next eager => ?_⟩
    obtain ⟨listed, found, member⟩ := Plan.eager_iff_edges?.mp eager
    exact reaches next (by simpa [found] using member)

end Guided

/-- No answer of a run says that a slot has met itself, but where a program raised that failure. And
in every state that a run leads to, reading any identifier has an answer, the same as when nested
reads are confined to the edges that the validator knows, which are those of what is served. -/
theorem guided_eq_read (checked : scope.check = .ok ()) (quiet : scope.Quiet .any) (host : σ)
    (operations : List (Operation V)) (identifier : String) :
    scope.plan.edges? identifier = (scope.served? identifier).map Served.reads ∧
      (∀ answer ∈ (scope.run operations (start host)).1, ∀ slot,
        answer.Reports (.circularDependency slot) → scope.Raises .any (.circularDependency slot)) ∧
      ∃ depth reply after, let w := (scope.run operations (start host)).2
        scope.guided depth identifier w = some (reply, after) ∧
        (scope.handler (scope.potential w + 1)).read identifier w = some (reply, after) ∧
        ∀ slot, reply = .error (.circularDependency slot) → scope.Raises .any (.circularDependency slot) := by
  have raised {slot : String} (fails : scope.quiet.fails (.circularDependency slot)) :
      scope.Raises .any (.circularDependency slot) := fails.resolve_left nofun
  obtain ⟨answers, steady⟩ := run_fits (admits_quiet quiet) scope.behaves_quiet (fits_of_check checked)
    (fun operation (_ : operation ∈ operations) => operation_fits_quiet operation)
    (steady_start (trivial : scope.quiet.state host))
  obtain ⟨depth, reaches⟩ := exists_reaches checked quiet identifier
  obtain ⟨reply, after, ran, _, wanted⟩ := reaches depth (Nat.le_refl _) _ (fun _ _ => id) _ steady
  refine ⟨edges?_eq_served? (supplied_of_check checked) identifier,
    fun answer member slot reports => raised (Answer.fails_of_reports (answers answer member) reports),
    depth, reply, after, ran, refines_guided checked depth identifier _ _ ran, fun slot same => ?_⟩
  subst same
  exact raised wanted

end Scope

/-- A lamp, which the scope closes, and a switch. -/
def Plan.room : Plan where
  package := "demo"
  scopeName := "Room"
  values := []
  aliases := []
  cached := [
    ⟨0, "lamp", "Lamp", "Lamp", .constructor (.named "Lamp"), [], true⟩,
    ⟨1, "switch", "Switch", "Switch", .constructor (.named "Switch"), [], false⟩]
  factories := []
  injectors := []

namespace Scope

/-- A room whose lamp reads the switch when it is closed. -/
def room (switch : ConstructorRecipe Unit Bool) : Scope Unit Bool where
  plan := .room
  values := .empty
  recipes := { constructors := [("Lamp", fun _ => .finish (.fresh true)), ("Switch", switch)] }
  host := {
    typeName := fun lamp => if lamp then "Lamp" else "Switch"
    factoryName := "Factory"
    injectorName := "Injector"
    closer := fun lamp =>
      if lamp then some ((Program.get "switch").andThen fun _ => .finish ()) else none }

/-- The same with an alias for the lamp, in place of which the lamp is served, and one for a lamp
that is missing. -/
def attic : Scope Unit Bool :=
  { room fun _ => .finish (.fresh false) with
    plan := { Plan.room with
      aliases := [⟨"lamp", "Lamp", "Lamp", "bulb"⟩, ⟨"light", "Lamp", "Lamp", "bulb"⟩] } }

private theorem quiet_attic : attic.Quiet .any := by
  have programs : attic.recipes.All Program.ReadFree ∧ attic.recipes.All Program.CloseFree := by
    refine ⟨⟨fun entry member arguments => ?_, List.forall_mem_nil _⟩,
      ⟨fun entry member arguments => ?_, List.forall_mem_nil _⟩⟩ <;>
    · rcases List.mem_pair.mp member with rfl | rfl <;> trivial
  exact ⟨programs.1.handed _, .inl (programs.2.handed _)⟩

theorem guided_attic : attic.check = .ok () ∧ attic.Quiet .any ∧
    (attic.run [.read "lamp", .read "light"] (start ())).1 =
      [.shared ⟨.made 0, .host true⟩, .failed (.unknownSlot "bulb")] ∧
    ∃ depth reply after, let w := (attic.run [.read "lamp", .read "light"] (start ())).2
      attic.guided depth "light" w = some (reply, after) ∧
        (attic.handler (attic.potential w + 1)).read "light" w = some (reply, after) := by
  have checked : attic.check = .ok () := check_of_checkCycles (by cbv)
  obtain ⟨_, _, depth, reply, after, guided, read, _⟩ :=
    guided_eq_read checked quiet_attic () [.read "lamp", .read "light"] "light"
  exact ⟨checked, quiet_attic, by rfl, depth, reply, after, guided, read⟩

/-- Closes the scope, and fails as the first failure of the closing. -/
def shutting : ConstructorRecipe Unit Bool := fun _ => .close fun
  | .ok () => .finish (.fresh false)
  | .error unclosed =>
    match unclosed.failures with
    | [] => .finish (.fresh false)
    | failure :: _ => .fail failure.fault

theorem readFree_shutting : (room shutting).recipes.All Program.ReadFree := by
  refine ⟨fun entry member arguments => ?_, List.forall_mem_nil _⟩
  rcases List.mem_pair.mp member with rfl | rfl
  · trivial
  · rintro (⟨⟨_ | _⟩⟩ | _) <;> trivial

/-- No program of the room raises a failure that it was not answered. -/
theorem not_raises_shutting (error : RuntimeError) : ¬ (room shutting).Raises .any error := by
  have recipes : (room shutting).recipes.All (¬ ·.Raises error) := by
    refine ⟨fun entry member arguments raised => ?_, List.forall_mem_nil _⟩
    rcases List.mem_pair.mp member with rfl | rfl
    · exact raised
    · obtain ⟨answer, honest, raised⟩ := raised
      rcases answer with ⟨⟨_ | ⟨failure, _⟩⟩⟩ | _
      · exact raised
      · exact honest _ rfl failure List.mem_cons_self raised
      · exact raised
  refine not_raises (recipes.handed _) fun value closer found raised => ?_
  cases value with
  | false => cases found
  | true =>
    cases found
    obtain ⟨answer, honest, raised⟩ := raised
    cases answer with
    | ok value => exact raised
    | error failure =>
      cases raised
      exact honest rfl

/-- A recipe that reads nothing may still have its own slot read, by the closer of a lamp when it
closes the scope. A recipe may also raise that failure of its own accord. -/
theorem circular_shutting :
    ((room shutting).check = .ok () ∧ (room shutting).recipes.All Program.ReadFree ∧
      (∀ error, ¬ (room shutting).Raises .any error) ∧
      ((room shutting).run [.read "lamp", .read "switch"] (start ())).1 =
        [.shared ⟨.made 0, .host true⟩, .failed (.circularDependency "switch")]) ∧
    let pretending := room fun _ => .fail (.runtime (.circularDependency "switch"))
    pretending.check = .ok () ∧ pretending.recipes.All Program.ReadFree ∧
      (pretending.run [.read "switch"] (start ())).1 = [.failed (.circularDependency "switch")] := by
  refine ⟨⟨check_of_checkCycles (by cbv), readFree_shutting, not_raises_shutting, by rfl⟩,
    check_of_checkCycles (by cbv), ⟨fun entry member arguments => ?_, List.forall_mem_nil _⟩, by rfl⟩
  rcases List.mem_pair.mp member with rfl | rfl <;> trivial

end Scope

end Wiring
