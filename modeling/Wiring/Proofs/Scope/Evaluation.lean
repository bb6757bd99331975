import Wiring.Proofs.Scope.Table

/-! # Evaluation from scratch

What a slot amounts to can be told without cells, worlds or instances. A value is what it is bound
to, an alias is its target, and a cached slot is what its recipe makes of its arguments, read from
left to right, and of its holder, unless the scope would have to close that and cannot; the first
failure is that of the slot. Nothing is kept: what is read twice is evaluated twice.

This is a plain recursion along eager reads, and it ends because a scope opens only on a plan
without cycles. Instances are seen as recipes see them when they cannot tell identities apart.
-/

namespace Wiring

variable {σ V D : Type}

/-- How an argument looks to a recipe. -/
inductive Datum (D : Type) where
  | shared (look : D)
  | lazy (identifier : String)
deriving DecidableEq

def Arg.datum (look : Content V → D) : Arg V → Datum D
  | shared value => .shared (look value.content)
  | lazy identifier => .lazy identifier

/-- How instances look, and what recipes make of what they are given by its look alone. -/
structure Meaning (V D : Type) where
  look : Content V → D
  closeable : D → Bool
  /-- The result of the constructor of a type, for a slot and its arguments. -/
  construct : TypeExpr → String → List (Datum D) → Except Fault D
  /-- The result of a method of a type on a receiver, for a slot and its arguments. -/
  call : TypeExpr → String → D → String → List (Datum D) → Except Fault (Option D)

namespace Meaning

variable (meaning : Meaning V D) (read : String → Except RuntimeError D)

/-- One argument for `slot`; `curried` are the arguments of the caller. -/
def argument (slot : String) (curried : List D) : Argument → Except RuntimeError (Datum D)
  | .slot identifier => return .shared (← read identifier)
  | .lazy identifier => .ok (.lazy identifier)
  | .curried index =>
    match curried[index.toNat]? with
    | some look => .ok (.shared look)
    | none => .error (missingArgument slot index curried.length)

def arguments (slot : String) (curried : List D) : List Argument → Except RuntimeError (List (Datum D))
  | [] => .ok []
  | argument :: rest => do
    let value ← Meaning.argument read slot curried argument
    let values ← arguments slot curried rest
    return value :: values

/-- What the recipe of a cached slot makes of its arguments. -/
def produce (slot : CachedSlot) (values : List (Datum D)) : Except RuntimeError D :=
  match slot.recipe with
  | .constructor type =>
    (meaning.construct type slot.identifier values).mapError (·.atSlot slot.identifier)
  | .provider holder holderType method => do
    let receiver ← read holder
    let made ← (meaning.call holderType method receiver slot.identifier values).mapError
      (·.atSlot slot.identifier)
    match made with
    | some product => .ok product
    | none => .error (.nullValue slot.identifier)

def create (slot : CachedSlot) : Except RuntimeError D := do
  let values ← arguments read slot.identifier [] slot.arguments
  let product ← meaning.produce read slot values
  if slot.closeOnTeardown && !meaning.closeable product then .error (.missingCloser slot.identifier)
  else .ok product

def outcome (identifier : String) : Option (Served V) → Except RuntimeError D
  | some (.ready value) => .ok (meaning.look value.content)
  | some (.aliased target) => read target
  | some (.cached slot) => meaning.create read slot
  | none => .error (.unknownSlot identifier)

/-! What is read elsewhere does not matter. -/

variable {meaning read} {read' : String → Except RuntimeError D} {slot : CachedSlot}

private theorem argument_congr {owner : String} {curried : List D} {argument : Argument}
    (same : ∀ next ∈ argument.eagerSlot?, read next = read' next) :
    Meaning.argument read owner curried argument = Meaning.argument read' owner curried argument := by
  cases argument with
  | slot identifier => simp only [Meaning.argument, same identifier rfl]
  | lazy identifier => rfl
  | curried index => rfl

private theorem arguments_congr {owner : String} {curried : List D} {arguments : List Argument}
    (same : ∀ argument ∈ arguments, ∀ next ∈ argument.eagerSlot?, read next = read' next) :
    Meaning.arguments read owner curried arguments = Meaning.arguments read' owner curried arguments := by
  induction arguments with
  | nil => rfl
  | cons argument rest ih =>
    rw [Meaning.arguments, Meaning.arguments, argument_congr (same argument List.mem_cons_self),
      ih fun other later => same other (List.mem_cons_of_mem _ later)]

private theorem produce_congr {values : List (Datum D)}
    (same : ∀ holder type method, slot.recipe = .provider holder type method →
      read holder = read' holder) :
    meaning.produce read slot values = meaning.produce read' slot values := by
  unfold produce
  split
  next => rfl
  next holder type method recipe => rw [same holder type method recipe]

private theorem create_congr
    (same : ∀ next ∈ (Slot.cached slot).eagerDependencies, read next = read' next) :
    meaning.create read slot = meaning.create read' slot := by
  have arguments : arguments read slot.identifier [] slot.arguments =
      arguments read' slot.identifier [] slot.arguments :=
    arguments_congr fun argument listed next eager =>
      same next (List.mem_append_right _ (List.mem_filterMap.mpr ⟨argument, listed, eager⟩))
  have produced (values : List (Datum D)) :
      meaning.produce read slot values = meaning.produce read' slot values := by
    refine produce_congr fun holder type method recipe => same holder (List.mem_append_left _ ?_)
    simp [recipe]
  simp only [create, arguments, produced]

private theorem outcome_congr {identifier : String} {served : Option (Served V)}
    (same : ∀ next ∈ served.elim [] Served.reads, read next = read' next) :
    meaning.outcome read identifier served = meaning.outcome read' identifier served := by
  cases served with
  | none => rfl
  | some found =>
    cases found with
    | ready value => rfl
    | aliased target => exact same target List.mem_cons_self
    | cached slot => exact create_congr same

end Meaning

namespace Scope

variable {scope : Scope σ V}

/-- Evaluates a slot. That only what the slot reads is evaluated in turn is said for the recursion to
end; nothing else is ever asked for. -/
def evaluate (scope : Scope σ V) (meaning : Meaning V D) (checked : scope.check = .ok ())
    (identifier : String) : Except RuntimeError D :=
  meaning.outcome (fun next =>
      if _reads : next ∈ (scope.served? identifier).elim [] Served.reads then
        scope.evaluate meaning checked next
      else .error (.unknownSlot next))
    identifier (scope.served? identifier)
termination_by (Plan.wellFounded_of_checkCycles (checkCycles_of_check checked)).wrap identifier
decreasing_by
  refine (eager_iff_served? (supplied_of_check checked)).mpr ?_
  cases served : scope.served? identifier with
  | none => simp [served] at _reads
  | some found => exact ⟨found, served, by simpa [served] using _reads⟩

variable {meaning : Meaning V D} {checked : scope.check = .ok ()}

/-- Evaluation calls itself for what it reads. -/
theorem evaluate_eq (identifier : String) : scope.evaluate meaning checked identifier =
    meaning.outcome (scope.evaluate meaning checked) identifier (scope.served? identifier) := by
  rw [evaluate]
  exact Meaning.outcome_congr fun next reads => dif_pos reads

/-- Aliases evaluate to what they end at. -/
theorem evaluate_target (identifier : String) : scope.evaluate meaning checked (scope.target identifier) =
    scope.evaluate meaning checked identifier := by
  have follow (steps : Nat) (identifier : String) :
      scope.evaluate meaning checked (scope.follow steps identifier) =
        scope.evaluate meaning checked identifier := by
    induction steps generalizing identifier with
    | zero => rfl
    | succ steps ih =>
      rw [Scope.follow]
      split
      next target aliased => rw [ih, evaluate_eq identifier, aliased, Meaning.outcome]
      next => rfl
  exact follow _ identifier

end Scope

end Wiring
