import Wiring.Proofs.PassedFailures

/-! # Missing arguments

Factories and injectors pass arguments of their callers on by position, and to a creation nobody passes
any. A position that is not there fails the slot as soon as it is to be read. The failure says how many
arguments would do, one more than the index of the position. The sum is taken in 64 bits, so for the last
index of all it says that none would do.

Main statements: `Scope.missing_counted` and `Scope.overrun_pergola`.
-/

namespace Wiring

variable {σ V : Type}

section Counts

/-! ## The count in the failure -/

/-- The failure of the slot expects one more argument than the index says, and so more than there are. -/
def RuntimeError.Counts (slot : String) (index : UInt64) (count : Nat) (error : RuntimeError) : Prop :=
  error = .arityMismatch slot (index.toNat + 1) count ∧ count < index.toNat + 1

/-- The failure of the slot counts the arguments for every index that has a next one. For the last index it
expects no argument. -/
structure RuntimeError.Misses (slot : String) (index : UInt64) (count : Nat) (error : RuntimeError) :
    Prop where
  counted : index.toNat + 1 < UInt64.size → error.Counts slot index count
  last : UInt64.size ≤ index.toNat + 1 → error = .arityMismatch slot 0 count

private theorem misses_missingArgument {slot : String} {index : UInt64} {count : Nat}
    (few : count ≤ index.toNat) :
    (missingArgument slot index count).Misses slot index count := by
  have sum : (index + 1).toNat = (index.toNat + 1) % UInt64.size := UInt64.toNat_add index 1
  constructor
  · intro fits
    refine ⟨?_, by omega⟩
    rw [missingArgument, sum, Nat.mod_eq_of_lt fits]
  · intro last
    have size : index.toNat + 1 = UInt64.size := Nat.le_antisymm index.toNat_lt last
    rw [missingArgument, sum, size, Nat.mod_self]

end Counts

namespace Scope

variable {scope : Scope σ V} {earlier later : List Argument} {values : List (Arg V)} {index : UInt64}
  {before w reached : World σ V}

theorem argument_of_missing {handler : Handler σ V} {name : String} {curried : List (Instance V)}
    (few : curried.length ≤ index.toNat) :
    Scope.argument handler name curried (.curried index) w =
      some (.error (missingArgument name index curried.length), w) := by
  simp only [Scope.argument, List.getElem?_eq_none few]
  rfl

section Creations

/-! ## Creations -/

variable {slot : CachedSlot} {identifier : String}

/-- A creation that comes to a position among its arguments fails, and leaves the failure in the cell. -/
theorem access_of_missing (listed : slot.arguments = earlier ++ .curried index :: later)
    (reads : scope.Reads slot before earlier values reached) :
    scope.access scope.unbounded slot before = some (.error (missingArgument slot.identifier index 0),
      reached.setCell slot.identifier (.failed (missingArgument slot.identifier index 0))) := by
  have refused : Scope.argument scope.unbounded slot.identifier [] (.curried index) reached =
      some (.error (missingArgument slot.identifier index 0), reached) :=
    argument_of_missing (Nat.zero_le _)
  refine access_of_create reads.empty ?_
  rw [create_of_open reads.opened, listed, Effect.andThen, arguments_of_failed reads.given refused]

/-- A read that is told of and that has come to a position has failed, and the slot has failed for good. -/
theorem fails_of_missing {host : σ} {operations : List (Operation V)} {answers : List (Answer V)}
    {last : Recorded σ V} {reply : Reply RuntimeError (Instance V)} {after : World σ V}
    (ran : scope.run operations (start host) = (answers, last.plain))
    (attested : ∀ event ∈ last.events, event.Attested scope last.plain)
    (told : .answered identifier before reply after ∈ last.events)
    (served : scope.served? (scope.target identifier) = some (.cached slot))
    (listed : slot.arguments = earlier ++ .curried index :: later)
    (reads : scope.Reads slot before earlier values reached) :
    reply = .error (missingArgument slot.identifier index 0) ∧
      scope.Fails host operations last slot (missingArgument slot.identifier index 0) := by
  obtain ⟨answered, kept⟩ := attested _ told
  rw [unbounded_read_of_served served, access_of_missing listed reads, Option.some_inj, Prod.mk.injEq]
    at answered
  obtain ⟨rfl, rfl⟩ := answered
  refine ⟨rfl, fails_of_failed ran attested ?_⟩
  have settled := World.cells_setCell_self reached slot.identifier
    (.failed (missingArgument slot.identifier index 0))
  exact (kept slot.identifier (.error _) (by rw [settled]; rfl)).trans settled

end Creations

section Calls

/-! ## Calls -/

variable {called : CallSlot} {given : List (Instance V)}

/-- The call that is made in the first world is checked, reads its receiver and these of its arguments,
and all of them are there in the second world. -/
structure CallReads (scope : Scope σ V) (called : CallSlot) (given : List (Instance V)) (before : World σ V)
    (arguments : List Argument) (values : List (Arg V)) (after : World σ V) : Prop where
  arity : called.parameters.length = given.length
  alive : before.alive = true
  opened : before.teardown.closed = false
  given : ∃ receiver received, receive scope.unbounded called before = some (.ok receiver, received) ∧
    Scope.arguments scope.unbounded called.identifier given arguments received = some (.ok values, after)

/-- A call that comes to a position behind the caller's arguments fails, and nothing else happens. -/
theorem perform_of_missing (listed : called.arguments = earlier ++ .curried index :: later)
    (few : given.length ≤ index.toNat) (reads : scope.CallReads called given before earlier values reached) :
    scope.perform (called.call given) before =
      (.failed (missingArgument called.identifier index given.length), reached) := by
  obtain ⟨receiver, received, first, others⟩ := reads.given
  have refused : Scope.argument scope.unbounded called.identifier given (.curried index) reached =
      some (.error (missingArgument called.identifier index given.length), reached) :=
    argument_of_missing few
  have ran : scope.call scope.unbounded called given before =
      some (.error (missingArgument called.identifier index given.length), reached) := by
    rw [call_of_open reads.arity reads.alive reads.opened, resolve_andThen, Effect.andThen, first]
    simp only [Effect.andThen, listed, arguments_of_failed others refused]
  have performed := scope.performWith_unbounded (called.call given) before
  rw [performWith_call, ran] at performed
  exact (Option.some.inj performed).symm

private theorem answer_of_missing {operations earlierOps laterOps : List (Operation V)} {host : σ}
    (split : operations = earlierOps ++ called.call given :: laterOps)
    (listed : called.arguments = earlier ++ .curried index :: later) (few : given.length ≤ index.toNat)
    (reads : scope.CallReads called given (scope.run earlierOps (start host)).2 earlier values reached) :
    (scope.run operations (start host)).1[earlierOps.length]? =
      some ((Answer.failed (missingArgument called.identifier index given.length)).settled
        (scope.settle reached).1) := by
  rw [split, getElem?_run, operate, perform_of_missing listed few reads]

end Calls

/-- In every run, a creation or a call that comes to a position which its caller has not filled fails, by
whomever the slot is read and whatever was read before. The failure expects one argument more than the
index of the position says, which is more than there are, unless no next index can be counted in 64 bits.
Then it expects no argument at all. A slot that is created once keeps the failure, and a caller is told it
unless the call leaves a scope that nobody refers to and a closer of it unwinds. -/
theorem missing_counted (scope : Scope σ V) (host : σ) (operations : List (Operation V)) :
    ∃ answers last, scope.chronicle host operations = some (answers, last) ∧
      scope.run operations (start host) = (answers, last.plain) ∧
      (∀ identifier before reply after slot earlier index later values reached,
        .answered identifier before reply after ∈ last.events →
        scope.served? (scope.target identifier) = some (.cached slot) →
        slot.arguments = earlier ++ .curried index :: later →
        scope.Reads slot before earlier values reached →
        ∃ error : RuntimeError, error.Misses slot.identifier index 0 ∧ reply = .error error ∧
          scope.Fails host operations last slot error) ∧
      ∀ earlierOps called given laterOps earlier index later values reached,
        operations = earlierOps ++ called.call given :: laterOps →
        called.arguments = earlier ++ .curried index :: later → given.length ≤ index.toNat →
        scope.CallReads called given (scope.run earlierOps (start host)).2 earlier values reached →
        ∃ error : RuntimeError, error.Misses called.identifier index given.length ∧
          scope.perform (called.call given) (scope.run earlierOps (start host)).2 = (.failed error, reached) ∧
          answers[earlierOps.length]? = some ((Answer.failed error).settled (scope.settle reached).1) := by
  obtain ⟨answers, last, written, ran, attested, _⟩ := scope.exists_testimony host operations
  refine ⟨answers, last, written, ran,
    fun identifier before reply after slot earlier index later values reached told served listed reads => ?_,
    fun earlierOps called given laterOps earlier index later values reached split listed few reads => ?_⟩
  · obtain ⟨failed, fails⟩ := fails_of_missing ran attested told served listed reads
    exact ⟨_, misses_missingArgument (Nat.zero_le _), failed, fails⟩
  · have answered := answer_of_missing split listed few reads
    rw [ran] at answered
    exact ⟨_, misses_missingArgument few, perform_of_missing listed few reads, answered⟩

/-- Joints for a beam, of which callers give one part, and one more at the index. -/
def joints (index : UInt64) : FactorySlot where
  identifier := "joints"
  declared := "Joints"
  descriptor := "Joints"
  method := "join"
  parameters := ["Peg"]
  product := .named "Joint"
  arguments := [.slot "beam", .curried 0, .curried index]

/-- Braces for a beam, of which callers give one part, and one more at the index. -/
def braces (index : UInt64) : InjectorSlot where
  identifier := "braces"
  interface := .named "Braces"
  method := "brace"
  parameters := ["Peg"]
  receiver := "beam"
  receiverType := .named "Beam"
  targetMethod := "attach"
  arguments := [.curried 0, .curried index]
  returnsUnit := true

/-- A pergola that was not compiled: its post, its joints and its braces have an argument at the index. -/
def pergola (index : UInt64) : Scope Unit Unit where
  plan := {
    package := "demo"
    scopeName := "Pergola"
    values := [⟨"beam", "Beam", "Beam", .declared⟩]
    aliases := [⟨"pillar", "Pillar", "Pillar", "post"⟩]
    cached := [
      ⟨0, "post", "Post", "Post", .constructor (.named "Post"), [.slot "beam", .curried index], false⟩]
    factories := [joints index]
    injectors := [braces index] }
  values := .ofList [("beam", ())]
  recipes := {
    constructors := [
      ("Post", fun _ => .finish (.fresh ())),
      ("Joint", fun _ => .finish (.fresh ()))]
    methods := [(("Beam", "attach"), fun _ _ => .finish none)] }
  host := {
    typeName := fun _ => "Unit"
    factoryName := "Factory"
    injectorName := "Injector"
    closer := fun _ => none }

/-- The post is read by its alias, then joints and braces are called with a peg. -/
def pergolaVisit (index : UInt64) : List (Operation Unit) :=
  let peg : Instance Unit := ⟨.made 0, .host ()⟩
  [.read "pillar", .callFactory (joints index) [peg], .callInjector (braces index) [peg]]

/-- The index before the last one is the greatest that is counted. -/
theorem counted_pergola :
    let index : UInt64 := 18446744073709551614
    let operations := pergolaVisit index
    let failure (slot : String) (count : Nat) := RuntimeError.arityMismatch slot 18446744073709551615 count
    (pergola index).opened () = .ok (start ()) ∧ index.toNat + 1 < UInt64.size ∧
      ((pergola index).run operations (start ())).1 =
        [.failed (failure "post" 0), .failed (failure "joints" 1), .failed (failure "braces" 1)] ∧
      (failure "post" 0).Counts "post" index 0 ∧ (failure "joints" 1).Counts "joints" index 1 ∧
      (failure "braces" 1).Counts "braces" index 1 ∧
      ∃ answers last slot, (pergola index).chronicle () operations = some (answers, last) ∧
        (pergola index).served? "post" = some (.cached slot) ∧
        (pergola index).Fails () operations last slot (failure "post" 0) := by
  intro index operations failure
  let peg : Instance Unit := ⟨.made 0, .host ()⟩
  have fits : index.toNat + 1 < UInt64.size := by decide
  have answered : ((pergola index).run operations (start ())).1 =
      [.failed (failure "post" 0), .failed (failure "joints" 1), .failed (failure "braces" 1)] := by rfl
  obtain ⟨answers, last, written, ran, creations, calls⟩ := missing_counted (pergola index) () operations
  have same : answers = _ := (congrArg Prod.fst ran).symm.trans answered
  -- the read of the pillar is told of behind that of the beam
  have told {event : Event Unit Unit}
      (listed : ((pergola index).chronicle () operations).map (fun ran => ran.2.events[3]?) =
        some (some event)) : event ∈ last.events := by
    rw [written] at listed
    exact List.mem_of_getElem? (Option.some.inj listed)
  obtain ⟨_, post, failed, fails⟩ := creations "pillar" (start ()) _ _ _ [.slot "beam"] index [] _ _
    (told rfl) rfl rfl ⟨rfl, rfl, rfl⟩
  cases failed
  obtain ⟨_, joint, _, answer⟩ := calls [.read "pillar"] (.factory (joints index)) [peg]
    [.callInjector (braces index) [peg]] [.slot "beam", .curried 0] index [] _ _ rfl rfl (by decide)
    ⟨rfl, rfl, rfl, _, _, rfl, rfl⟩
  rw [same, settle_of_attended fun _ => by rfl] at answer
  cases answer
  obtain ⟨_, brace, _, answer⟩ := calls [.read "pillar", .callFactory (joints index) [peg]]
    (.injector (braces index)) [peg] [] [.curried 0] index [] _ _ rfl rfl (by decide)
    ⟨rfl, rfl, rfl, _, _, rfl, rfl⟩
  rw [same, settle_of_attended fun _ => by rfl] at answer
  cases answer
  exact ⟨opened_of_check (check_of_checkCycles (by cbv)) (), fits, answered, post.counted fits,
    joint.counted fits, brace.counted fits, answers, last, _, written, rfl, fails⟩

/-- At the last index each of the failures expects no argument, where none or one is given. -/
theorem overrun_pergola :
    let index : UInt64 := 18446744073709551615
    let failure (slot : String) (count : Nat) := RuntimeError.arityMismatch slot 0 count
    (pergola index).opened () = .ok (start ()) ∧
      ((pergola index).run (pergolaVisit index) (start ())).1 =
        [.failed (failure "post" 0), .failed (failure "joints" 1), .failed (failure "braces" 1)] ∧
      ¬ (failure "post" 0).Counts "post" index 0 ∧ ¬ (failure "joints" 1).Counts "joints" index 1 ∧
      ¬ (failure "braces" 1).Counts "braces" index 1 := by
  intro index failure
  have uncounted (slot : String) (count : Nat) : ¬ (failure slot count).Counts slot index count := by
    simp [failure, RuntimeError.Counts]
  exact ⟨opened_of_check (check_of_checkCycles (by cbv)) (), by decide +kernel, uncounted _ _, uncounted _ _,
    uncounted _ _⟩

end Scope

end Wiring
