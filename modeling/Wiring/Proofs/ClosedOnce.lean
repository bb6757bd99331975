import Wiring.Script.Closer

/-! # Every resource is closed once

What a closer logs depends on nothing but the closer: it is started, and then its commands are
answered as they are once closing has begun. So the log of a core can be told from what it was
asked. The first closing runs the closers of all the resources that were registered before it, in
this order and whatever comes of each; a resource that is registered later is closed there and then.
Nothing is closed before that, and nothing a second time, so one outcome for each closer is all that
can be asked of it.

Main statement: `Core.closes_once`.
-/

namespace Wiring.Script

/-- The name of the closer that is started. -/
def CloserEvent.closing? : CloserEvent → Option String
  | closing name => some name
  | answered _ _ => none

def Closer.outcome : Closer → Except Fault Unit
  | mk _ (some text) _ => .error (.foreign text)
  | mk _ none _ => .ok ()

def Closer.fails (closer : Closer) : Bool := closer.outcome.toOption.isNone

namespace CoreCommand

def isClose : CoreCommand → Bool
  | close => true
  | _ => false

/-- Whether a resource is registered or the core is asked to be open. -/
def asksCore : CoreCommand → Bool
  | register _ _ => true
  | checkOpen _ => true
  | _ => false

/-- The resource that is registered, with its slot. -/
def registered : CoreCommand → List (String × Closer)
  | register slot closer => [(slot, closer)]
  | close => []
  | checkOpen _ => []
  | name => []
  | describe => []
  | unknown _ => []

def lateAnswer (core : String) : CoreCommand → CoreAnswer
  | register slot _ => .failed (.scopeClosed slot)
  | close => .done
  | checkOpen slot => .failed (.scopeClosed slot)
  | name => .text core
  | describe => .text ((.begun : Teardown Closer).text core)
  | unknown word => .unknown word

theorem eq_close_of_isClose {command : CoreCommand} (closes : command.isClose = true) :
    command = close := by
  cases command with
  | close => rfl
  | _ => cases closes

end CoreCommand

def registrations (commands : List CoreCommand) : List (String × Closer) :=
  commands.flatMap CoreCommand.registered

section Traces

/-! ## What closers log -/

variable (core : String)

mutual
def Closer.trace : Closer → List CloserEvent
  | .mk name _ commands => .closing name :: traceOf name commands

/-- What is logged while a closer gives its commands. -/
def traceOf (name : String) : List CoreCommand → List CloserEvent
  | [] => []
  | command :: rest =>
    command.trace ++ .answered name (command.lateAnswer core) :: traceOf name rest

def CoreCommand.trace : CoreCommand → List CloserEvent
  | .register _ closer => closer.trace
  | .close => []
  | .checkOpen _ => []
  | .name => []
  | .describe => []
  | .unknown _ => []
end

mutual
/-- The names of a closer and of those that it registers, in the order in which they are started. -/
def Closer.names : Closer → List String
  | .mk name _ commands => name :: namesOf commands

/-- The names of the closers that the commands register, at any depth. -/
def namesOf : List CoreCommand → List String
  | [] => []
  | command :: rest => command.names ++ namesOf rest

def CoreCommand.names : CoreCommand → List String
  | .register _ closer => closer.names
  | .close => []
  | .checkOpen _ => []
  | .name => []
  | .describe => []
  | .unknown _ => []
end

mutual
private theorem Closer.closing_trace (closer : Closer) :
    (closer.trace core).filterMap CloserEvent.closing? = closer.names := by
  match closer with
  | .mk name failure commands => simp [Closer.trace, Closer.names, CloserEvent.closing?, closing_traceOf]

theorem closing_traceOf (name : String) (commands : List CoreCommand) :
    (traceOf core name commands).filterMap CloserEvent.closing? = namesOf commands := by
  match commands with
  | [] => rfl
  | command :: rest =>
    simp [traceOf, namesOf, List.filterMap_cons, CloserEvent.closing?, CoreCommand.closing_trace command,
      closing_traceOf]

theorem CoreCommand.closing_trace (command : CoreCommand) :
    (command.trace core).filterMap CloserEvent.closing? = command.names := by
  match command with
  | .register slot closer => simp [CoreCommand.trace, CoreCommand.names, Closer.closing_trace closer]
  | .close => rfl
  | .checkOpen slot => rfl
  | .name => rfl
  | .describe => rfl
  | .unknown word => rfl
end

private theorem namesOf_eq_registrations (commands : List CoreCommand) :
    namesOf commands = (registrations commands).flatMap (·.2.names) := by
  induction commands with
  | nil => rfl
  | cons command rest ih =>
    rw [namesOf, ih]
    cases command <;> simp [registrations, CoreCommand.registered, CoreCommand.names]

/-! Running a closer appends its trace to the log, whatever is there already. -/

mutual
private theorem Closer.run_eq (closer : Closer) (events : List CloserEvent) :
    closer.run core events = (closer.outcome, events ++ closer.trace core) := by
  match closer with
  | .mk name failure commands =>
    have given := runCommands_eq name commands (events ++ [.closing name])
    have ran : Closer.run core (.mk name failure commands) events =
        ((Closer.mk name failure commands).outcome,
          (runCommands core name commands (events ++ [.closing name])).2) := by
      cases failure <;> rfl
    rw [ran, given, Closer.trace, List.append_assoc]
    rfl

theorem runCommands_eq (name : String) (commands : List CoreCommand) (events : List CloserEvent) :
    runCommands core name commands events = ((), events ++ traceOf core name commands) := by
  match commands with
  | [] => exact Prod.ext rfl (List.append_nil events).symm
  | command :: rest =>
    have answered := CoreCommand.runClosed_eq command events
    have ran : runCommands core name (command :: rest) events =
        runCommands core name rest ((command.runClosed core events).2 ++
          [.answered name (command.runClosed core events).1]) := rfl
    rw [ran, answered, runCommands_eq name rest, traceOf]
    simp

private theorem CoreCommand.runClosed_eq (command : CoreCommand) (events : List CloserEvent) :
    command.runClosed core events = (command.lateAnswer core, events ++ command.trace core) := by
  match command with
  | .register slot closer =>
    have ran : (CoreCommand.register slot closer).runClosed core events =
        (.failed (.scopeClosed slot), (closer.run core events).2) := rfl
    rw [ran, Closer.run_eq closer events]
    rfl
  | .close => exact Prod.ext rfl (List.append_nil events).symm
  | .checkOpen slot => exact Prod.ext rfl (List.append_nil events).symm
  | .name => exact Prod.ext rfl (List.append_nil events).symm
  | .describe => exact Prod.ext rfl (List.append_nil events).symm
  | .unknown word => exact Prod.ext rfl (List.append_nil events).symm
end

/-- The failures of closing resources, in order. -/
def failuresOf (owned : List (String × Closer)) : List CloseFailure :=
  owned.filterMap fun (slot, closer) =>
    match closer.outcome with
    | .ok () => none
    | .error fault => some ⟨slot, fault⟩

/-- A failing closer does not stop those behind it. -/
theorem closeAll_eq (owned : List (String × Closer)) (events : List CloserEvent) :
    Teardown.closeAll (Closer.run core) owned events =
      (failuresOf owned, events ++ owned.flatMap (·.2.trace core)) := by
  induction owned generalizing events with
  | nil => exact Prod.ext rfl (List.append_nil events).symm
  | cons entry rest ih =>
    obtain ⟨slot, closer⟩ := entry
    simp only [Teardown.closeAll, bind, StateT.bind, Closer.run_eq, ih, List.flatMap_cons]
    cases outcome : closer.outcome <;>
      · refine Prod.ext ?_ (List.append_assoc ..)
        simp only [failuresOf, List.filterMap_cons, outcome]
        rfl

/-- The failures name the slots of the failing closers. -/
theorem slots_failuresOf (owned : List (String × Closer)) :
    (failuresOf owned).map (·.slot) = (owned.filter (·.2.fails)).map Prod.fst := by
  induction owned with
  | nil => rfl
  | cons entry rest ih =>
    obtain ⟨slot, closer⟩ := entry
    cases outcome : closer.outcome with
    | ok _ =>
      have passes : closer.fails = false := by simp [Closer.fails, outcome, Except.toOption]
      simpa [failuresOf, outcome, passes] using ih
    | error fault =>
      have fails : closer.fails = true := by simp [Closer.fails, outcome, Except.toOption]
      simpa [failuresOf, outcome, fails] using ih

/-- A closing tells which closers have failed, if any have. -/
theorem answer_of_closing (owned : List (String × Closer)) :
    let answer := CoreAnswer.ofClosing (CloseError.ofFailures (failuresOf owned))
    let failing := owned.filter (·.2.fails)
    (failing = [] → answer = .done) ∧
      (failing ≠ [] → ∃ error, answer = .unclosed error ∧ error.slots = failing.map Prod.fst) := by
  intro answer failing
  have slots : (failuresOf owned).map (·.slot) = failing.map Prod.fst := slots_failuresOf owned
  cases failures : failuresOf owned with
  | nil =>
    rw [failures] at slots
    have none : failing = [] := by simpa using slots.symm
    exact ⟨fun _ => by simp [answer, failures, CloseError.ofFailures, CoreAnswer.ofClosing],
      fun some => (some none).elim⟩
  | cons first others =>
    rw [failures] at slots
    refine ⟨fun none => ?_, fun _ => ⟨⟨first :: others⟩, ?_, slots⟩⟩
    · rw [none] at slots
      cases slots
    · simp [answer, failures, CloseError.ofFailures, CoreAnswer.ofClosing]

end Traces

namespace Core

/-! ## What commands do to a core -/

def after (core : Core) (commands : List CoreCommand) : Core :=
  commands.foldl (fun core command => (core.respond command).2) core

private theorem respondAll_append (core : Core) (earlier later : List CoreCommand) :
    core.respondAll (earlier ++ later) =
      core.respondAll earlier ++ (core.after earlier).respondAll later := by
  induction earlier generalizing core with
  | nil => rfl
  | cons command rest ih => exact congrArg (List.cons _) (ih (core.respond command).2)

theorem length_respondAll (core : Core) (commands : List CoreCommand) :
    (core.respondAll commands).length = commands.length := by
  induction commands generalizing core with
  | nil => rfl
  | cons command rest ih => exact congrArg Nat.succ (ih _)

/-- A command is answered by the core that the ones before it leave. -/
theorem getElem?_respondAll (core : Core) (earlier later : List CoreCommand) (command : CoreCommand) :
    (core.respondAll (earlier ++ command :: later))[earlier.length]? =
      some ((core.after earlier).respond command).1 := by
  rw [respondAll_append, List.getElem?_append_right (Nat.le_of_eq (length_respondAll _ _)),
    length_respondAll, Nat.sub_self]
  rfl

/-- A core of this name that nothing has been asked of but to take these resources. -/
def opened (name : String) (owned : List (String × Closer)) : Core :=
  ⟨name, { closed := false, owned }⟩

/-- A core of this name once closing has begun. -/
def shut (name : String) : Core := ⟨name, .begun⟩

variable (name : String) (owned : List (String × Closer))

theorem respond_shut (command : CoreCommand) :
    (shut name).respond command =
      (⟨command.lateAnswer name, command.trace name, 0, true⟩, shut name) := by
  have ran : (shut name).respond command =
      (⟨(command.runClosed name []).1, (command.runClosed name []).2, 0, true⟩, shut name) := rfl
  rw [ran, CoreCommand.runClosed_eq, List.nil_append]

theorem respond_close :
    (opened name owned).respond .close =
      (⟨.ofClosing (CloseError.ofFailures (failuresOf owned)), owned.flatMap (·.2.trace name), 0, true⟩,
        shut name) := by
  have ran : (opened name owned).respond .close =
      let (failures, events) := Teardown.closeAll (Closer.run name) owned []
      (⟨.ofClosing (CloseError.ofFailures failures), events, 0, true⟩, shut name) := rfl
  rw [ran, closeAll_eq, List.nil_append]

/-- Until closing begins, a command runs no closer. -/
theorem respond_opened {command : CoreCommand} (going : command.isClose = false) :
    ∃ answer, (opened name owned).respond command =
        (⟨answer, [], (owned ++ command.registered).length, false⟩,
          opened name (owned ++ command.registered)) ∧
      (command.asksCore = true → answer = .done) := by
  cases command with
  | register slot closer => exact ⟨_, rfl, fun _ => rfl⟩
  | close => cases going
  | checkOpen slot => exact ⟨.done, by rw [CoreCommand.registered, List.append_nil]; rfl, fun _ => rfl⟩
  | name => exact ⟨_, by rw [CoreCommand.registered, List.append_nil]; rfl, nofun⟩
  | describe => exact ⟨_, by rw [CoreCommand.registered, List.append_nil]; rfl, nofun⟩
  | unknown word => exact ⟨_, by rw [CoreCommand.registered, List.append_nil]; rfl, nofun⟩

private theorem after_shut (commands : List CoreCommand) : (shut name).after commands = shut name := by
  induction commands with
  | nil => rfl
  | cons command rest ih =>
    show ((shut name).respond command).2.after rest = shut name
    rw [respond_shut, ih]

/-- Where a core is after commands. -/
theorem after_opened (commands : List CoreCommand) :
    (opened name owned).after commands =
      if commands.any (·.isClose) then shut name else opened name (owned ++ registrations commands) := by
  induction commands generalizing owned with
  | nil => simp [after, registrations]
  | cons command rest ih =>
    show ((opened name owned).respond command).2.after rest = _
    cases going : command.isClose with
    | true =>
      obtain rfl := CoreCommand.eq_close_of_isClose going
      rw [respond_close, after_shut]
      simp [CoreCommand.isClose]
    | false =>
      obtain ⟨answer, responds, _⟩ := respond_opened name owned going
      rw [responds, ih]
      simp [going, registrations]

private theorem events_shut (commands : List CoreCommand) :
    ((shut name).respondAll commands).flatMap (·.events) =
      (registrations commands).flatMap (·.2.trace name) := by
  induction commands with
  | nil => rfl
  | cons command rest ih =>
    show ((shut name).respond command).1.events ++
      (((shut name).respond command).2.respondAll rest).flatMap (·.events) = _
    rw [respond_shut, ih]
    cases command <;> simp [registrations, CoreCommand.registered, CoreCommand.trace]

/-- Once there is a close, what has been registered is closed in order, whenever it was. -/
theorem events_opened (commands : List CoreCommand) :
    ((opened name owned).respondAll commands).flatMap (·.events) =
      if commands.any (·.isClose) then (owned ++ registrations commands).flatMap (·.2.trace name)
      else [] := by
  induction commands generalizing owned with
  | nil => rfl
  | cons command rest ih =>
    show ((opened name owned).respond command).1.events ++
      (((opened name owned).respond command).2.respondAll rest).flatMap (·.events) = _
    cases going : command.isClose with
    | true =>
      obtain rfl := CoreCommand.eq_close_of_isClose going
      rw [respond_close, events_shut]
      simp [CoreCommand.isClose, registrations, CoreCommand.registered]
    | false =>
      obtain ⟨answer, responds, _⟩ := respond_opened name owned going
      rw [responds, ih]
      simp [going, registrations]

/-- Then every closer that was registered, at any depth, has been started once, in order. -/
theorem closings_opened (commands : List CoreCommand) :
    (((opened name []).respondAll commands).flatMap (·.events)).filterMap CloserEvent.closing? =
      if commands.any (·.isClose) then namesOf commands else [] := by
  rw [events_opened]
  split
  · rw [List.filterMap_flatMap, namesOf_eq_registrations]
    simp only [Closer.closing_trace, List.nil_append]
  · rfl

/-- Of a sequence of commands, those before the first close register resources and succeed; the first
close runs the closer of each of these resources in order and tells which of them have failed; later
ones fail or do nothing, but for closing what is registered late at once. In this way every closer,
also one that a closer registers, is started once if there is a close, in order of registration, and
never if there is none. -/
theorem closes_once (name : String) (commands : List CoreCommand) :
    let outcomes := (⟨name, {}⟩ : Core).respondAll commands
    outcomes.length = commands.length ∧
      (outcomes.flatMap (·.events)).filterMap CloserEvent.closing? =
        (if commands.any (·.isClose) then namesOf commands else []) ∧
      ∀ earlier command later, commands = earlier ++ command :: later →
        ∃ outcome, outcomes[earlier.length]? = some outcome ∧
          let taken := registrations earlier
          let failing := taken.filter (·.2.fails)
          if earlier.any (·.isClose) then
            outcome = ⟨command.lateAnswer name, command.trace name, 0, true⟩
          else if command.isClose then
            outcome.events = taken.flatMap (·.2.trace name) ∧
              (failing = [] → outcome.answer = .done) ∧
              (failing ≠ [] → ∃ error, outcome.answer = .unclosed error ∧
                error.slots = failing.map Prod.fst) ∧
              outcome.owned = 0 ∧ outcome.closed = true
          else
            outcome.events = [] ∧ (command.asksCore = true → outcome.answer = .done) ∧
              outcome.owned = (registrations (earlier ++ [command])).length ∧ outcome.closed = false := by
  intro outcomes
  refine ⟨length_respondAll _ _, closings_opened name commands, ?_⟩
  rintro earlier command later rfl
  refine ⟨_, getElem?_respondAll (opened name []) earlier later command, ?_⟩
  rw [after_opened, List.nil_append]
  cases begun : earlier.any (·.isClose) with
  | true => simp [respond_shut]
  | false =>
    cases going : command.isClose with
    | true =>
      obtain rfl := CoreCommand.eq_close_of_isClose going
      obtain ⟨clean, failed⟩ := answer_of_closing (registrations earlier)
      simp only [Bool.false_eq_true, ↓reduceIte, respond_close]
      exact ⟨trivial, clean, failed, trivial, trivial⟩
    | false =>
      obtain ⟨answer, responds, answered⟩ := respond_opened name (registrations earlier) going
      have counted : registrations (earlier ++ [command]) =
          registrations earlier ++ command.registered := by simp [registrations]
      simp only [Bool.false_eq_true, ↓reduceIte, responds, counted]
      exact ⟨trivial, answered, trivial, trivial⟩

/-- A closer that fails and brings another resource, which is closed while the closing goes on. -/
example :
    let cellar : Closer := .mk "cellar" none []
    let pump : Closer := .mk "pump" (some "stuck") [.register "cellar" cellar]
    (((⟨"house", {}⟩ : Core).respondAll [.register "pump" pump, .register "lamp" (.mk "lamp" none []),
        .close, .close, .register "late" cellar]).map fun outcome =>
          (outcome.answer, outcome.events.filterMap CloserEvent.closing?, outcome.owned)) =
      [(.done, [], 1), (.done, [], 2),
        (.unclosed ⟨[⟨"pump", .foreign "stuck"⟩]⟩, ["pump", "cellar", "lamp"], 0),
        (.done, [], 0), (.failed (.scopeClosed "late"), ["cellar"], 0)] := by rfl

end Core

end Wiring.Script
