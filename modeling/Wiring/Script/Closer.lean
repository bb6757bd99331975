import Wiring.Teardown

/-! # Closers as data

A scope core is asked to take resources, to check that it is open and to close. The closer of a
resource may ask the same of the core while it runs. Closers only ever run once closing has begun,
and then nothing is taken any more, so what a closer asks for depends on nothing but the closer.
-/

namespace Wiring.Script

mutual
inductive Closer where
  /-- The name is logged, the commands are given, and then closing fails if there is a text. -/
  | mk (name : String) (failure : Option String) (commands : List CoreCommand)

/-- What can be asked of a core. -/
inductive CoreCommand where
  | register (slot : String) (closer : Closer)
  | close
  | checkOpen (slot : String)
  | name
  | describe
  /-- A command that nobody knows. -/
  | unknown (word : String)
end

inductive CoreAnswer where
  | done
  | failed (error : RuntimeError)
  | unclosed (error : CloseError)
  | text (value : String)
  | unknown (word : String)
deriving DecidableEq, Repr

namespace CoreAnswer

/-- The answer that a result amounts to. -/
def ofResult : Except RuntimeError Unit → CoreAnswer
  | .ok () => done
  | .error error => failed error

/-- The answer that a closing amounts to. -/
def ofClosing : Except CloseError Unit → CoreAnswer
  | .ok () => done
  | .error error => unclosed error

end CoreAnswer

inductive CloserEvent where
  | closing (name : String)
  /-- The answer that the closer of this name was given. -/
  | answered (name : String) (answer : CoreAnswer)
deriving DecidableEq, Repr

abbrev Logged := StateM (List CloserEvent)

def record (event : CloserEvent) : Logged Unit := modify (· ++ [event])

section Closing

variable (core : String)

mutual
/-- Runs a closer, after closing of the core has begun. -/
def Closer.run : Closer → Logged (Except Fault Unit)
  | .mk name failure commands => do
    record (.closing name)
    runCommands name commands
    match failure with
    | some text => return .error (.foreign text)
    | none => return .ok ()

/-- Gives the commands of a closer in order and logs the answers. -/
def runCommands (name : String) : List CoreCommand → Logged Unit
  | [] => pure ()
  | command :: rest => do
    let answer ← command.runClosed
    record (.answered name answer)
    runCommands name rest

/-- Answers a command after closing has begun: a late resource is closed at once, and closing
again does nothing. -/
def CoreCommand.runClosed : CoreCommand → Logged CoreAnswer
  | .register slot closer => do
    let _ ← closer.run
    return .failed (.scopeClosed slot)
  | .close => return .done
  | .checkOpen slot => return .failed (.scopeClosed slot)
  | .name => return .text core
  | .describe => return .text ((.begun : Teardown Closer).text core)
  | .unknown word => return .unknown word
end

end Closing

structure Core where
  name : String
  teardown : Teardown Closer := {}

namespace Core

def run (core : Core) (command : CoreCommand) : Logged (CoreAnswer × Core) :=
  if core.teardown.closed then do
    let answer ← command.runClosed core.name
    return (answer, core)
  else
    match command with
    | .register slot closer =>
      return (.done, { core with teardown := core.teardown.take slot closer })
    | .close => do
      let failures ← Teardown.closeAll (Closer.run core.name) core.teardown.owned
      return (.ofClosing (CloseError.ofFailures failures), { core with teardown := .begun })
    | .checkOpen slot => return (.ofResult (core.teardown.checkOpen slot), core)
    | .name => return (.text core.name, core)
    | .describe => return (.text (core.teardown.text core.name), core)
    | .unknown word => return (.unknown word, core)

/-- What is told after a command. -/
structure Outcome where
  answer : CoreAnswer
  events : List CloserEvent
  /-- Resources that wait for the closing. -/
  owned : Nat
  closed : Bool

def respond (core : Core) (command : CoreCommand) : Outcome × Core :=
  let ((answer, after), events) := core.run command []
  ({ answer, events, owned := after.teardown.owned.length, closed := after.teardown.closed }, after)

def respondAll (core : Core) : List CoreCommand → List Outcome
  | [] => []
  | command :: rest =>
    let (outcome, after) := core.respond command
    outcome :: respondAll after rest

end Core

end Wiring.Script
