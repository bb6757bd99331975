import Wiring.Json.Printer
import Wiring.Scope.Text

/-! # Values and actions as data

A scripted host has plain values, objects that remember what they were made from, and resources
that can be closed. What a recipe or a closer does is a list of actions, each of which leaves one
report in the log, or none.
-/

namespace Wiring.Script

/-- The types of a scripted host, and those of the instances that a scope makes itself. -/
inductive Kind where
  | byte
  | integer
  | flag
  | text
  | unit
  | object
  | resource
  | factory
  | injector
deriving DecidableEq, Repr

def Kind.label : Kind → String
  | byte => "u8"
  | integer => "i64"
  | flag => "bool"
  | text => "string"
  | unit => "unit"
  | object => "obj"
  | resource => "res"
  | factory => "factory"
  | injector => "injector"

inductive Deed where
  /-- Reports how many arguments there are. -/
  | countArguments
  | argument (index : UInt64)
  /-- Reports an argument that must be of a kind. -/
  | argumentAs (index : UInt64) (kind : Kind)
  /-- Reports the slot behind a deferred argument. -/
  | handle (index : UInt64)
  /-- Reads the slot behind a deferred argument. -/
  | force (index : UInt64)
  /-- Keeps a deferred argument for the client. -/
  | keep (index : UInt64) (name : String)
  | receiver
  | read (slot : String)
  | state (slot : String)
  | owned
  | close
  /-- Gives up the client's reference. -/
  | release
  | fail (text : String)
  | panic (text : String)
  | raise (error : RuntimeError)
  | pause
deriving DecidableEq, Repr

/-- A deed; the failure of a tolerant action is only reported. -/
structure Action where
  deed : Deed
  tolerant : Bool := false
deriving DecidableEq, Repr

/-- How a resource is closed: actions, then a failure if there is a text. -/
structure Closing where
  actions : List Action := []
  failure : Option String := none
deriving DecidableEq, Repr

/-- A value of the host. -/
inductive Payload where
  | byte (value : UInt8)
  | integer (value : Int64)
  | flag (value : Bool)
  | text (value : String)
  | unit
  /-- An object with the short texts of what it was made from. -/
  | object (id : String) (parts : List String)
  | resource (id : String) (parts : List String) (closing : Closing)
deriving DecidableEq, Repr

abbrev Shared := Instance Payload

def Payload.kind : Payload → Kind
  | byte _ => .byte
  | integer _ => .integer
  | flag _ => .flag
  | text _ => .text
  | unit => .unit
  | object .. => .object
  | resource .. => .resource

def kindOf : Content Payload → Kind
  | .host value => value.kind
  | .factory _ => .factory
  | .injector _ => .injector

/-- The JSON form in which a content is shown: its kind with its value, and for objects and
resources before that their parts. -/
def shown (content : Content Payload) : Json :=
  let labelled (value : Json) : String × Json := ((kindOf content).label, value)
  match content with
  | .host (.byte value) => .object [labelled (.int value.toNat)]
  | .host (.integer value) => .object [labelled (.int value.toInt)]
  | .host (.flag value) => .object [labelled (.bool value)]
  | .host (.text value) => .object [labelled (.string value)]
  | .host .unit => .object [labelled .null]
  | .host (.object id parts) => .object [("args", .ofStrings parts), labelled (.string id)]
  | .host (.resource id parts _) => .object [("args", .ofStrings parts), labelled (.string id)]
  | .factory slot => .object [labelled (.string slot.text)]
  | .injector slot => .object [labelled (.string slot.text)]

/-- The short text of a content: the name of an object or a resource, the shown form of all
else. -/
def short : Content Payload → String
  | .host (.object id _) => id
  | .host (.resource id _ _) => id
  | other => (shown other).compact

def shortArg : Arg Payload → String
  | .shared value => short value.content
  | .lazy slot => "lazy " ++ slot

inductive Report where
  /-- The slot that arguments were read for, and their number. -/
  | arguments (slot : String) (count : Nat)
  | shared (value : Shared)
  /-- A deferred handle to a slot. -/
  | handle (slot : String)
  | state (state : Option CellState)
  | owned (count : Nat)
  | closed
  | unclosed (error : CloseError)
  /-- The client's reference was given up. -/
  | released
  /-- The failure of a tolerant action. -/
  | fault (fault : Fault)
deriving DecidableEq

inductive Event where
  | constructing (type : String)
  /-- A method is called; `receiver` is a short text. -/
  | calling (type method receiver : String)
  | closing (id : String)
  | reported (report : Report)
deriving DecidableEq

structure HostState where
  /-- Objects and resources made so far. -/
  made : Nat := 0
  events : List Event := []
  /-- Slots of the deferred handles that were kept, by name; the latest comes first. -/
  handles : List (String × String) := []

end Wiring.Script
