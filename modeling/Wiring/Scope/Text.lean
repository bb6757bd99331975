import Wiring.Scope.State

/-! # Diagnostic text of scopes

Scopes and what they are opened with show themselves on one line. Tables show the names that they
hold, in order, and instances show their type and whether they have to be closed.
-/

namespace Wiring

variable {σ V : Type}

def sortedNames (names : List String) : List String := names.mergeSort fun a b => decide (a ≤ b)

/-- An instance with this content; its identity is not shown. -/
def instanceText (host : Host σ V) (content : Content V) : String :=
  Text.record "Instance"
    [("type", Text.quoted (host.nameOf content)),
     ("closeable", Text.flag (host.closerOf content).isSome)]

def Instance.text (host : Host σ V) (value : Instance V) : String :=
  instanceText host value.content

def RecipeTable.text (table : RecipeTable σ V) : String :=
  Text.record "RecipeTable"
    [("constructors", Text.quotedListing (sortedNames (table.constructors.map (·.1)))),
     ("methods", Text.quotedListing (sortedNames (table.methods.map fun entry =>
       entry.1.1 ++ "#" ++ entry.1.2)))]

def Values.text (host : Host σ V) (values : Values V) : String :=
  Text.record "ValueBindings"
    [("values", Text.table (values.entries.map fun entry =>
      (entry.1, instanceText host (.host entry.2))))]

/-- A deferred handle shows the slot that it reads. -/
def handleText (slot : String) : String := "LazyHandle(" ++ Text.quoted slot ++ ")"

def FactorySlot.text (slot : FactorySlot) : String :=
  Text.record "CurriedFactory"
    [("identifier", Text.quoted slot.identifier),
     ("product", Text.quoted slot.product.simpleName)]

def InjectorSlot.text (slot : InjectorSlot) : String :=
  Text.record "MethodInjector"
    [("identifier", Text.quoted slot.identifier),
     ("interface", Text.quoted slot.interface.simpleName)]

def Scope.text (scope : Scope σ V) (w : World σ V) : String :=
  Text.record "ScopeInstance"
    [("core", w.teardown.text scope.plan.qualifiedName), ("slots", toString scope.size)]

end Wiring
