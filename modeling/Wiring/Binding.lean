/-! # Kinds of binding

A key is satisfied in one of six ways. The kind is what diagnostics name when two bindings meet.
-/

namespace Wiring

/-- How a key is satisfied. -/
inductive BindingKind where
  | value
  | constructor
  | provider
  | aliased
  | factory
  | injector
deriving DecidableEq, Repr

def BindingKind.label : BindingKind → String
  | .value => "value"
  | .constructor => "constructor"
  | .provider => "provider"
  | .aliased => "alias"
  | .factory => "factory"
  | .injector => "injector"

end Wiring
