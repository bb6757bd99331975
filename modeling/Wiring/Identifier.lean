import Wiring.Text.Lowercase

/-! # Identifier-safe text

Slot names are derived from type names and qualifier payloads. A type name only loses the capital
of its first character; a payload is admitted only over letters, digits and hyphens, and its
hyphens become underscores.
-/

namespace Wiring.Identifier

def lowerFirst (s : String) : String :=
  match s.toList with
  | [] => ""
  | c :: rest => String.ofList (Text.lowercaseChar c ++ rest)

/-- Characters a payload may hold: ASCII letters and digits, and the hyphen. -/
def isPayloadChar (c : Char) : Bool := c.isAlphanum || c = '-'

/-- Whether every character of `s` may stand in a payload. -/
def isPayload (s : String) : Bool := s.toList.all isPayloadChar

/-- The payload with underscores for hyphens. -/
def ofPayload (s : String) : String :=
  String.ofList (s.toList.map fun c => if c = '-' then '_' else c)

end Wiring.Identifier
