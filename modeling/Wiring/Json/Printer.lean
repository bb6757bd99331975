import Wiring.Json.Basic
import Wiring.Ordered

/-! # Compact JSON text

No space is written between tokens. Characters are written as themselves apart from quotes,
backslashes and the control characters below the space. Values are told apart, and put in order,
by their texts.
-/

namespace Wiring.Json

/-- The digits of a code point below 256, in hexadecimal with two places. -/
def hexByte (code : Nat) : String :=
  String.ofList [Nat.digitChar (code / 16), Nat.digitChar (code % 16)]

/-- How a character is written inside a JSON string. -/
def escapeChar (c : Char) : String :=
  match c with
  | '"' => "\\\""
  | '\\' => "\\\\"
  | '\n' => "\\n"
  | '\r' => "\\r"
  | '\t' => "\\t"
  | '\x08' => "\\b"
  | '\x0c' => "\\f"
  | _ => if c.toNat < 0x20 then "\\u00" ++ hexByte c.toNat else c.toString

def stringText (value : String) : String :=
  "\"" ++ String.join (value.toList.map escapeChar) ++ "\""

mutual
def compact : Json → String
  | null => "null"
  | bool value => if value then "true" else "false"
  | int value => toString value
  | decimal literal => literal
  | string value => stringText value
  | array items => "[" ++ ",".intercalate (compactItems items) ++ "]"
  | object fields => "\x7b" ++ ",".intercalate (compactFields fields) ++ "\x7d"

def compactItems : List Json → List String
  | [] => []
  | item :: rest => compact item :: compactItems rest

def compactFields : List (String × Json) → List String
  | [] => []
  | (name, value) :: rest => (stringText name ++ ":" ++ compact value) :: compactFields rest
end

/-- The different ones of some values, in the order of their texts. -/
def distinct (values : List Json) : List Json :=
  values.foldl (fun sorted value => place compact false value sorted) []

end Wiring.Json
