import Wiring.Text.InvisibleData
import Wiring.Text.Lowercase

/-! # Quoted texts

A text in quotes shows each character as itself unless it would be confused with the quoting or
cannot be seen; those are escaped. An apostrophe needs no escape between double quotes.
-/

namespace Wiring.Text

/-- How `c` is shown between double quotes. -/
def escapeChar (c : Char) : String :=
  match c with
  | '"' => "\\\""
  | '\\' => "\\\\"
  | '\n' => "\\n"
  | '\r' => "\\r"
  | '\t' => "\\t"
  | '\x00' => "\\0"
  | _ =>
    if inRanges invisibleRanges c then
      "\\u\x7b" ++ String.ofList (Nat.toDigits 16 c.toNat) ++ "\x7d"
    else c.toString

/-- The text in double quotes, escaped character by character. -/
def quoted (s : String) : String :=
  "\"" ++ String.join (s.toList.map escapeChar) ++ "\""

end Wiring.Text
