import Wiring.Text.Quoted

/-! # One-line layout of structured values

Diagnostic texts show records, lists and tables on one line. Field values arrive already laid
out, so nesting is by composition.
-/

namespace Wiring.Text

/-- Items in square brackets, separated by commas. -/
def listing (items : List String) : String := "[" ++ ", ".intercalate items ++ "]"

/-- The items of a list of names, each in quotes. -/
def quotedListing (names : List String) : String := listing (names.map quoted)

/-- A name and its fields in braces. -/
def record (name : String) (fields : List (String × String)) : String :=
  let shown := fields.map fun (field, value) => field ++ ": " ++ value
  name ++ " \x7b " ++ ", ".intercalate shown ++ " \x7d"

/-- A table of quoted keys in the order given. -/
def table (entries : List (String × String)) : String :=
  let shown := entries.map fun (key, value) => quoted key ++ ": " ++ value
  "\x7b" ++ ", ".intercalate shown ++ "\x7d"

/-- The word for a truth value. -/
def flag (b : Bool) : String := if b then "true" else "false"

end Wiring.Text
