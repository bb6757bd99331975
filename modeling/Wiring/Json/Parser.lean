import Wiring.Json.Basic

/-! # Reading JSON text

The reader works on characters and returns what follows the value it read. Every nested value
starts at least one character further on, so the length of the text bounds the nesting. Of
several fields with one name the last one counts.
-/

namespace Wiring.Json

def isBlank (c : Char) : Bool := c = ' ' || c = '\n' || c = '\r' || c = '\t'

def skipBlanks (chars : List Char) : List Char := chars.dropWhile isBlank

/-- The rest of the text after an expected word. -/
def dropWord? : List Char → List Char → Option (List Char)
  | [], chars => some chars
  | _ :: _, [] => none
  | c :: word, d :: chars => if c = d then dropWord? word chars else none

def hexValue? (c : Char) : Option Nat :=
  if '0' ≤ c ∧ c ≤ '9' then some (c.toNat - '0'.toNat)
  else if 'a' ≤ c ∧ c ≤ 'f' then some (c.toNat - 'a'.toNat + 10)
  else if 'A' ≤ c ∧ c ≤ 'F' then some (c.toNat - 'A'.toNat + 10)
  else none

def hexUnit? : List Char → Option (Nat × List Char)
  | a :: b :: c :: d :: rest => do
    let a ← hexValue? a
    let b ← hexValue? b
    let c ← hexValue? c
    let d ← hexValue? d
    some (a * 4096 + b * 256 + c * 16 + d, rest)
  | _ => none

/-- The character of an escape by number; two halves of a pair make one character. -/
def numberedChar? (chars : List Char) : Option (Char × List Char) := do
  let (unit, rest) ← hexUnit? chars
  if 0xD800 ≤ unit ∧ unit < 0xDC00 then
    let rest ← dropWord? ['\\', 'u'] rest
    let (low, rest) ← hexUnit? rest
    if 0xDC00 ≤ low ∧ low < 0xE000 then
      some (.ofNat (0x10000 + (unit - 0xD800) * 1024 + (low - 0xDC00)), rest)
    else none
  else if 0xDC00 ≤ unit ∧ unit < 0xE000 then none
  else some (.ofNat unit, rest)

/-- The character of an escape, after its backslash. -/
def escaped? : List Char → Option (Char × List Char)
  | '"' :: rest => some ('"', rest)
  | '\\' :: rest => some ('\\', rest)
  | '/' :: rest => some ('/', rest)
  | 'b' :: rest => some ('\x08', rest)
  | 'f' :: rest => some ('\x0c', rest)
  | 'n' :: rest => some ('\n', rest)
  | 'r' :: rest => some ('\r', rest)
  | 't' :: rest => some ('\t', rest)
  | 'u' :: rest => numberedChar? rest
  | _ => none

/-- The characters of a string up to its closing quote. -/
def stringChars? : Nat → List Char → Option (List Char × List Char)
  | 0, _ => none
  | _, [] => none
  | _, '"' :: rest => some ([], rest)
  | limit + 1, '\\' :: rest => do
    let (c, rest) ← escaped? rest
    let (chars, rest) ← stringChars? limit rest
    some (c :: chars, rest)
  | limit + 1, c :: rest =>
    if c.toNat < 0x20 then none
    else do
      let (chars, rest) ← stringChars? limit rest
      some (c :: chars, rest)

def digitsOf (chars : List Char) : List Char × List Char := chars.span Char.isDigit

def digitsValue (digits : List Char) : Nat :=
  digits.foldl (fun value digit => value * 10 + (digit.toNat - '0'.toNat)) 0

def fraction? : List Char → Option (List Char × List Char)
  | '.' :: rest =>
    match digitsOf rest with
    | ([], _) => none
    | (digits, rest) => some ('.' :: digits, rest)
  | chars => some ([], chars)

def exponent? (chars : List Char) : Option (List Char × List Char) :=
  match chars with
  | mark :: rest =>
    if mark = 'e' || mark = 'E' then
      let (sign, rest) := match rest with
        | '+' :: rest => (['+'], rest)
        | '-' :: rest => (['-'], rest)
        | rest => ([], rest)
      match digitsOf rest with
      | ([], _) => none
      | (digits, rest) => some (mark :: sign ++ digits, rest)
    else some ([], chars)
  | [] => some ([], [])

/-- A number; zero with a sign is not an integer. -/
def number? (chars : List Char) : Option (Json × List Char) := do
  let (negative, chars) := match chars with
    | '-' :: rest => (true, rest)
    | chars => (false, chars)
  let (whole, chars) := digitsOf chars
  if whole.isEmpty || (whole.length > 1 && whole.head? = some '0') then none
  else
    let (fraction, chars) ← fraction? chars
    let (exponent, chars) ← exponent? chars
    let value := digitsValue whole
    let sign := if negative then ['-'] else []
    if fraction.isEmpty && exponent.isEmpty && !(negative && value = 0) then
      some (int (if negative then -value else value), chars)
    else some (decimal (String.ofList (sign ++ whole ++ fraction ++ exponent)), chars)

/-- Sets a field, in place of an earlier one of its name. -/
def setField (name : String) (value : Json) (fields : Fields) : Fields :=
  if (fields.lookup name).isSome then
    fields.map fun (other, old) => if other = name then (other, value) else (other, old)
  else fields ++ [(name, value)]

mutual
/-- A value that starts at the first character that is not blank. -/
def value? : Nat → List Char → Option (Json × List Char)
  | 0, _ => none
  | limit + 1, chars =>
    match skipBlanks chars with
    | 'n' :: rest => (dropWord? "ull".toList rest).map (null, ·)
    | 't' :: rest => (dropWord? "rue".toList rest).map (bool true, ·)
    | 'f' :: rest => (dropWord? "alse".toList rest).map (bool false, ·)
    | '"' :: rest => (stringChars? (rest.length + 1) rest).map fun (chars, rest) =>
        (string (String.ofList chars), rest)
    | '[' :: rest =>
      match skipBlanks rest with
      | ']' :: rest => some (array [], rest)
      | rest => (items? limit rest).map fun (items, rest) => (array items, rest)
    | '\x7b' :: rest =>
      match skipBlanks rest with
      | '\x7d' :: rest => some (object [], rest)
      | rest => (members? limit [] rest).map fun (fields, rest) => (object fields, rest)
    | chars => number? chars

/-- The items of an array up to its closing bracket. -/
def items? : Nat → List Char → Option (List Json × List Char)
  | 0, _ => none
  | limit + 1, chars => do
    let (item, rest) ← value? limit chars
    match skipBlanks rest with
    | ',' :: rest =>
      let (items, rest) ← items? limit rest
      some (item :: items, rest)
    | ']' :: rest => some ([item], rest)
    | _ => none

/-- The fields of an object up to its closing brace, added to those read before. -/
def members? : Nat → Fields → List Char → Option (Fields × List Char)
  | 0, _, _ => none
  | limit + 1, fields, chars => do
    let rest ← dropWord? ['"'] (skipBlanks chars)
    let (name, rest) ← stringChars? (rest.length + 1) rest
    let rest ← dropWord? [':'] (skipBlanks rest)
    let (value, rest) ← value? limit rest
    let fields := setField (String.ofList name) value fields
    match skipBlanks rest with
    | ',' :: rest => members? limit fields rest
    | '\x7d' :: rest => some (fields, rest)
    | _ => none
end

/-- The value that the whole text stands for. -/
def parse? (text : String) : Option Json := do
  let chars := text.toList
  let (value, rest) ← value? (chars.length + 1) chars
  if (skipBlanks rest).isEmpty then some value else none

end Wiring.Json
