import Wiring.Text.CaseData

/-! # Lowercasing by the full Unicode mapping

Lowercasing may lengthen a text: `İ` becomes `i` with a combining dot. A capital sigma that ends
a word becomes `ς` and any other becomes `σ`; whether it ends a word is read off the cased
letters around it, skipping characters that take no part in casing. The rule needs the context,
so the mapping of a lone character always gives `σ`.
-/

namespace Wiring.Text

/-- Whether the code point of `c` lies in one of the inclusive ranges. -/
def inRanges (ranges : List (Nat × Nat)) (c : Char) : Bool :=
  ranges.any fun (first, last) => first ≤ c.toNat && c.toNat ≤ last

/-- Characters that have letter case. -/
def isCased (c : Char) : Bool := inRanges casedRanges c

/-- Characters that are skipped when the letters around a capital sigma are looked for. -/
def isCaseIgnorable (c : Char) : Bool := inRanges caseIgnorableRanges c

def CaseRun.covers (run : CaseRun) (code : Nat) : Bool :=
  run.first ≤ code && code ≤ run.last && (code - run.first) % run.stride = 0

/-- The characters that `c` lowercases to when nothing is known of its surroundings. -/
def lowercaseChar (c : Char) : List Char :=
  if c.toNat < 0x80 then [c.toLower]
  else if c.toNat = 0x130 then ['i', '\u0307']
  else match lowercaseRuns.find? (·.covers c.toNat) with
    | some run => [Char.ofNat (c.toNat + run.offset).toNat]
    | none => [c]

/-- The first character with a part in casing is a cased letter. -/
def startsWithCased (chars : List Char) : Bool :=
  match chars.dropWhile isCaseIgnorable with
  | [] => false
  | c :: _ => isCased c

/-- Lowercases the characters that follow `before`, which is listed from the nearest one back. -/
def lowercaseAfter (before : List Char) : List Char → List Char
  | [] => []
  | c :: rest =>
    let lowered :=
      if c = 'Σ' then
        if startsWithCased before && !startsWithCased rest then ['ς'] else ['σ']
      else lowercaseChar c
    lowered ++ lowercaseAfter (c :: before) rest

def lowercase (s : String) : String := String.ofList (lowercaseAfter [] s.toList)

end Wiring.Text
