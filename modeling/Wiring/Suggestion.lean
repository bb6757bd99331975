import Wiring.Text.Lowercase

/-! # Suggestions for a name that was not found

Candidates are scored on lowercase text: containment scores highest, then a likely misspelling,
then a shared beginning of three characters or more, ten points a character. Candidates without
a score are dropped; equal scores are ordered by name, so the order in which the candidates were
listed does not show.
-/

namespace Wiring.Suggestion

/-- Whether `part` is a contiguous piece of the given characters. -/
def occursIn (part : List Char) : List Char → Bool
  | [] => part.isEmpty
  | c :: rest => part.isPrefixOf (c :: rest) || occursIn part rest

/-- One of the two texts contains the other. -/
def overlaps (a b : String) : Bool :=
  occursIn a.toList b.toList || occursIn b.toList a.toList

/-- Number of positions at which the two texts hold the same character. -/
def agreements (a b : String) : Nat :=
  (a.toList.zip b.toList).countP fun (x, y) => x = y

/-- Byte lengths within three of each other, and agreement on at least sixty percent of the
longer one. -/
def closeEnough (a b : String) : Bool :=
  let longer := max a.utf8ByteSize b.utf8ByteSize
  let shorter := min a.utf8ByteSize b.utf8ByteSize
  longer - shorter ≤ 3 && (longer = 0 || 60 ≤ agreements a b * 100 / longer)

/-- Length of the longest common beginning. -/
def sharedStart (a b : String) : Nat :=
  ((a.toList.zip b.toList).takeWhile fun (x, y) => x = y).length

/-- Score of a candidate; both texts are lowercase. -/
def score? (requested candidate : String) : Option Nat :=
  if overlaps requested candidate then some 100
  else if closeEnough requested candidate then some 90
  else
    let start := sharedStart candidate requested
    if 3 ≤ start then some (start * 10) else none

structure Scored where
  name : String
  score : Nat
deriving DecidableEq, Repr

/-- Higher scores come first, and equal scores by name. -/
def Scored.precedes (a b : Scored) : Bool :=
  b.score < a.score || (a.score = b.score && decide (a.name ≤ b.name))

/-- The candidates other than `requested` that score, with their scores. -/
def scored (requested : String) (available : List String) : List Scored :=
  (available.filter (· ≠ requested)).filterMap fun name =>
    (score? (Text.lowercase requested) (Text.lowercase name)).map fun score => ⟨name, score⟩

/-- At most `limit` names close to `requested`, best first. -/
def similar (requested : String) (available : List String) (limit : Nat) : List String :=
  (((scored requested available).mergeSort Scored.precedes).take limit).map (·.name)

end Wiring.Suggestion
