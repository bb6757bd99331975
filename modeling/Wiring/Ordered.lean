/-! # Lists in strict order of a key

Sets and tables are kept as lists in strict order of a text key, so each key occurs once and two
lists with the same items are equal. When an item is put in whose key is there already, either the
old item stays or the new one takes its place.
-/

namespace Wiring

/-- The keys of the list are strictly increasing. -/
abbrev OrderedBy {α : Type} (key : α → String) (items : List α) : Prop :=
  items.Pairwise fun a b => key a < key b

/-- Puts an item at its place. -/
def place {α : Type} (key : α → String) (replaces : Bool) (item : α) : List α → List α
  | [] => [item]
  | other :: rest =>
    if key item = key other then (if replaces then item else other) :: rest
    else if key item < key other then item :: other :: rest
    else other :: place key replaces item rest

section

variable {α : Type} {key : α → String} {replaces : Bool} {item other : α} {items : List α}

/-- Placing an item adds nothing but this item. -/
theorem mem_of_mem_place (member : other ∈ place key replaces item items) :
    other = item ∨ other ∈ items := by
  induction items with
  | nil => simpa [place] using member
  | cons head rest ih =>
    simp only [place] at member
    split at member
    · cases replaces
      · exact .inr member
      · rcases List.mem_cons.mp member with same | later
        · exact .inl same
        · exact .inr (List.mem_cons_of_mem _ later)
    · split at member
      · simpa using member
      · rcases List.mem_cons.mp member with same | later
        · simp [same]
        · rcases ih later with same | old
          · exact .inl same
          · exact .inr (List.mem_cons_of_mem _ old)

private theorem lt_of_ne_of_not_lt {a b : String} (different : a ≠ b) (notLess : ¬ a < b) : b < a :=
  String.not_le.mp fun le => different (String.le_antisymm le (String.not_lt.mp notLess))

/-- Placing an item keeps a list in order. -/
theorem OrderedBy.place (ordered : OrderedBy key items) :
    OrderedBy key (place key replaces item items) := by
  induction items with
  | nil => simp [Wiring.place]
  | cons head rest ih =>
    have ⟨below, restOrdered⟩ := List.pairwise_cons.mp ordered
    simp only [Wiring.place]
    split
    next same =>
      refine List.pairwise_cons.mpr ⟨fun later member => ?_, restOrdered⟩
      have := below later member
      split
      · rwa [same]
      · exact this
    next different =>
      split
      next smaller =>
        refine List.pairwise_cons.mpr ⟨fun later member => ?_, ordered⟩
        rcases List.mem_cons.mp member with same | member
        · exact same ▸ smaller
        · exact String.lt_trans smaller (below later member)
      next notSmaller =>
        refine List.pairwise_cons.mpr ⟨fun later member => ?_, ih restOrdered⟩
        rcases mem_of_mem_place member with same | member
        · exact same ▸ lt_of_ne_of_not_lt different notSmaller
        · exact below later member

end

end Wiring
