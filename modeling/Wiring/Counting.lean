/-! # Counting what is left

Searches end because each step leaves fewer items to pass. The lemmas compare two counts over one
list.
-/

namespace Wiring

/-- A predicate that implies another and fails where the other holds is satisfied less often. -/
theorem countP_lt_of_imp {α : Type} {p q : α → Bool} {items : List α} {item : α}
    (member : item ∈ items) (imp : ∀ other ∈ items, p other = true → q other = true)
    (fails : p item = false) (holds : q item = true) : items.countP p < items.countP q := by
  induction items with
  | nil => cases member
  | cons head rest ih =>
    have restImp := fun other (later : other ∈ rest) => imp other (List.mem_cons_of_mem _ later)
    rcases List.mem_cons.mp member with here | later
    · subst here
      have := List.countP_mono_left restImp
      simp only [List.countP_cons, fails, holds, Bool.false_eq_true, ↓reduceIte]
      omega
    · have fewer := ih later restImp
      have headImp := imp head List.mem_cons_self
      simp only [List.countP_cons]
      by_cases counted : p head = true
      · simp only [counted, headImp counted, ↓reduceIte]
        omega
      · simp only [counted, Bool.false_eq_true, ↓reduceIte]
        omega

end Wiring
