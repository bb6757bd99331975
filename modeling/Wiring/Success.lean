/-! # Successful sequences

A sequence of steps that may fail succeeds exactly when each of its steps does, and fails as the first
step that does not. What each step of a fold keeps, the fold keeps; and what a step establishes and later
steps keep holds at the end.
-/

namespace Wiring

/-- A sequence succeeds if both parts do. -/
theorem bind_eq_ok {ε α β : Type} {first : Except ε α} {next : α → Except ε β} {result : β} :
    (first >>= next) = .ok result ↔ ∃ middle, first = .ok middle ∧ next middle = .ok result := by
  cases first <;> simp [bind, Except.bind]

/-- A sequence fails if its first part does, or the rest after it. -/
theorem bind_eq_error {ε α β : Type} {first : Except ε α} {next : α → Except ε β} {error : ε} :
    (first >>= next) = .error error ↔
      first = .error error ∨ ∃ middle, first = .ok middle ∧ next middle = .error error := by
  cases first <;> simp [bind, Except.bind]

section Check

variable {ε β : Type} {check : Except ε Unit} {next : Unit → Except ε β}

theorem check_bind_eq_ok {result : β} :
    (check >>= next) = .ok result ↔ check = .ok () ∧ next () = .ok result :=
  bind_eq_ok.trans ⟨fun ⟨(), done, others⟩ => ⟨done, others⟩, fun ⟨done, others⟩ => ⟨(), done, others⟩⟩

theorem check_bind_eq_error {error : ε} : (check >>= next) = .error error ↔
    check = .error error ∨ check = .ok () ∧ next () = .error error :=
  bind_eq_error.trans (or_congr_right
    ⟨fun ⟨(), done, failed⟩ => ⟨done, failed⟩, fun ⟨done, failed⟩ => ⟨(), done, failed⟩⟩)

end Check

/-- A check of all items succeeds if that of each item does. -/
theorem forM_eq_ok {ε α : Type} {act : α → Except ε Unit} {items : List α} :
    items.forM act = .ok () ↔ ∀ item ∈ items, act item = .ok () := by
  induction items with
  | nil => exact ⟨fun _ => List.forall_mem_nil _, fun _ => rfl⟩
  | cons item rest ih =>
    change (act item >>= fun _ => rest.forM act) = .ok () ↔ _
    rw [bind_eq_ok, ih, List.forall_mem_cons]
    exact ⟨fun ⟨(), first, others⟩ => ⟨first, others⟩, fun ⟨first, others⟩ => ⟨(), first, others⟩⟩

section Fold

variable {ε α β : Type} {step : β → α → Except ε β} {items : List α} {start result : β}

/-- A fold succeeds if its first step and the rest do. -/
theorem foldlM_cons_eq_ok {item : α} :
    (item :: items).foldlM step start = .ok result ↔
      ∃ middle, step start item = .ok middle ∧ items.foldlM step middle = .ok result := by
  rw [List.foldlM_cons, bind_eq_ok]

/-- A fold fails as the first of its steps that fails. -/
theorem foldlM_eq_error {error : ε} : items.foldlM step start = .error error ↔
    ∃ before item after middle, items = before ++ item :: after ∧
      before.foldlM step start = .ok middle ∧ step middle item = .error error := by
  induction items generalizing start with
  | nil => simp [pure, Except.pure]
  | cons head rest ih =>
    rw [List.foldlM_cons, bind_eq_error]
    constructor
    · rintro (failed | ⟨middle, done, failed⟩)
      · exact ⟨[], head, rest, start, rfl, rfl, failed⟩
      · obtain ⟨before, item, after, reached, rfl, others, failed⟩ := ih.mp failed
        exact ⟨head :: before, item, after, reached, rfl, foldlM_cons_eq_ok.mpr ⟨middle, done, others⟩,
          failed⟩
    · rintro ⟨before, item, after, reached, split, others, failed⟩
      cases before with
      | nil =>
        cases split
        cases others
        exact .inl failed
      | cons first before =>
        cases split
        obtain ⟨middle, done, others⟩ := foldlM_cons_eq_ok.mp others
        exact .inr ⟨middle, done, ih.mpr ⟨before, item, after, reached, rfl, others, failed⟩⟩

/-- What every step of a fold keeps, the fold keeps. -/
theorem foldlM_keeps {kept : β → Prop} (done : items.foldlM step start = .ok result)
    (steps : ∀ item ∈ items, ∀ before after, step before item = .ok after → kept before → kept after)
    (holds : kept start) : kept result := by
  induction items generalizing start with
  | nil =>
    cases done
    exact holds
  | cons item rest ih =>
    obtain ⟨middle, first, done⟩ := foldlM_cons_eq_ok.mp done
    exact ih done (fun other later => steps other (List.mem_cons_of_mem _ later))
      (steps item List.mem_cons_self start middle first holds)

/-- What a step establishes for its item, and all steps keep, holds for every item at the end. -/
theorem foldlM_reaches (reached : α → β → Prop) (done : items.foldlM step start = .ok result)
    (establishes : ∀ item ∈ items, ∀ before after, step before item = .ok after → reached item after)
    (keeps : ∀ other ∈ items, ∀ item before after, step before other = .ok after →
      reached item before → reached item after) {item : α} (member : item ∈ items) :
    reached item result := by
  induction items generalizing start with
  | nil => cases member
  | cons head rest ih =>
    obtain ⟨middle, first, others⟩ := foldlM_cons_eq_ok.mp done
    rcases List.mem_cons.mp member with rfl | later
    · exact foldlM_keeps others
        (fun other later => keeps other (List.mem_cons_of_mem _ later) item)
        (establishes item List.mem_cons_self start middle first)
    · exact ih others (fun other later => establishes other (List.mem_cons_of_mem _ later))
        (fun other later => keeps other (List.mem_cons_of_mem _ later)) later

end Fold

/-- Checks one after another fail as the first that fails. -/
theorem forM_eq_error {ε α : Type} {act : α → Except ε Unit} {items : List α} {error : ε} :
    items.forM act = .error error ↔ ∃ before item after, items = before ++ item :: after ∧
      (∀ earlier ∈ before, act earlier = .ok ()) ∧ act item = .error error := by
  have folds (items : List α) : items.forM act = items.foldlM (fun _ => act) () := by
    induction items with
    | nil => rfl
    | cons head rest ih =>
      change (act head >>= fun _ => rest.forM act) = _
      rw [List.foldlM_cons, ih]
  rw [folds, foldlM_eq_error]
  simp only [← folds]
  constructor
  · rintro ⟨before, item, after, ⟨⟩, split, others, failed⟩
    exact ⟨before, item, after, split, forM_eq_ok.mp others, failed⟩
  · rintro ⟨before, item, after, split, others, failed⟩
    exact ⟨before, item, after, (), split, forM_eq_ok.mpr others, failed⟩

end Wiring
