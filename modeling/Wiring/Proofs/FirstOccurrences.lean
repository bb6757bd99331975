import Mathlib.Data.List.Forall2
import Mathlib.Data.List.Induction
import Mathlib.Data.List.Nodup

/-! # First occurrences

What a list holds, each item once and where it occurs first. A map that tells the items of a list
apart keeps first occurrences. Before that, what is known of two lists that are related item by item.
-/

namespace Wiring

variable {α β : Type}

/-- Lists are equal when their images are, if the map tells their items apart. -/
theorem eq_of_map_eq {f : α → β} {items others : List α}
    (apart : ∀ a ∈ items, ∀ b ∈ others, f a = f b → a = b) (same : items.map f = others.map f) :
    items = others := by
  induction items generalizing others with
  | nil => exact (List.map_eq_nil_iff.mp same.symm).symm
  | cons item rest ih =>
    obtain ⟨other, others, rfl, head, tail⟩ := List.map_eq_cons_iff.mp same.symm
    have first : item = other := apart item List.mem_cons_self other List.mem_cons_self head.symm
    rw [first, ih (fun a memberA b memberB =>
      apart a (List.mem_cons_of_mem _ memberA) b (List.mem_cons_of_mem _ memberB)) tail.symm]

/-- Lists that are related item by item have a partner for every item. -/
theorem exists_of_forall₂ {of : α → β → Prop} {items : List α} {parts : List β} {item : α}
    (related : List.Forall₂ of items parts) (member : item ∈ items) : ∃ part ∈ parts, of item part := by
  induction related with
  | nil => cases member
  | cons first _ ih =>
    rcases List.mem_cons.mp member with rfl | later
    · exact ⟨_, List.mem_cons_self, first⟩
    · obtain ⟨part, listed, of⟩ := ih later
      exact ⟨part, List.mem_cons_of_mem _ listed, of⟩

/-- Lists that are related item by item have the partner at the same position. -/
theorem exists_getElem?_of_forall₂ {of : α → β → Prop} {items : List α} {parts : List β} {item : α}
    {position : Nat} (related : List.Forall₂ of items parts) (found : items[position]? = some item) :
    ∃ part, parts[position]? = some part ∧ of item part := by
  induction related generalizing position with
  | nil => cases found
  | cons first _ ih =>
    cases position with
    | zero =>
      cases found
      exact ⟨_, rfl, first⟩
    | succ position => exact ih found

/-- Lists that are related item by item through a third are related by what follows for three items. -/
theorem forall₂_trans {γ : Type} {of : α → β → Prop} {into : β → γ → Prop} {through : α → γ → Prop}
    {items : List α} {parts : List β} {others : List γ} (related : List.Forall₂ of items parts)
    (further : List.Forall₂ into parts others)
    (step : ∀ item part other, of item part → into part other → through item other) :
    List.Forall₂ through items others := by
  induction related generalizing others with
  | nil =>
    cases further
    exact .nil
  | cons first _ ih =>
    obtain ⟨other, rest, second, later, rfl⟩ := List.forall₂_cons_left_iff.mp further
    exact .cons (step _ _ _ first second) (ih later)

variable [BEq α] [LawfulBEq α] [BEq β] [LawfulBEq β]

/-- An item that comes last is kept if it has not occurred before. -/
theorem eraseDups_concat (items : List α) (item : α) :
    (items ++ [item]).eraseDups =
      items.eraseDups ++ (if items.contains item then [] else [item]) := by
  have alone : [item].eraseDups = [item] := by simp [List.eraseDups_cons]
  rw [List.eraseDups_append, List.cons_removeAll]
  cases items.contains item <;> simp [alone]

/-- Nothing occurs twice among first occurrences. -/
theorem nodup_eraseDups (items : List α) : items.eraseDups.Nodup := by
  induction items using List.reverseRecOn with
  | nil => exact List.nodup_nil
  | append_singleton items item ih =>
    rw [eraseDups_concat]
    split
    next => rwa [List.append_nil]
    next new =>
      rw [List.contains_iff_mem, ← List.mem_eraseDups] at new
      exact ih.append (List.nodup_singleton item) (List.disjoint_singleton.mpr new)

/-- Items that are told apart by what they are mapped to occur first where their images do. -/
theorem eraseDups_map {f : α → β} {items : List α}
    (apart : ∀ a ∈ items, ∀ b ∈ items, f a = f b → a = b) :
    (items.map f).eraseDups = items.eraseDups.map f := by
  induction items using List.reverseRecOn with
  | nil => rfl
  | append_singleton items item ih =>
    obtain ⟨before, last⟩ := List.forall_mem_append.mp apart
    have known : (items.map f).contains (f item) = items.contains item := by
      rw [Bool.eq_iff_iff, List.contains_iff_mem, List.contains_iff_mem, List.mem_map]
      constructor
      · rintro ⟨old, member, same⟩
        exact before old member item (List.mem_append_right _ List.mem_cons_self) same ▸ member
      · exact fun member => ⟨item, member, rfl⟩
    rw [List.map_append, List.map_cons, List.map_nil, eraseDups_concat, eraseDups_concat, known,
      List.map_append, ih fun a memberA b memberB => before a memberA b (List.mem_append_left _ memberB)]
    cases items.contains item <;> rfl

end Wiring
