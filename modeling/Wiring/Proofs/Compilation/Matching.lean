import Mathlib.Data.List.Perm.Basic
import Wiring.Proofs.Compilation.Growth

/-! # Matching of parameters

Each target parameter takes the first offer with its key that is left. So offers of one key are taken
in their order, and what becomes of them depends on the targets with this key alone: a matching is
understood by looking at the offers of one key at a time.
-/

namespace Wiring

namespace Key

variable {key other : Key}

/-- Keys are the same if their descriptors are. -/
theorem sameAs_iff : key.sameAs other = true ↔ key.descriptor = other.descriptor :=
  decide_eq_true_iff

/-- Equal keys are equal to the same keys. -/
theorem sameAs_congr (same : key.sameAs other = true) (third : Key) :
    third.sameAs key = third.sameAs other := by
  rw [sameAs, sameAs, sameAs_iff.mp same]

/-- How many of the keys are equal to this one. -/
def occurrences (key : Key) (keys : List Key) : Nat := keys.countP (·.sameAs key)

/-- The same key occurs as often in a list. -/
theorem occurrences_congr (same : key.sameAs other = true) (keys : List Key) :
    key.occurrences keys = other.occurrences keys :=
  congrArg (keys.countP ·) (funext (sameAs_congr same))

theorem occurrences_cons (key head : Key) (rest : List Key) :
    key.occurrences (head :: rest) = key.occurrences [head] + key.occurrences rest := by
  rw [occurrences, occurrences, occurrences, ← List.countP_append, List.singleton_append]

end Key

/-- The interface parameter that an argument passes on. -/
def Argument.index? : Argument → Option UInt64
  | curried index => some index
  | _ => none

namespace Source

def position? : Source → Option Nat
  | caller position => some position
  | scope _ => none

/-- An argument is curried if its source is a position of the caller. -/
theorem index?_argument (source : Source) :
    source.argument.index? = source.position?.map UInt64.ofNat := by
  cases source with
  | caller position => rfl
  | scope key =>
    rw [argument, Key.argument]
    split <;> rfl

end Source

namespace Offers

variable {offers others : Offers} {key wanted : Key} {position : Nat}

/-- The offers of one key. -/
def alike (offers : Offers) (key : Key) : Offers := offers.filter (·.1.sameAs key)

theorem alike_append (before after : Offers) (key : Key) :
    alike (before ++ after) key = alike before key ++ alike after key :=
  List.filter_append ..

theorem alike_cons_of_pos {found : Key} {rest : Offers} (same : found.sameAs key = true) :
    alike ((found, position) :: rest) key = (found, position) :: rest.alike key :=
  List.filter_cons_of_pos same

theorem alike_cons_of_neg {found : Key} {rest : Offers} (unlike : ¬ found.sameAs key = true) :
    alike ((found, position) :: rest) key = rest.alike key :=
  List.filter_cons_of_neg unlike

private theorem alike_congr (same : key.sameAs wanted = true) (offers : Offers) :
    offers.alike key = offers.alike wanted :=
  List.filter_congr fun offer _ => Key.sameAs_congr same offer.1

/-- What the parameter of the key behind `n` others of the key gets. -/
def answer (offers : Offers) (key : Key) (n : Nat) : Source :=
  match (offers.alike key)[n]? with
  | some (_, position) => .caller position
  | none => .scope key

/-- The offers that are left when one of the key has been taken, where there is one. -/
def without (offers : Offers) (wanted : Key) : Offers :=
  match offers.take? wanted with
  | some (_, others) => others
  | none => offers

section Taking

/-! ## Taking one offer -/

theorem take?_eq_none (none : offers.take? wanted = none) : offers.alike wanted = [] := by
  induction offers with
  | nil => rfl
  | cons offer rest ih =>
    obtain ⟨key, position⟩ := offer
    rw [take?] at none
    split at none
    · cases none
    next unlike => rw [alike_cons_of_neg unlike, ih (Option.map_eq_none_iff.mp none)]

/-- The offer that is taken is the first one of the key. -/
theorem take?_split (taken : offers.take? wanted = some (position, others)) :
    ∃ key before after, offers = before ++ (key, position) :: after ∧ others = before ++ after ∧
      key.sameAs wanted = true ∧ alike before wanted = [] := by
  induction offers generalizing others with
  | nil => cases taken
  | cons offer rest ih =>
    obtain ⟨key, here⟩ := offer
    rw [take?] at taken
    split at taken
    next same =>
      cases taken
      exact ⟨key, [], _, rfl, rfl, same, rfl⟩
    next unlike =>
      obtain ⟨⟨found, left⟩, later, rearranged⟩ := Option.map_eq_some_iff.mp taken
      cases rearranged
      obtain ⟨found, before, after, rfl, rfl, same, none⟩ := ih later
      refine ⟨found, (key, here) :: before, after, rfl, rfl, same, ?_⟩
      rw [alike_cons_of_neg unlike, none]

private theorem without_sublist (offers : Offers) (wanted : Key) :
    (offers.without wanted).Sublist offers := by
  unfold without
  split
  next taken =>
    obtain ⟨key, before, after, rfl, rfl, _, _⟩ := take?_split taken
    exact List.Sublist.append_left (List.sublist_cons_self _ _) before
  next => exact .refl _

/-- Taking an offer leaves the later ones of its key and all of the other keys. -/
theorem alike_without (offers : Offers) (wanted key : Key) :
    (offers.without wanted).alike key = (offers.alike key).drop (key.occurrences [wanted]) := by
  have count : key.occurrences [wanted] = if wanted.sameAs key then 1 else 0 := by
    simp [Key.occurrences, List.countP_singleton]
  rw [count]
  unfold without
  split
  next taken =>
    obtain ⟨found, before, after, rfl, rfl, same, none⟩ := take?_split taken
    split
    next wants =>
      rw [← alike_congr wants, ← alike_congr wants, alike_append, alike_append, none,
        alike_cons_of_pos same]
      rfl
    next other =>
      have unlike : ¬ found.sameAs key = true := by
        rw [Key.sameAs_iff] at same other ⊢
        rwa [same]
      rw [alike_append, alike_append, alike_cons_of_neg unlike, List.drop_zero]
  next none =>
    split
    next wants => rw [← alike_congr wants, take?_eq_none none, List.drop_nil]
    next => rfl

end Taking

end Offers

section Currying

/-! ## Taking one offer after the other -/

variable {offers : Offers} {wanted : List Key} {key : Key}

theorem curry_cons (offers : Offers) (key : Key) (rest : List Key) :
    curry offers (key :: rest) =
      (offers.answer key 0 :: (curry (offers.without key) rest).1, (curry (offers.without key) rest).2) := by
  rw [curry, Offers.answer, Offers.without]
  cases taken : offers.take? key with
  | some result =>
    obtain ⟨position, others⟩ := result
    obtain ⟨found, before, after, rfl, rfl, same, none⟩ := Offers.take?_split taken
    rw [Offers.alike_append, none, Offers.alike_cons_of_pos same]
    rfl
  | none =>
    rw [Offers.take?_eq_none taken]
    rfl

private theorem answer_without (offers : Offers) (taken key : Key) (n : Nat) :
    (offers.without taken).answer key n = offers.answer key (key.occurrences [taken] + n) := by
  rw [Offers.answer, Offers.answer, Offers.alike_without, List.getElem?_drop]

/-- Each target parameter gets the offer of its key that its predecessors of this key leave. -/
theorem curry_getElem? {i : Nat} (here : wanted[i]? = some key) :
    (curry offers wanted).1[i]? = some (offers.answer key (key.occurrences (wanted.take i))) := by
  induction wanted generalizing offers i with
  | nil => cases here
  | cons head rest ih =>
    rw [curry_cons]
    cases i with
    | zero =>
      cases here
      rfl
    | succ i =>
      rw [List.getElem?_cons_succ, ih here, answer_without, List.take_succ_cons, ← Key.occurrences_cons]

/-- Currying yields an argument for each key that is wanted. -/
theorem length_curry (offers : Offers) (wanted : List Key) :
    (curry offers wanted).1.length = wanted.length := (forall₂_curry offers wanted).length_eq.symm

/-- Of each key the offers behind those that were taken are left. -/
theorem alike_left (offers : Offers) (wanted : List Key) (key : Key) :
    (curry offers wanted).2.alike key = (offers.alike key).drop (key.occurrences wanted) := by
  induction wanted generalizing offers with
  | nil => rfl
  | cons head rest ih =>
    rw [curry_cons, ih, Offers.alike_without, List.drop_drop, ← Key.occurrences_cons]

/-- What is left over was offered, in this order. -/
theorem left_sublist (offers : Offers) (wanted : List Key) : (curry offers wanted).2.Sublist offers := by
  induction wanted generalizing offers with
  | nil => exact .refl _
  | cons head rest ih =>
    rw [curry_cons]
    exact (ih _).trans (Offers.without_sublist offers head)

/-- Each offer is passed on once or left. -/
theorem positions_perm (offers : Offers) (wanted : List Key) :
    ((curry offers wanted).1.filterMap Source.position? ++ (curry offers wanted).2.map (·.2)).Perm
      (offers.map (·.2)) := by
  induction wanted generalizing offers with
  | nil => exact .refl _
  | cons head rest ih =>
    rw [curry]
    split
    next position others taken =>
      obtain ⟨found, before, after, rfl, rfl, _, _⟩ := Offers.take?_split taken
      rw [List.map_append, List.map_cons]
      refine List.Perm.trans ?_ List.perm_middle.symm
      rw [← List.map_append]
      exact (ih (before ++ after)).cons position
    next => exact ih offers

/-- The keys that are read from the scope belong to the parameters that pass nothing on. -/
theorem keys_curry (offers : Offers) (wanted : List Key) :
    (curry offers wanted).1.filterMap Source.key? =
      ((wanted.zip ((curry offers wanted).1.map Source.argument)).filter
        (·.2.index?.isNone)).map (·.1) := by
  have origins := forall₂_curry offers wanted
  generalize (curry offers wanted).1 = sources at origins
  induction origins with
  | nil => rfl
  | @cons key source wanted sources origin _ ih =>
    rw [List.map_cons, List.zip_cons_cons]
    have index := Source.index?_argument source
    rcases origin with rfl | ⟨offer, _, _, rfl⟩
    · rw [List.filter_cons_of_pos (by rw [index]; rfl), List.map_cons, ← ih]
      rfl
    · rw [List.filter_cons_of_neg (by rw [index]; exact Bool.false_ne_true), ← ih]
      rfl

theorem filterMap_index? (sources : List Source) :
    (sources.map Source.argument).filterMap Argument.index? =
      (sources.filterMap Source.position?).map UInt64.ofNat := by
  rw [List.filterMap_map, List.map_filterMap]
  exact congrArg (sources.filterMap ·) (funext Source.index?_argument)

/-- No offer is left exactly if of every key at least as many are wanted as are offered. -/
theorem left_eq_nil_iff (offers : Offers) (wanted : List Key) :
    (curry offers wanted).2 = [] ↔
      ∀ key, (offers.alike key).length ≤ key.occurrences wanted := by
  constructor
  · intro none key
    have behind := alike_left offers wanted key
    rw [none] at behind
    exact List.drop_eq_nil_iff.mp behind.symm
  · intro enough
    rw [List.eq_nil_iff_forall_not_mem]
    intro offer member
    have same : offer.1.sameAs offer.1 = true := Key.sameAs_iff.mpr rfl
    have listed : offer ∈ (curry offers wanted).2.alike offer.1 := List.mem_filter.mpr ⟨member, same⟩
    rw [alike_left, List.drop_eq_nil_iff.mpr (enough offer.1)] at listed
    cases listed

end Currying

section Positions

/-! ## Offers with their positions -/

variable {α : Type} {l : List α} {a : α}

/-- The selected elements with their positions: each one stands behind as many as are selected before. -/
theorem filter_zipIdx_getElem? (chosen : α → Bool) (start n position : Nat) :
    ((l.zipIdx start).filter (fun entry => chosen entry.1))[n]? = some (a, position) ↔
      ∃ i, position = start + i ∧ l[i]? = some a ∧ chosen a = true ∧ (l.take i).countP chosen = n := by
  induction l generalizing start n with
  | nil => simp
  | cons head rest ih =>
    rw [List.zipIdx_cons]
    constructor
    · intro found
      cases selected : chosen head with
      | false =>
        rw [List.filter_cons_of_neg (by simp [selected]), ih] at found
        obtain ⟨i, rfl, here, holds, count⟩ := found
        exact ⟨i + 1, by omega, here, holds, by simpa [selected] using count⟩
      | true =>
        rw [List.filter_cons_of_pos (by simp [selected])] at found
        cases n with
        | zero =>
          cases found
          exact ⟨0, rfl, rfl, selected, rfl⟩
        | succ n =>
          rw [List.getElem?_cons_succ, ih] at found
          obtain ⟨i, rfl, here, holds, count⟩ := found
          exact ⟨i + 1, by omega, here, holds, by simpa [selected] using count⟩
    · rintro ⟨i, rfl, here, holds, count⟩
      cases i with
      | zero =>
        cases here
        cases count
        rw [List.filter_cons_of_pos (by simp [holds])]
        rfl
      | succ i =>
        have later (m : Nat) (counted : (rest.take i).countP chosen = m) :=
          (ih (start + 1) m).mpr ⟨i, by omega, here, holds, counted⟩
        rw [List.take_succ_cons, List.countP_cons] at count
        cases selected : chosen head with
        | false =>
          rw [List.filter_cons_of_neg (by simp [selected])]
          exact later n (by simpa [selected] using count)
        | true =>
          rw [List.filter_cons_of_pos (by simp [selected])]
          obtain rfl : n = (rest.take i).countP chosen + 1 := by simpa [selected] using count.symm
          exact later _ rfl

end Positions

end Wiring
