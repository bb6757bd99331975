import Wiring.Proofs.Compilation.Matching

/-! # What an interface passes on

The parameters of an interface method are matched with those of a constructor or a method, key by key:
the first one of a key with the first one of this key, the second one with the second. What happens to
a parameter is told by its key and by how often the key comes before, on either side.

An interface fits if each of its parameters is taken. A target parameter that takes none is read from
the scope.

Main statement: `Session.curryAll_iff_occurrences`.
-/

namespace Wiring

section Occurrences

/-! ## Occurrences of a key -/

/-- There is a key equal to this one at the position, behind `n` others. -/
structure Key.Occurs (key : Key) (keys : List Key) (n position : Nat) : Prop where
  here : ∃ found, keys[position]? = some found ∧ found.sameAs key = true
  before : key.occurrences (keys.take position) = n

/-- The target parameter takes the interface parameter: the one is the occurrence of a key among the
wanted keys that the other is among the offered ones. -/
def Key.Takes (offered wanted : List Key) (target interface : Nat) : Prop :=
  ∃ (key : Key) (n : Nat), key.Occurs wanted n target ∧ key.Occurs offered n interface

variable {keys offered wanted : List Key} {key other found : Key} {n i position : Nat}

theorem Key.Occurs.congr (same : key.sameAs other = true) (occurs : key.Occurs keys n position) :
    other.Occurs keys n position where
  here := by
    obtain ⟨found, there, alike⟩ := occurs.here
    exact ⟨found, there, Key.sameAs_congr same found ▸ alike⟩
  before := by rw [← Key.occurrences_congr same, occurs.before]

theorem Key.occurs_self (here : keys[position]? = some key) :
    key.Occurs keys (key.occurrences (keys.take position)) position where
  here := ⟨key, here, Key.sameAs_iff.mpr rfl⟩
  before := rfl

/-- A key occurs as whatever key it is equal to. -/
theorem Key.Occurs.of_found (occurs : other.Occurs keys n position)
    (here : keys[position]? = some key) :
    other.sameAs key = true ∧ n = key.occurrences (keys.take position) := by
  obtain ⟨found, there, same⟩ := occurs.here
  obtain rfl : found = key := Option.some.inj (there.symm.trans here)
  have same : other.sameAs found = true := Key.sameAs_iff.mpr (Key.sameAs_iff.mp same).symm
  exact ⟨same, (occurs.congr same).before.symm⟩

/-- The offers of a key are its occurrences in their order. -/
theorem alike_getElem?_iff :
    (Offers.alike offered.zipIdx key)[n]? = some (found, position) ↔
      offered[position]? = some found ∧ key.Occurs offered n position := by
  refine (filter_zipIdx_getElem? (fun found : Key => found.sameAs key) 0 n position).trans ⟨?_, ?_⟩
  · rintro ⟨i, rfl, here, same, before⟩
    rw [Nat.zero_add]
    exact ⟨here, ⟨found, here, same⟩, before⟩
  · rintro ⟨here, ⟨other, there, same⟩, before⟩
    obtain rfl : other = found := Option.some.inj (there.symm.trans here)
    exact ⟨position, (Nat.zero_add _).symm, here, same, before⟩

theorem length_alike (keys : List Key) (key : Key) :
    (Offers.alike keys.zipIdx key).length = key.occurrences keys := by
  rw [Offers.alike, ← List.countP_eq_length_filter, Key.occurrences]
  conv_rhs => rw [← List.zipIdx_map_fst 0 keys, List.countP_map]
  rfl

/-- A key that comes `m` times has the occurrences below `m`. -/
theorem Key.exists_occurs_iff : (∃ position, key.Occurs keys n position) ↔ n < key.occurrences keys := by
  rw [← length_alike keys key]
  constructor
  · rintro ⟨position, occurs⟩
    obtain ⟨found, here, _⟩ := occurs.here
    exact (List.getElem?_eq_some_iff.mp (alike_getElem?_iff.mpr ⟨here, occurs⟩)).1
  · intro below
    exact ⟨_, (alike_getElem?_iff.mp (List.getElem?_eq_getElem below)).2⟩

/-- Which interface parameter a target parameter takes is up to its own key. -/
theorem Key.takes_iff_of_target (here : wanted[i]? = some key) :
    Key.Takes offered wanted i position ↔
      key.Occurs offered (key.occurrences (wanted.take i)) position := by
  constructor
  · rintro ⟨other, n, occurs, offers⟩
    obtain ⟨same, rfl⟩ := occurs.of_found here
    exact offers.congr same
  · exact fun offers => ⟨key, _, Key.occurs_self here, offers⟩

/-- Of equal offers, each is taken by the occurrence of its number. -/
theorem Key.takes_iff_of_interface (here : offered[position]? = some key) :
    Key.Takes offered wanted i position ↔
      key.Occurs wanted (key.occurrences (offered.take position)) i := by
  constructor
  · rintro ⟨other, n, occurs, offers⟩
    obtain ⟨same, rfl⟩ := offers.of_found here
    exact occurs.congr same
  · exact fun occurs => ⟨key, _, occurs, Key.occurs_self here⟩

end Occurrences

section Sources

/-! ## Sources by occurrences -/

variable {offered wanted : List Key} {key : Key} {i position : Nat}

/-- A target parameter gets the interface parameter that it takes. -/
theorem curry_of_takes (takes : Key.Takes offered wanted i position) :
    (curry offered.zipIdx wanted).1[i]? = some (.caller position) := by
  obtain ⟨other, n, wants, offers⟩ := takes
  obtain ⟨key, here, _⟩ := wants.here
  obtain ⟨same, rfl⟩ := wants.of_found here
  obtain ⟨found, there, _⟩ := offers.here
  rw [curry_getElem? here, Offers.answer, alike_getElem?_iff.mpr ⟨there, offers.congr same⟩]

/-- A target parameter that takes none is read from the scope. -/
theorem curry_of_not_takes (here : wanted[i]? = some key)
    (none : ∀ position, ¬ Key.Takes offered wanted i position) :
    (curry offered.zipIdx wanted).1[i]? = some (.scope key) := by
  rw [curry_getElem? here, Offers.answer]
  cases listed : (Offers.alike offered.zipIdx key)[key.occurrences (wanted.take i)]? with
  | none => rfl
  | some offer =>
    exact (none offer.2 ((Key.takes_iff_of_target here).mpr (alike_getElem?_iff.mp listed).2)).elim

/-- An interface parameter is left exactly if it is not taken. -/
theorem mem_left_iff (here : offered[position]? = some key) :
    (key, position) ∈ (curry offered.zipIdx wanted).2 ↔
      ∀ i, ¬ Key.Takes offered wanted i position := by
  have own := Key.occurs_self here
  have self : key.sameAs key = true := Key.sameAs_iff.mpr rfl
  -- Left are the occurrences behind as many as are wanted.
  have left_iff : (key, position) ∈ (curry offered.zipIdx wanted).2 ↔
      key.occurrences wanted ≤ key.occurrences (offered.take position) := by
    have alike_iff : (key, position) ∈ (curry offered.zipIdx wanted).2 ↔
        (key, position) ∈ (curry offered.zipIdx wanted).2.alike key := by
      simp [Offers.alike, self]
    rw [alike_iff, alike_left, List.mem_iff_getElem?]
    constructor
    · rintro ⟨n, listed⟩
      rw [List.getElem?_drop] at listed
      have before := (alike_getElem?_iff.mp listed).2.before
      omega
    · intro enough
      refine ⟨key.occurrences (offered.take position) - key.occurrences wanted, ?_⟩
      rw [List.getElem?_drop, Nat.add_sub_of_le enough]
      exact alike_getElem?_iff.mpr ⟨here, own⟩
  rw [left_iff, ← Nat.not_lt, ← Key.exists_occurs_iff, not_exists]
  exact forall_congr' fun i => not_congr (Key.takes_iff_of_interface here).symm

/-- The first offer that is left is the first interface parameter that is not taken. -/
theorem first_left {rest : Offers} (left : (curry offered.zipIdx wanted).2 = (key, position) :: rest) :
    offered[position]? = some key ∧ (∀ i, ¬ Key.Takes offered wanted i position) ∧
      ∀ earlier < position, ∃ i, Key.Takes offered wanted i earlier := by
  have listed : (key, position) ∈ (curry offered.zipIdx wanted).2 := left ▸ List.mem_cons_self
  have sublist := left_sublist offered.zipIdx wanted
  have here : offered[position]? = some key := List.mem_zipIdx_iff_getElem?.mp (sublist.subset listed)
  refine ⟨here, (mem_left_iff here).mp listed, fun earlier below => ?_⟩
  by_contra none
  have bound : position < offered.length := (List.getElem?_eq_some_iff.mp here).1
  have there : offered[earlier]? = some offered[earlier] := List.getElem?_eq_getElem (by omega)
  have member := (mem_left_iff there).mpr (not_exists.mp none)
  have ordered : ((curry offered.zipIdx wanted).2.map (·.2)).Pairwise (· < ·) := by
    refine List.Pairwise.sublist (sublist.map _) ?_
    rw [List.zipIdx_map_snd]
    exact List.pairwise_lt_range'
  rw [left] at member ordered
  rcases List.mem_cons.mp member with same | later
  · have : earlier = position := congrArg Prod.snd same
    omega
  · have : position < earlier := List.rel_of_pairwise_cons ordered (List.mem_map_of_mem later)
    omega

end Sources

namespace Session

variable {session next : Session} {interface : TypeExpr} {method : Method}
  {params : List QualifiedType} {target : String} {offered wanted : List Key}

/-- The arguments of a target for the keys of an interface and of its parameters, and the session that
needs those that are read from the scope. -/
structure Curries (session : Session) (target : String) (offered wanted : List Key)
    (arguments : List Argument) (next : Session) : Prop where
  length : arguments.length = wanted.length
  /-- Each interface parameter is passed on once. -/
  indices : (arguments.filterMap Argument.index?).Perm ((List.range offered.length).map UInt64.ofNat)
  passed : ∀ i position, Key.Takes offered wanted i position →
    arguments[i]? = some (.curried (.ofNat position))
  read : ∀ i key, wanted[i]? = some key → (∀ position, ¬ Key.Takes offered wanted i position) →
    arguments[i]? = some key.argument ∧ key.base.descriptor ∈ next.needed
  registered : next = session.registerAll target
    (((wanted.zip arguments).filter (·.2.index?.isNone)).map (·.1))

private theorem curries_of_left (none : (curry offered.zipIdx wanted).2 = []) :
    session.Curries target offered wanted ((curry offered.zipIdx wanted).1.map Source.argument)
      (session.registerAll target ((curry offered.zipIdx wanted).1.filterMap Source.key?)) where
  length := by rw [List.length_map, length_curry]
  indices := by
    have positions := positions_perm offered.zipIdx wanted
    rw [none, List.map_nil, List.append_nil, List.zipIdx_map_snd, ← List.range_eq_range'] at positions
    rw [filterMap_index?]
    exact positions.map _
  passed i position takes := by
    rw [List.getElem?_map, curry_of_takes takes]
    rfl
  read i key here none := by
    have read := curry_of_not_takes here none
    refine ⟨by rw [List.getElem?_map, read]; rfl, ?_⟩
    obtain ⟨noted, queued, asking, same⟩ := registerAll_eq session target
      ((curry offered.zipIdx wanted).1.filterMap Source.key?)
    rw [same, needed_append]
    exact asking.covers key (List.mem_filterMap.mpr ⟨_, List.mem_of_getElem? read, rfl⟩)
  registered := by rw [← keys_curry]

/-- An interface fits exactly if it has each key at most as often as the target. Then each target
parameter takes the occurrence of its key that it is itself, where the interface has as many, and the
others are read from the scope. If an interface does not fit, the first of its parameters that is not
taken is reported. -/
theorem curryAll_iff_occurrences (offers : Key.ofParameters method.params = .ok offered)
    (wants : Key.ofParameters params = .ok wanted) :
    ((∃ result, session.curryAll interface method params target = .ok result) ↔
      ∀ key : Key, key.occurrences offered ≤ key.occurrences wanted) ∧
    (∀ arguments next, session.curryAll interface method params target = .ok (arguments, next) →
      session.Curries target offered wanted arguments next) ∧
    ∀ error, session.curryAll interface method params target = .error error →
      ∃ position key, offered[position]? = some key ∧
        (∀ i, ¬ Key.Takes offered wanted i position) ∧
        (∀ earlier < position, ∃ i, Key.Takes offered wanted i earlier) ∧
        error = .unmatchedParameter interface.simpleName method.name key.descriptor target := by
  have fits_iff := left_eq_nil_iff offered.zipIdx wanted
  simp only [length_alike] at fits_iff
  rw [← fits_iff]
  cases left : (curry offered.zipIdx wanted).2 with
  | nil =>
    have done : session.curryAll interface method params target =
        .ok ((curry offered.zipIdx wanted).1.map Source.argument,
          session.registerAll target ((curry offered.zipIdx wanted).1.filterMap Source.key?)) := by
      simp [curryAll, offers, wants, left, bind, Except.bind, pure, Except.pure]
    rw [done]
    refine ⟨by simp, ?_, by simp⟩
    rintro _ _ ⟨⟩
    exact curries_of_left left
  | cons offer rest =>
    obtain ⟨key, position⟩ := offer
    have refused : session.curryAll interface method params target =
        .error (.unmatchedParameter interface.simpleName method.name key.descriptor target) := by
      simp [curryAll, offers, wants, left, bind, Except.bind, throw, throwThe, MonadExceptOf.throw]
    rw [refused]
    refine ⟨by simp, by simp, ?_⟩
    rintro _ ⟨⟩
    obtain ⟨here, free, earlier⟩ := first_left left
    exact ⟨position, key, here, free, earlier, rfl⟩

/-- A bench is built from two panels and a screw. -/
def bench : Method where
  name := "build"
  params := [.plain (.named "Panel"), .plain (.named "Screw"), .plain (.named "Panel")]

/-- A table wants a hinge as well, and a handle to one more panel. -/
def tableParts : List QualifiedType :=
  [.plain (.named "Panel"), .plain (.named "Hinge"), .plain (.lazy (.named "Panel")),
    .plain (.named "Panel"), .plain (.named "Screw")]

theorem curryAll_bench : ∃ offered wanted next,
    Key.ofParameters bench.params = .ok offered ∧ Key.ofParameters tableParts = .ok wanted ∧
    curryAll {} (.named "Bench") bench tableParts "Table" =
      .ok ([.curried 0, .slot "hinge", .lazy "panel", .curried 2, .curried 1], next) ∧
    next.required.map (fun entry => (entry.1.descriptor, entry.2)) =
      [("Hinge", "Table"), ("Panel", "Table")] ∧
    (∀ key : Key, key.occurrences offered ≤ key.occurrences wanted) ∧
    Curries {} "Table" offered wanted
      [.curried 0, .slot "hinge", .lazy "panel", .curried 2, .curried 1] next := by
  obtain ⟨offered, offers⟩ : ∃ offered, Key.ofParameters bench.params = .ok offered := ⟨_, rfl⟩
  obtain ⟨wanted, wants⟩ : ∃ wanted, Key.ofParameters tableParts = .ok wanted := ⟨_, rfl⟩
  obtain ⟨next, done, required⟩ : ∃ next, curryAll {} (.named "Bench") bench tableParts "Table" =
      .ok ([.curried 0, .slot "hinge", .lazy "panel", .curried 2, .curried 1], next) ∧
      next.required.map (fun entry => (entry.1.descriptor, entry.2)) =
        [("Hinge", "Table"), ("Panel", "Table")] := ⟨_, rfl, by decide⟩
  exact ⟨offered, wanted, next, offers, wants, done, required,
    (curryAll_iff_occurrences offers wants).1.mp ⟨_, done⟩,
    (curryAll_iff_occurrences offers wants).2.1 _ _ done⟩

/-- A single panel is not enough for a bench: the second panel that is offered is left. -/
example : curryAll {} (.named "Bench") bench [.plain (.named "Screw"), .plain (.named "Panel")] "Shelf" =
    .error (.unmatchedParameter "Bench" "build" "Panel" "Shelf") := rfl

end Session

end Wiring
