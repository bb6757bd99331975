import Wiring.Proofs.Compilation.Growth

/-! # Suggested names

The score of a candidate depends on the candidate and on the requested name alone, and no two
candidates of different names have the same place in the order of scores and names. So the candidates
have one order, however they were listed, and the suggestions are its beginning.

Main statement: `Suggestion.similar_reproducible`.
-/

namespace Wiring.Suggestion

section Order

/-! ## The order of scored candidates -/

variable {a b c : Scored}

namespace Scored

/-- A candidate precedes another one by its score, and by its name among equal scores. -/
theorem precedes_iff :
    a.precedes b = true ↔ b.score < a.score ∨ a.score = b.score ∧ a.name ≤ b.name := by
  simp [precedes]

private theorem precedes_trans (a b c : Scored) (ab : a.precedes b = true) (bc : b.precedes c = true) :
    a.precedes c = true := by
  rw [precedes_iff] at ab bc ⊢
  rcases ab with higher | ⟨same, before⟩
  · exact .inl (by omega)
  · rcases bc with higher | ⟨same', before'⟩
    · exact .inl (by omega)
    · exact .inr ⟨same.trans same', String.le_trans before before'⟩

private theorem precedes_total (a b : Scored) : (a.precedes b || b.precedes a) = true := by
  rw [Bool.or_eq_true, precedes_iff, precedes_iff]
  rcases Nat.lt_trichotomy b.score a.score with higher | same | higher
  · exact .inl (.inl higher)
  · exact (String.le_total a.name b.name).imp (fun before => .inr ⟨same.symm, before⟩)
      fun behind => .inr ⟨same, behind⟩
  · exact .inr (.inl higher)

/-- Of two candidates that precede each other there is one only. -/
theorem precedes_antisymm (ab : a.precedes b = true) (ba : b.precedes a = true) : a = b := by
  rw [precedes_iff] at ab ba
  obtain ⟨name, score⟩ := a
  obtain ⟨name', score'⟩ := b
  obtain ⟨rfl, before⟩ : score = score' ∧ name ≤ name' := by
    rcases ab with higher | found
    · simp only at higher ba
      omega
    · exact found
  obtain rfl : name = name' := String.le_antisymm before (by simpa using ba)
  rfl

end Scored

end Order

section Ranking

/-! ## The candidates in order -/

variable {requested name : String} {available other : List String}

/-- The candidate is another name, and it scores. -/
def Eligible (requested name : String) : Prop :=
  name ≠ requested ∧ (score? (Text.lowercase requested) (Text.lowercase name)).isSome = true

instance : Decidable (Eligible requested name) := inferInstanceAs (Decidable (_ ∧ _))

/-- Candidates are the available names that have a score, the requested one excepted. -/
theorem mem_scored {entry : Scored} :
    entry ∈ scored requested available ↔ (entry.name ∈ available ∧ entry.name ≠ requested) ∧
      score? (Text.lowercase requested) (Text.lowercase entry.name) = some entry.score := by
  simp only [scored, List.mem_filterMap, List.mem_filter, decide_eq_true_eq, Option.map_eq_some_iff]
  constructor
  · rintro ⟨name, listed, score, found, rfl⟩
    exact ⟨listed, found⟩
  · rintro ⟨listed, found⟩
    exact ⟨entry.name, listed, entry.score, found, rfl⟩

/-- Scoring keeps the candidates that fit, in the order in which they are listed. -/
theorem map_name_scored :
    (scored requested available).map (·.name) = available.filter (Eligible requested ·) := by
  unfold scored
  induction available with
  | nil => rfl
  | cons name rest ih =>
    by_cases same : name = requested
    · simpa [Eligible, same] using ih
    · cases found : score? (Text.lowercase requested) (Text.lowercase name) <;>
        simpa [Eligible, same, found] using ih

private theorem scored_perm (perm : available.Perm other) :
    (scored requested available).Perm (scored requested other) :=
  (perm.filter _).filterMap _

def ranked (requested : String) (available : List String) : List Scored :=
  (scored requested available).mergeSort Scored.precedes

theorem ranked_perm : (ranked requested available).Perm (scored requested available) :=
  List.mergeSort_perm _ _

theorem ranked_pairwise :
    (ranked requested available).Pairwise fun first second => first.precedes second = true :=
  List.pairwise_mergeSort Scored.precedes_trans Scored.precedes_total _

/-- The candidates have no other order of this kind. -/
theorem ranked_eq_of_pairwise {entries : List Scored} (perm : entries.Perm (scored requested available))
    (ordered : entries.Pairwise fun first second => first.precedes second = true) :
    ranked requested available = entries :=
  List.Perm.eq_of_pairwise (fun _ _ _ _ => Scored.precedes_antisymm) ranked_pairwise ordered
    (ranked_perm.trans perm.symm)

private theorem ranked_eq_of_perm (perm : available.Perm other) :
    ranked requested available = ranked requested other :=
  ranked_eq_of_pairwise (ranked_perm.trans (scored_perm perm).symm) ranked_pairwise

/-- The suggestions are the names at the beginning of the order. -/
theorem similar_eq (limit : Nat) :
    similar requested available limit = ((ranked requested available).map (·.name)).take limit := by
  rw [similar, ranked, List.map_take]

theorem map_name_ranked_perm :
    ((ranked requested available).map (·.name)).Perm (available.filter (Eligible requested ·)) := by
  rw [← map_name_scored]
  exact ranked_perm.map _

theorem similar_eq_of_perm (perm : available.Perm other) (limit : Nat) :
    similar requested available limit = similar requested other limit := by
  rw [similar_eq, similar_eq, ranked_eq_of_perm perm]

private theorem mem_available_of_mem_similar {limit : Nat}
    (member : name ∈ similar requested available limit) :
    name ∈ available ∧ Eligible requested name := by
  rw [similar_eq] at member
  simpa using map_name_ranked_perm.mem_iff.mp (List.mem_of_mem_take member)

private theorem count_similar_le (limit : Nat) :
    (similar requested available limit).count name ≤ available.count name := by
  calc (similar requested available limit).count name
      ≤ ((ranked requested available).map (·.name)).count name := by
        rw [similar_eq]
        exact (List.take_sublist _ _).count_le name
    _ = (available.filter (Eligible requested ·)).count name := map_name_ranked_perm.count_eq name
    _ ≤ available.count name := List.filter_sublist.count_le name

/-- A smaller limit cuts the suggestions of a larger one. -/
theorem similar_eq_take {smaller limit : Nat} (le : smaller ≤ limit) :
    similar requested available smaller = (similar requested available limit).take smaller := by
  rw [similar_eq, similar_eq, List.take_take, Nat.min_eq_left le]

/-- As many suggestions as there are candidates leave none out that fits. -/
theorem similar_perm_of_length_le {limit : Nat} (enough : available.length ≤ limit) :
    (similar requested available limit).Perm (available.filter (Eligible requested ·)) := by
  have bound : ((ranked requested available).map (·.name)).length ≤ limit := by
    rw [map_name_ranked_perm.length_eq]
    exact Nat.le_trans (List.length_filter_le _ _) enough
  rw [similar_eq, List.take_of_length_le bound]
  exact map_name_ranked_perm

end Ranking

/-- The failure of a key that has to be bound names suggestions, which do not depend on the order in
which other keys were bound. -/
theorem addImplicit_eq_of_perm {session other : Session} {needed : DirectKey × String}
    (perm : session.bound.Perm other.bound) (unbound : needed.1.descriptor ∉ session.bound) :
    session.addImplicit true needed = other.addImplicit true needed := by
  have unbound' : needed.1.descriptor ∉ other.bound := fun bound => unbound (perm.mem_iff.mpr bound)
  simp only [Session.addImplicit, Session.isSatisfied_eq_false_iff.mpr unbound,
    Session.isSatisfied_eq_false_iff.mpr unbound', Bool.false_eq_true, ↓reduceIte]
  rw [similar_eq_of_perm perm]

/-- The suggestions for a name depend on which names are available and how often, not on the order in
which these are listed. They are available names other than the requested one, none more often than it is
available. A smaller limit gives a beginning of what a larger one gives, and a limit that all candidates
fit in leaves out no name that scores. So the failure of a key that nothing satisfies is the same in
whatever order the satisfied keys are listed. -/
theorem similar_reproducible (requested : String) (available : List String) (limit : Nat) :
    (∀ other : List String, available.Perm other →
      similar requested other limit = similar requested available limit) ∧
    (∀ name ∈ similar requested available limit, name ∈ available ∧ name ≠ requested) ∧
    (∀ name, (similar requested available limit).count name ≤ available.count name) ∧
    (∀ smaller ≤ limit, similar requested available smaller =
      (similar requested available limit).take smaller) ∧
    (available.length ≤ limit →
      (similar requested available limit).Perm (available.filter (Eligible requested ·))) ∧
    ∀ (session other : Session) (needed : DirectKey × String), session.bound.Perm other.bound →
      needed.1.descriptor ∉ session.bound →
      session.addImplicit true needed = other.addImplicit true needed := by
  refine ⟨fun other perm => (similar_eq_of_perm perm limit).symm, fun name member => ?_,
    fun _ => count_similar_le limit, fun smaller le => similar_eq_take le, similar_perm_of_length_le,
    fun _ _ _ => addImplicit_eq_of_perm⟩
  obtain ⟨listed, eligible⟩ := mem_available_of_mem_similar member
  exact ⟨listed, eligible.1⟩

/-- A misspelt name, in a scope that knows one close name twice and another one that begins like it. -/
theorem similar_userServise :
    let available := ["userStore", "userService", "database", "userService"]
    let other := ["userService", "userService", "database", "userStore"]
    let store : DirectKey × BindingKind := (⟨.plain (.named "userStore"), rfl⟩, .value)
    let service : DirectKey × BindingKind := (⟨.plain (.named "userService"), rfl⟩, .value)
    let needed : DirectKey × String := (⟨.plain (.named "userServise"), rfl⟩, "App constructor")
    available.Perm other ∧ available.length ≤ 4 ∧ 1 ≤ 4 ∧
      similar "userServise" available 4 = ["userService", "userService", "userStore"] ∧
      similar "userServise" other 4 = ["userService", "userService", "userStore"] ∧
      similar "userServise" available 1 = ["userService"] ∧
      "userStore" ∈ available ∧ "userStore" ≠ "userServise" ∧
      ["userService", "userService", "userStore"].Perm (available.filter (Eligible "userServise" ·)) ∧
      needed.1.descriptor ∉ Session.bound { satisfied := [store, service] } ∧
      Session.addImplicit true { satisfied := [store, service] } needed =
        Session.addImplicit true { satisfied := [service, store] } needed := by
  intro available other store service needed
  have perm : available.Perm other := by decide
  have scores : scored "userServise" available =
      [⟨"userStore", 50⟩, ⟨"userService", 90⟩, ⟨"userService", 90⟩] := by decide +kernel
  have order : ranked "userServise" available =
      [⟨"userService", 90⟩, ⟨"userService", 90⟩, ⟨"userStore", 50⟩] :=
    ranked_eq_of_pairwise (by rw [scores]; decide) (by decide)
  have suggested : similar "userServise" available 4 = ["userService", "userService", "userStore"] := by
    rw [similar_eq, order]
    rfl
  obtain ⟨reordered, listed, _, cut, all, same⟩ := similar_reproducible "userServise" available 4
  have offered : "userStore" ∈ similar "userServise" available 4 := by
    rw [suggested]
    decide
  have unbound : needed.1.descriptor ∉ Session.bound { satisfied := [store, service] } := by decide
  exact ⟨perm, by decide, by decide, suggested, (reordered other perm).trans suggested,
    (cut 1 (by decide)).trans (by rw [suggested]; rfl), (listed _ offered).1, (listed _ offered).2,
    suggested ▸ all (by decide), unbound, same _ _ needed (.swap _ _ _) unbound⟩

end Wiring.Suggestion
