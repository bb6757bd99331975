import Wiring.Proofs.SuggestedNames

/-! # Priority among suggestions

Names that contain the requested one, or are contained in it, are meant to come first. Their score is
fixed, and that of a shared beginning grows with its length. So a name that shares more than ten
characters overtakes them, and one that shares just ten is ordered among them by name.

Main statements: `Suggestion.similar_priority` and `Suggestion.similar_databaseConnection`.
-/

namespace Wiring.Suggestion

/-- The lowercase form of one of the names contains that of the other. -/
def Overlapping (requested name : String) : Prop :=
  overlaps (Text.lowercase requested) (Text.lowercase name) = true

/-- The name passes for a misspelling of the requested one. -/
def Misspelt (requested name : String) : Prop :=
  closeEnough (Text.lowercase requested) (Text.lowercase name) = true

/-- How many characters the lowercase forms of the names have in common at the beginning. -/
def shared (requested name : String) : Nat :=
  sharedStart (Text.lowercase name) (Text.lowercase requested)

instance (requested name : String) : Decidable (Overlapping requested name) :=
  inferInstanceAs (Decidable (_ = _))

instance (requested name : String) : Decidable (Misspelt requested name) :=
  inferInstanceAs (Decidable (_ = _))

/-- The name, of which a long beginning is all that fits the requested one, comes before the other name
even if that one overlaps. -/
structure Outranks (requested name other : String) : Prop where
  apart : ¬ Overlapping requested name
  distant : ¬ Misspelt requested name
  long : 10 < shared requested name ∨ shared requested name = 10 ∧ name < other

/-- Every name that overlaps the requested one comes before every name that does not. -/
def Prioritized (requested : String) (names : List String) : Prop :=
  names.Pairwise fun first second => Overlapping requested second → Overlapping requested first

section Beginnings

/-! ## Shared beginnings -/

private theorem occursIn_of_isPrefix {part text : List Char} (begins : part <+: text) :
    occursIn part text = true := by
  cases text with
  | nil => rw [List.prefix_nil.mp begins]; rfl
  | cons c rest => simp [occursIn, List.isPrefixOf_iff_prefix.mpr begins]

private theorem isPrefix_of_length_le_takeWhile : (xs ys : List Char) →
    ys.length ≤ ((xs.zip ys).takeWhile fun (x, y) => x = y).length → ys <+: xs
  | _, [], _ => List.nil_prefix
  | [], _ :: _, whole => by simp at whole
  | x :: xs, y :: ys, whole => by
    by_cases same : x = y
    · simp only [List.zip_cons_cons, same, decide_true, List.takeWhile_cons_of_pos, List.length_cons,
        Nat.add_le_add_iff_right] at whole
      exact same ▸ List.cons_prefix_cons.mpr ⟨rfl, isPrefix_of_length_le_takeWhile xs ys whole⟩
    · simp [same] at whole

/-- A name that begins with the whole of the requested one overlaps it. -/
theorem overlapping_of_length_le_shared {requested name : String}
    (whole : (Text.lowercase requested).length ≤ shared requested name) : Overlapping requested name := by
  have begins : (Text.lowercase requested).toList <+: (Text.lowercase name).toList :=
    isPrefix_of_length_le_takeWhile _ _ (by simpa [shared, sharedStart, String.length_toList] using whole)
  simp [Overlapping, overlaps, occursIn_of_isPrefix begins]

/-- Of a request of up to ten characters no name shares ten without overlapping it. -/
theorem not_outranks_of_length_le {requested name other : String}
    (short : (Text.lowercase requested).length ≤ 10) : ¬ Outranks requested name other := by
  intro outranks
  have long := outranks.long
  exact outranks.apart (overlapping_of_length_le_shared (by omega))

end Beginnings

section Scores

/-! ## Scores -/

variable {requested : String} {available : List String} {entry other : Scored}

theorem score?_eq (requested name : String) :
    score? (Text.lowercase requested) (Text.lowercase name) =
      if Overlapping requested name then some 100
      else if Misspelt requested name then some 90
      else if 3 ≤ shared requested name then some (shared requested name * 10) else none := rfl

private theorem score_eq_of_overlapping (member : entry ∈ scored requested available)
    (overlapping : Overlapping requested entry.name) : entry.score = 100 := by
  have found := (mem_scored.mp member).2
  rw [score?_eq, if_pos overlapping] at found
  exact (Option.some.inj found).symm

private theorem score_eq_of_misspelt (member : entry ∈ scored requested available)
    (apart : ¬ Overlapping requested entry.name) (misspelt : Misspelt requested entry.name) :
    entry.score = 90 := by
  have found := (mem_scored.mp member).2
  rw [score?_eq, if_neg apart, if_pos misspelt] at found
  exact (Option.some.inj found).symm

private theorem score_eq_of_not_misspelt (member : entry ∈ scored requested available)
    (apart : ¬ Overlapping requested entry.name) (distant : ¬ Misspelt requested entry.name) :
    entry.score = shared requested entry.name * 10 := by
  have found := (mem_scored.mp member).2
  rw [score?_eq, if_neg apart, if_neg distant] at found
  split at found
  · exact (Option.some.inj found).symm
  · cases found

/-- A candidate that does not overlap comes before one that does if it outranks it, and only then. -/
theorem precedes_iff_outranks (member : entry ∈ scored requested available)
    (member' : other ∈ scored requested available) (apart : ¬ Overlapping requested entry.name)
    (overlapping : Overlapping requested other.name) :
    entry.precedes other = true ↔ Outranks requested entry.name other.name := by
  have unlike : entry.name ≠ other.name := fun same => apart (same ▸ overlapping)
  rw [Scored.precedes_iff, score_eq_of_overlapping member' overlapping]
  by_cases misspelt : Misspelt requested entry.name
  · rw [score_eq_of_misspelt member apart misspelt]
    exact ⟨fun higher => by omega, fun outranks => (outranks.distant misspelt).elim⟩
  · rw [score_eq_of_not_misspelt member apart misspelt]
    constructor
    · rintro (higher | ⟨same, before⟩)
      · exact ⟨apart, misspelt, .inl (by omega)⟩
      · refine ⟨apart, misspelt, .inr ⟨by omega, ?_⟩⟩
        exact String.not_le.mp fun behind => unlike (String.le_antisymm before behind)
    · intro outranks
      rcases outranks.long with longer | ⟨ten, before⟩
      · exact .inl (by omega)
      · exact .inr ⟨by omega, String.not_lt.mp (String.lt_asymm before)⟩

end Scores

section Priority

/-! ## Suggestions in order -/

variable {requested : String} {available : List String}

/-- How the first and the second of two suggestions are related. -/
def InOrder (requested first second : String) : Prop :=
  (Overlapping requested second → ¬ Overlapping requested first → Outranks requested first second) ∧
    (Overlapping requested first → ¬ Outranks requested second first)

private theorem inOrder_of_precedes {first second : Scored} (member : first ∈ scored requested available)
    (member' : second ∈ scored requested available) (ordered : first.precedes second = true) :
    InOrder requested first.name second.name := by
  refine ⟨fun overlapping apart => ?_, fun overlapping outranks => ?_⟩
  · exact (precedes_iff_outranks member member' apart overlapping).mp ordered
  · have back := (precedes_iff_outranks member' member outranks.apart overlapping).mpr outranks
    exact outranks.apart (Scored.precedes_antisymm ordered back ▸ overlapping)

private theorem similar_pairwise (limit : Nat) :
    (similar requested available limit).Pairwise (InOrder requested) := by
  rw [similar_eq]
  refine List.Pairwise.take (List.pairwise_map.mpr ?_)
  exact ranked_pairwise.imp_of_mem fun member member' ordered =>
    inOrder_of_precedes (ranked_perm.mem_iff.mp member) (ranked_perm.mem_iff.mp member') ordered

/-- Where the names are in order, the overlapping ones come first unless one of them is outranked. -/
theorem prioritized_iff {names : List String} (ordered : names.Pairwise (InOrder requested)) :
    Prioritized requested names ↔ ∀ first ∈ names, ∀ second ∈ names, Overlapping requested second →
      ¬ Outranks requested first second := by
  constructor
  · intro prioritized
    have before : names.Pairwise fun first second =>
        Overlapping requested second → ¬ Outranks requested first second :=
      prioritized.imp fun follows overlapping outranks => outranks.apart (follows overlapping)
    -- whichever of the two names comes first
    exact fun first member second member' => before.forall_of_forall_of_flip
      (fun _ _ overlapping outranks => outranks.apart overlapping) (ordered.imp And.right) member member'
  · intro none
    refine ordered.imp_of_mem fun member member' inOrder overlapping => ?_
    by_contra apart
    exact none _ member _ member' overlapping (inOrder.1 overlapping apart)

end Priority

/-- Of two suggestions of which one overlaps the requested name and the other one does not, the overlapping
one comes first, unless it is outranked: the other name is no likely misspelling and shares more than ten
characters at the beginning, or just ten and is the lesser of the two. So the overlapping suggestions come
first if none of them is outranked, which a request of up to ten characters makes sure of. -/
theorem similar_priority (requested : String) (available : List String) (limit : Nat) :
    (similar requested available limit).Pairwise (InOrder requested) ∧
    (Prioritized requested (similar requested available limit) ↔
      ∀ first ∈ similar requested available limit, ∀ second ∈ similar requested available limit,
        Overlapping requested second → ¬ Outranks requested first second) ∧
    ((Text.lowercase requested).length ≤ 10 →
      Prioritized requested (similar requested available limit)) := by
  have ordered : (similar requested available limit).Pairwise (InOrder requested) := similar_pairwise limit
  refine ⟨ordered, prioritized_iff ordered, fun short => ?_⟩
  exact (prioritized_iff ordered).mpr fun _ _ _ _ _ => not_outranks_of_length_le short

/-- A part of the requested name comes before a misspelling and before a shared beginning. -/
theorem similar_dataStore :
    let available := ["database", "dataStorage", "store"]
    (Text.lowercase "dataStore").length ≤ 10 ∧
      similar "dataStore" available 3 = ["store", "dataStorage", "database"] ∧
      Overlapping "dataStore" "store" ∧ ¬ Overlapping "dataStore" "dataStorage" ∧
      Prioritized "dataStore" ["store", "dataStorage", "database"] ∧
      ¬ Outranks "dataStore" "database" "store" := by
  intro available
  have short : (Text.lowercase "dataStore").length ≤ 10 := by decide +kernel
  have scores : scored "dataStore" available =
      [⟨"database", 40⟩, ⟨"dataStorage", 90⟩, ⟨"store", 100⟩] := by decide +kernel
  have order : ranked "dataStore" available =
      [⟨"store", 100⟩, ⟨"dataStorage", 90⟩, ⟨"database", 40⟩] :=
    ranked_eq_of_pairwise (by rw [scores]; decide) (by decide)
  have suggested : similar "dataStore" available 3 = ["store", "dataStorage", "database"] := by
    rw [similar_eq, order]
    rfl
  have part : Overlapping "dataStore" "store" := by decide +kernel
  obtain ⟨_, first, prioritized⟩ := similar_priority "dataStore" available 3
  rw [suggested] at first prioritized
  exact ⟨short, suggested, part, by decide +kernel, prioritized short,
    first.mp (prioritized short) _ (by decide) _ (by decide) part⟩

/-- A name that shares eleven characters with a longer request comes before one that is a part of it. -/
theorem similar_databaseConnection :
    let available := ["database", "databaseConfiguration"]
    similar "databaseConnection" available 3 = ["databaseConfiguration", "database"] ∧
      Overlapping "databaseConnection" "database" ∧
      ¬ Overlapping "databaseConnection" "databaseConfiguration" ∧
      ¬ Prioritized "databaseConnection" (similar "databaseConnection" available 3) := by
  intro available
  have scores : scored "databaseConnection" available =
      [⟨"database", 100⟩, ⟨"databaseConfiguration", 110⟩] := by decide +kernel
  have order : ranked "databaseConnection" available =
      [⟨"databaseConfiguration", 110⟩, ⟨"database", 100⟩] :=
    ranked_eq_of_pairwise (by rw [scores]; decide) (by decide)
  have suggested : similar "databaseConnection" available 3 = ["databaseConfiguration", "database"] := by
    rw [similar_eq, order]
    rfl
  have part : Overlapping "databaseConnection" "database" := by decide +kernel
  have apart : ¬ Overlapping "databaseConnection" "databaseConfiguration" := by decide +kernel
  refine ⟨suggested, part, apart, fun prioritized => ?_⟩
  rw [suggested] at prioritized
  exact apart (List.rel_of_pairwise_cons prioritized (List.mem_singleton_self _) part)

end Wiring.Suggestion
