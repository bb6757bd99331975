import Mathlib.Logic.Relation
import Wiring.Catalog.Ancestry

/-! # What a lineage holds

The search for supertypes takes names off a queue and never looks at one twice. Whatever the order in
which supertypes are declared, and whether they lead in circles or out of the catalog, a lineage holds
the catalogued types that are reached along declared supertypes. So whatever is read off a lineage
depends on what can be reached, and on nothing else.

Main statement: `Catalog.mem_lineage_iff`.
-/

namespace Wiring.Catalog

variable {catalog : Catalog} {seen queue : List String} {info : TypeInfo}

/-- The first type is catalogued and declares the second one as a supertype. -/
def Extends (catalog : Catalog) (name supertype : String) : Prop :=
  ∃ info, catalog.find? name = some info ∧ supertype ∈ info.supertypes

/-- Declared supertypes lead from the first type to the second one, in any number of steps. -/
abbrev Reaches (catalog : Catalog) (name ancestor : String) : Prop :=
  Relation.ReflTransGen catalog.Extends name ancestor

/-- Everything that the search finds is catalogued and reached from the queue. -/
theorem reaches_of_mem_lineageFrom (member : info ∈ catalog.lineageFrom seen queue) :
    catalog.find? info.name = some info ∧ ∃ name ∈ queue, catalog.Reaches name info.name := by
  fun_induction lineageFrom catalog seen queue with
  | case1 seen => cases member
  | case2 seen name rest known ih =>
    obtain ⟨found, start, queued, path⟩ := ih member
    exact ⟨found, start, List.mem_cons_of_mem _ queued, path⟩
  | case3 seen name rest fresh missing ih =>
    obtain ⟨found, start, queued, path⟩ := ih member
    exact ⟨found, start, List.mem_cons_of_mem _ queued, path⟩
  | case4 seen name rest fresh here found ih =>
    rcases List.mem_cons.mp member with rfl | later
    · have same := find?_name found
      exact ⟨same ▸ found, name, List.mem_cons_self, same ▸ .refl⟩
    · obtain ⟨foundLater, start, queued, path⟩ := ih later
      refine ⟨foundLater, ?_⟩
      rcases List.mem_append.mp queued with waiting | supertype
      · exact ⟨start, List.mem_cons_of_mem _ waiting, path⟩
      · exact ⟨name, List.mem_cons_self, .head ⟨here, found, supertype⟩ path⟩

/-- What a seen type extends has been seen as well or waits in the queue. -/
def Closed (catalog : Catalog) (seen queue : List String) : Prop :=
  ∀ name ∈ seen, ∀ supertype, catalog.Extends name supertype → supertype ∈ seen ++ queue

/-- Where nothing is left out, the search finds every catalogued type that is reached and that has not
been seen. -/
theorem mem_lineageFrom_of_reaches (closed : catalog.Closed seen queue) {start : String}
    (begun : start ∈ seen ++ queue) (path : catalog.Reaches start info.name)
    (catalogued : catalog.find? info.name = some info) :
    info.name ∈ seen ∨ info ∈ catalog.lineageFrom seen queue := by
  fun_induction lineageFrom catalog seen queue with
  | case1 seen =>
    -- Nothing is queued, so paths never leave what has been seen.
    rw [List.append_nil] at begun
    have stays (name : String) (reached : catalog.Reaches start name) : name ∈ seen := by
      induction reached with
      | refl => exact begun
      | tail _ edge ih => simpa using closed _ ih _ edge
    exact .inl (stays _ path)
  | case2 seen name rest known ih =>
    have moves {other : String} (member : other ∈ seen ++ name :: rest) : other ∈ seen ++ rest := by
      grind
    exact ih (fun other seen supertype edge => moves (closed other seen supertype edge)) (moves begun)
  | case3 seen name rest fresh missing ih =>
    have moves {other : String} (member : other ∈ seen ++ name :: rest) :
        other ∈ name :: seen ++ rest := by grind
    have closed' : catalog.Closed (name :: seen) rest := by
      refine List.forall_mem_cons.mpr ⟨fun supertype edge => ?_, fun other seen supertype edge =>
        moves (closed other seen supertype edge)⟩
      obtain ⟨here, found, _⟩ := edge
      rw [missing] at found
      cases found
    rcases ih closed' (moves begun) with known | listed
    · rcases List.mem_cons.mp known with same | known
      · rw [same, missing] at catalogued
        cases catalogued
      · exact .inl known
    · exact .inr listed
  | case4 seen name rest fresh here found ih =>
    have moves {other : String} (member : other ∈ seen ++ name :: rest) :
        other ∈ name :: seen ++ (rest ++ here.supertypes) := by grind
    have closed' : catalog.Closed (name :: seen) (rest ++ here.supertypes) := by
      refine List.forall_mem_cons.mpr ⟨fun supertype edge => ?_, fun other seen supertype edge =>
        moves (closed other seen supertype edge)⟩
      obtain ⟨same, found', supertype⟩ := edge
      obtain rfl : here = same := Option.some.inj (found.symm.trans found')
      exact List.mem_append_right _ (List.mem_append_right _ supertype)
    rcases ih closed' (moves begun) with known | listed
    · rcases List.mem_cons.mp known with same | known
      · rw [same, found] at catalogued
        exact .inr (Option.some.inj catalogued ▸ List.mem_cons_self)
      · exact .inl known
    · exact .inr (List.mem_cons_of_mem _ listed)

/-- A lineage holds the catalogued types that declared supertypes lead to. -/
theorem mem_lineage_iff {name : String} : info ∈ catalog.lineage name ↔
    catalog.find? info.name = some info ∧ catalog.Reaches name info.name := by
  constructor
  · intro member
    obtain ⟨catalogued, start, queued, path⟩ := reaches_of_mem_lineageFrom member
    exact ⟨catalogued, List.mem_singleton.mp queued ▸ path⟩
  · rintro ⟨catalogued, path⟩
    have closed : catalog.Closed [] [name] := fun _ seen => nomatch seen
    exact (mem_lineageFrom_of_reaches closed List.mem_cons_self path catalogued).resolve_left
      List.not_mem_nil

end Wiring.Catalog
