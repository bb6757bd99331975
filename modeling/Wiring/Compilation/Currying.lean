import Wiring.Key
import Wiring.Plan.Basic

/-! # Currying

A factory or an injector is called with the parameters of its interface and in turn calls a
constructor or a method. Each target parameter takes the first interface parameter with its key
that no earlier target parameter took; when there is none it is read from the scope. Interface
parameters that are left over belong nowhere.
-/

namespace Wiring

/-- The argument that reads a key from the scope: a handle for a deferred key, and the instance
otherwise. -/
def Key.argument (key : Key) : Argument :=
  if key.isLazy then .lazy key.identifier else .slot key.identifier

def Key.ofParameters (params : List QualifiedType) : Except CompileError (List Key) :=
  params.mapM Key.ofType

/-- Where the argument for a target parameter comes from. -/
inductive Source where
  /-- The caller's argument at this interface position. -/
  | caller (position : Nat)
  /-- The scope. -/
  | scope (key : Key)
deriving DecidableEq

namespace Source

def argument : Source → Argument
  | caller position => .curried (.ofNat position)
  | scope key => key.argument

def key? : Source → Option Key
  | caller _ => none
  | scope key => some key

end Source

/-- Interface parameters with their positions. -/
abbrev Offers := List (Key × Nat)

/-- The position of the first offer with the key, and the other offers. -/
def Offers.take? (wanted : Key) : Offers → Option (Nat × Offers)
  | [] => none
  | (key, position) :: rest =>
    if key.sameAs wanted then some (position, rest)
    else (take? wanted rest).map fun (found, others) => (found, (key, position) :: others)

/-- Sources of the target parameters in order, and the offers left over. -/
def curry (offers : Offers) : List Key → List Source × Offers
  | [] => ([], offers)
  | wanted :: rest =>
    match offers.take? wanted with
    | some (position, others) =>
      let (sources, left) := curry others rest
      (.caller position :: sources, left)
    | none =>
      let (sources, left) := curry offers rest
      (.scope wanted :: sources, left)

/-- What is not curried is wanted: a scope is only asked for keys of the parameters. -/
theorem curry_scope_mem {offers : Offers} {wanted : List Key} {key : Key}
    (member : key ∈ (curry offers wanted).1.filterMap Source.key?) : key ∈ wanted := by
  induction wanted generalizing offers with
  | nil => simp [curry] at member
  | cons head rest ih =>
    simp only [curry] at member
    split at member
    · simp only [List.filterMap_cons, Source.key?] at member
      exact List.mem_cons_of_mem _ (ih member)
    · simp only [List.filterMap_cons, Source.key?, List.mem_cons] at member
      rcases member with same | later
      · exact same ▸ List.mem_cons_self
      · exact List.mem_cons_of_mem _ (ih later)

end Wiring
