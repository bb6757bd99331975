import Wiring.Json.Plan
import Wiring.Proofs.Json.Types

/-! # Plans, read and written

Every field of a plan is written, and what is written is read back: the slots of each kind, their
recipes and arguments, and the plan itself.

Main statement: `Plan.recovers`.
-/

namespace Wiring

open Json (Recovers recovers_string recovers_strings recovers_bool recovers_word)

private theorem ValueOrigin.recovers : Recovers ofJson? toJson := by
  rintro (_ | _) <;> rfl

private theorem ValueSlot.recovers : Recovers ofJson? toJson := by
  intro slot
  simp only [ofJson?, Option.bind_eq_bind, Option.bind_eq_some_iff, Option.some.injEq]
  exact ⟨_, rfl, _, recovers_string.required rfl, _, recovers_string.required rfl, _,
    recovers_string.required rfl, _, ValueOrigin.recovers.required rfl, rfl⟩

private theorem AliasSlot.recovers : Recovers ofJson? toJson := by
  intro slot
  simp only [ofJson?, Option.bind_eq_bind, Option.bind_eq_some_iff, Option.some.injEq]
  exact ⟨_, rfl, _, recovers_string.required rfl, _, recovers_string.required rfl, _,
    recovers_string.required rfl, _, recovers_string.required rfl, rfl⟩

theorem Argument.recovers : Recovers ofJson? toJson := by
  intro argument
  cases argument with
  | slot identifier => rfl
  | lazy identifier => rfl
  | curried index =>
    have read : Json.Fields.required [("kind", .string "curried"), ("index", .ofWord index)] "index"
        Json.word? = some index := recovers_word.required rfl
    exact congrArg (Option.map curried) read

private theorem Recipe.recovers : Recovers ofJson? toJson := by
  intro recipe
  cases recipe with
  | constructor type =>
    have read : Json.Fields.required [("kind", .string "constructor"), ("ty", type.toJson)] "ty"
        TypeExpr.ofJson? = some type := TypeExpr.recovers.required rfl
    exact congrArg (Option.map constructor) read
  | provider holder holderType method =>
    have fields : (provider holder holderType method).toJson.variant? fieldNames = some ("provider",
        [("kind", .string "provider"), ("holder", .string holder), ("holder_type", holderType.toJson),
         ("method", .string method)]) := rfl
    rw [ofJson?, fields]
    simp only [Option.bind_eq_bind, Option.bind_some, Option.bind_eq_some_iff]
    exact ⟨_, recovers_string.required rfl, _, TypeExpr.recovers.required rfl, _,
      recovers_string.required rfl, rfl⟩

private theorem CachedSlot.recovers : Recovers ofJson? toJson := by
  intro slot
  simp only [ofJson?, Option.bind_eq_bind, Option.bind_eq_some_iff, Option.some.injEq]
  exact ⟨_, rfl, _, recovers_word.required rfl, _, recovers_string.required rfl, _,
    recovers_string.required rfl, _, recovers_string.required rfl, _, Recipe.recovers.required rfl, _,
    Argument.recovers.list.required rfl, _, recovers_bool.required rfl, rfl⟩

private theorem FactorySlot.recovers : Recovers ofJson? toJson := by
  intro slot
  simp only [ofJson?, Option.bind_eq_bind, Option.bind_eq_some_iff, Option.some.injEq]
  exact ⟨_, rfl, _, recovers_string.required rfl, _, recovers_string.required rfl, _,
    recovers_string.required rfl, _, recovers_string.required rfl, _, recovers_strings.required rfl, _,
    TypeExpr.recovers.required rfl, _, Argument.recovers.list.required rfl, rfl⟩

private theorem InjectorSlot.recovers : Recovers ofJson? toJson := by
  intro slot
  simp only [ofJson?, Option.bind_eq_bind, Option.bind_eq_some_iff, Option.some.injEq]
  exact ⟨_, rfl, _, recovers_string.required rfl, _, TypeExpr.recovers.required rfl, _,
    recovers_string.required rfl, _, recovers_strings.required rfl, _, recovers_string.required rfl, _,
    TypeExpr.recovers.required rfl, _, recovers_string.required rfl, _,
    Argument.recovers.list.required rfl, _, recovers_bool.required rfl, rfl⟩

theorem Plan.recovers : Recovers ofJson? toJson := by
  intro plan
  simp only [ofJson?, Option.bind_eq_bind, Option.bind_eq_some_iff, Option.some.injEq]
  exact ⟨_, rfl, _, recovers_string.required rfl, _, recovers_string.required rfl, _,
    ValueSlot.recovers.list.required rfl, _, AliasSlot.recovers.list.required rfl, _,
    CachedSlot.recovers.list.required rfl, _, FactorySlot.recovers.list.required rfl, _,
    InjectorSlot.recovers.list.required rfl, rfl⟩

end Wiring
