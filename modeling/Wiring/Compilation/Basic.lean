import Wiring.Compilation.Discovery
import Wiring.Plan.Cycle

/-! # Compilation

Declarations become a plan in a fixed order: values and the sources of aliases are satisfied
first, then constructors, providers, injectors and aliases are resolved, then the queue of
factories is drained, and what is still needed becomes a value to supply. The finished plan must
not use an identifier twice and must have no cycle of eager reads.
-/

namespace Wiring

def Session.plan (session : Session) (package scopeName : String) : Plan :=
  { package, scopeName
    values := session.values
    aliases := session.aliases
    cached := session.cached
    factories := session.factories
    injectors := session.injectors }

namespace Declarations

/-- Satisfies the keys of declared values and of alias sources. -/
def seed (declarations : Declarations) : Except CompileError Session := do
  let session ← declarations.values.foldlM Session.seedValue
    { pending := declarations.factories }
  declarations.aliases.foldlM Session.seedAlias session

def bind (catalog : Catalog) (declarations : Declarations) : Except CompileError Session := do
  let session ← declarations.seed
  let session ← declarations.constructors.foldlM (Session.bindConstructor catalog) session
  let session ← declarations.providers.foldlM (Session.bindProvider catalog) session
  let session ← declarations.injected.foldlM (Session.bindInjectors catalog) session
  declarations.aliases.foldlM Session.addAlias session

/-- Resolves everything that is declared, and the factories that it asks for. -/
def resolve (catalog : Catalog) (declarations : Declarations) : Except CompileError Session := do
  let session ← declarations.bind catalog
  session.drain catalog

/-- What is declared is resolved kind by kind, and each kind goes on from the session of the one before. -/
theorem phases_of_bind {catalog : Catalog} {declarations : Declarations} {session : Session}
    (done : declarations.bind catalog = .ok session) :
    ∃ valued seeded constructed provided injected : Session,
      declarations.values.foldlM Session.seedValue { pending := declarations.factories } = .ok valued ∧
      declarations.aliases.foldlM Session.seedAlias valued = .ok seeded ∧
      declarations.constructors.foldlM (Session.bindConstructor catalog) seeded = .ok constructed ∧
      declarations.providers.foldlM (Session.bindProvider catalog) constructed = .ok provided ∧
      declarations.injected.foldlM (Session.bindInjectors catalog) provided = .ok injected ∧
      declarations.aliases.foldlM Session.addAlias injected = .ok session := by
  obtain ⟨seeded, seed, done⟩ := bind_eq_ok.mp done
  obtain ⟨valued, values, sources⟩ := bind_eq_ok.mp seed
  obtain ⟨constructed, constructors, done⟩ := bind_eq_ok.mp done
  obtain ⟨provided, providers, done⟩ := bind_eq_ok.mp done
  obtain ⟨injected, receivers, aliases⟩ := bind_eq_ok.mp done
  exact ⟨valued, seeded, constructed, provided, injected, values, sources, constructors, providers,
    receivers, aliases⟩

end Declarations

def Session.surface (explicitValues : Bool) (session : Session) : Except CompileError Session :=
  session.required.foldlM (Session.addImplicit explicitValues) session

/-- Refuses a plan that a scope could not serve. -/
def Plan.check (plan : Plan) : Except CompileError Unit := do
  plan.checkIdentifiers
  plan.checkCycles

/-- Compiles the declarations into a plan, or reports the first cause against it. -/
def Builder.compile (builder : Builder) : Except CompileError Plan := do
  let session ← builder.declarations.resolve builder.catalog
  let session ← session.surface builder.explicitValues
  let plan := session.plan builder.package builder.scopeName
  plan.check
  return plan

/-- A plan is that of the surfaced session, and has passed its check. -/
theorem Builder.compile_iff_surface {builder : Builder} {plan : Plan} : builder.compile = .ok plan ↔
    ∃ resolved surfaced, builder.declarations.resolve builder.catalog = .ok resolved ∧
      resolved.surface builder.explicitValues = .ok surfaced ∧
      plan = surfaced.plan builder.package builder.scopeName ∧ plan.check = .ok () := by
  constructor
  · intro compiled
    obtain ⟨resolved, resolve, compiled⟩ := bind_eq_ok.mp compiled
    obtain ⟨surfaced, surface, compiled⟩ := bind_eq_ok.mp compiled
    obtain ⟨checked, same⟩ := check_bind_eq_ok.mp compiled
    cases same
    exact ⟨resolved, surfaced, resolve, surface, rfl, checked⟩
  · rintro ⟨resolved, surfaced, resolve, surface, rfl, checked⟩
    exact bind_eq_ok.mpr ⟨resolved, resolve, bind_eq_ok.mpr ⟨surfaced, surface,
      check_bind_eq_ok.mpr ⟨checked, rfl⟩⟩⟩

end Wiring
