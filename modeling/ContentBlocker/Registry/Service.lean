import ContentBlocker.Registry.Basic

/-!
# Registries in general

Other parts use a registry through its service: four requests, each of which may fail for any reason
and may change what the registry remembers.
-/

namespace ContentBlocker

/-- What a registry does on request. What it remembers is of type `σ`. -/
structure RegistryService (σ : Type) where
  lookup : String → σ → Except Error (Option RegisteredList) × σ
  compile : String → String → σ → Except Error RegisteredList × σ
  remove : String → σ → Except Error Bool × σ
  identifiers : σ → Except Error (List String) × σ

namespace RegistryService

/-- The service of a registry in memory. -/
def memory [FilterReader] : RegistryService Registry where
  lookup key r := ((r.lookup key).mapError .registry, r)
  compile key encoded r :=
    let (answer, r) := r.compile key encoded
    (answer.mapError .registry, r)
  remove key r :=
    let (answer, r) := r.remove key
    (answer.mapError .registry, r)
  identifiers r := (.ok r.keys, r)

/-- A service that refuses every request for the same reason. -/
def refusing {σ : Type} (e : Error) : RegistryService σ where
  lookup _ s := (.error e, s)
  compile _ _ s := (.error e, s)
  remove _ s := (.error e, s)
  identifiers s := (.error e, s)

end RegistryService

end ContentBlocker
