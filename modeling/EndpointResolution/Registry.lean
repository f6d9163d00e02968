import EndpointResolution.RuleSet

/-!
Rule sets by service, loaded on first use. What a loader answers is kept, a failure too, so it runs
at most once; a later registration of the service starts afresh.
-/

namespace EndpointResolution

namespace Registry

/-- What a loader answers on its first run, on its second one, and so on. -/
abbrev Loader := Nat → Result RuleSet

/-- A rule set together with the run of a loader that gave it, which tells it from another one of
the same contents. -/
structure Loaded where
  registration : Nat
  run : Nat
  ruleSet : RuleSet

/-- Registrations are numbered in their order. -/
structure Registration where
  number : Nat
  loader : Loader
  outcome : Option (Result Loaded) := none

end Registry

/-- The loaders that ran are recorded by number of registration, the latest first. -/
structure Registry where
  services : Dict Registry.Registration := ∅
  registrations : Nat := 0
  loads : List Nat := []

namespace Registry

def contains (registry : Registry) (service : String) : Bool := registry.services.contains service

/-- The loader does not run yet. -/
def register (registry : Registry) (service : String) (loader : Loader) : Registry :=
  { registry with
    services := registry.services.insert service ⟨registry.registrations, loader, none⟩
    registrations := registry.registrations + 1 }

/-- Runs the loader of a service once more and keeps what it answers. -/
def load (registry : Registry) (service : String) (entry : Registration) :
    Result Loaded × Registry :=
  let run := registry.loads.count entry.number
  let outcome := (entry.loader run).map (⟨entry.number, run, ·⟩)
  (outcome,
    { registry with
      services := registry.services.insert service { entry with outcome := some outcome }
      loads := entry.number :: registry.loads })

/-- The rule set of a service, and the registry behind the look-up. -/
def ruleSet (registry : Registry) (service : String) : Result Loaded × Registry :=
  match registry.services.get? service with
  | none => (.error (.serviceNotAvailable service), registry)
  | some entry =>
      match entry.outcome with
      | some outcome => (outcome, registry)
      | none => registry.load service entry

end Registry

end EndpointResolution
