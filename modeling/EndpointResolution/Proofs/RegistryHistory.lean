import EndpointResolution.Registry

/-!
What a registry answers, in terms of the calls that it has had. The latest registration of a
service decides what the service gives: what its loader answered on its one run, which comes with
the first call that asks for the rule set before the service is registered anew. Calls on other
services make no difference.
-/

namespace EndpointResolution.Registry

inductive Call where
  | register (service : String) (loader : Loader)
  | ruleSet (service : String)
  | contains (service : String)

namespace Call

def service : Call → String
  | .register service _ | .ruleSet service | .contains service => service

def isRegistration : Call → Bool
  | .register _ _ => true
  | .ruleSet _ | .contains _ => false

/-- A registration of the service. -/
def registers (service : String) (call : Call) : Bool :=
  call.isRegistration && call.service = service

/-- A look-up of the rule set of the service. -/
def asks (service : String) : Call → Bool
  | .ruleSet own => own = service
  | .register _ _ | .contains _ => false

end Call

/-- The registry behind a call. -/
def step (registry : Registry) : Call → Registry
  | .register service loader => registry.register service loader
  | .ruleSet service => (registry.ruleSet service).2
  | .contains _ => registry

/-- The registry behind calls, one after the other. -/
def run (registry : Registry) (calls : List Call) : Registry := calls.foldl step registry

/-- A fresh registry behind its calls. -/
def after (calls : List Call) : Registry := run {} calls

/-- Whether the rule set is asked for before the service is registered anew. -/
def asked (service : String) (calls : List Call) : Bool :=
  (calls.takeWhile (!·.registers service)).any (·.asks service)

/-- The calls on the service alone. -/
def own (service : String) (calls : List Call) : List Call := calls.filter (·.service = service)

/-- What the loader answers on its first run. -/
def Registration.answer (entry : Registration) : Result Loaded :=
  (entry.loader 0).map (⟨entry.number, 0, ·⟩)

/-- The registration behind calls that ask for its rule set or do not. -/
def Registration.used (entry : Registration) (asked : Bool) : Registration :=
  { entry with outcome := if asked then some entry.answer else entry.outcome }

namespace Registration

variable (entry : Registration) (asked : Bool)

@[simp] theorem number_used : (entry.used asked).number = entry.number := rfl

@[simp] theorem outcome_used :
    (entry.used asked).outcome = if asked then some entry.answer else entry.outcome := rfl

end Registration

section

variable {service : String} {calls : List Call} {call : Call}

end

@[simp] theorem get?_register (registry : Registry) (service other : String) (loader : Loader) :
    (registry.register service loader).services.get? other =
      if service = other then some ⟨registry.registrations, loader, none⟩
      else registry.services.get? other :=
  Dict.get?_insert ..

theorem ruleSet_of_get?_eq_none {registry : Registry} {service : String}
    (h : registry.services.get? service = none) :
    registry.ruleSet service = (.error (.serviceNotAvailable service), registry) := by
  rw [ruleSet, h]

/-- Services have registrations of their own; a loader has run once if its answer is kept, and not
yet if none is. -/
structure Sound (registry : Registry) : Prop where
  numbered : ∀ service entry, registry.services.get? service = some entry →
    entry.number < registry.registrations
  apart : ∀ service other entry entry', registry.services.get? service = some entry →
    registry.services.get? other = some entry' → entry.number = entry'.number → service = other
  counted : ∀ number ∈ registry.loads, number < registry.registrations
  once : ∀ service entry, registry.services.get? service = some entry →
    (entry.outcome = none ∧ registry.loads.count entry.number = 0) ∨
      (entry.outcome = some entry.answer ∧ registry.loads.count entry.number = 1)

namespace Sound

variable {registry : Registry} {service : String} {entry : Registration}

/-- What a look-up of a registered service does: it answers what the loader does on its first run,
and that run is there behind it. -/
theorem ruleSet_of_get?_eq_some (sound : Sound registry)
    (h : registry.services.get? service = some entry) :
    (registry.ruleSet service).1 = entry.answer ∧
    (∀ other, (registry.ruleSet service).2.services.get? other =
      if service = other then some (entry.used true) else registry.services.get? other) ∧
    (registry.ruleSet service).2.registrations = registry.registrations ∧
    ∀ number, (registry.ruleSet service).2.loads.count number =
      if entry.number = number then 1 else registry.loads.count number := by
  rcases sound.once service entry h with ⟨fresh, unrun⟩ | ⟨kept, ran⟩
  · have looked : registry.ruleSet service = registry.load service entry := by
      simp only [Registry.ruleSet, h, fresh]
    have first : (registry.load service entry).1 = entry.answer := by
      rw [load, unrun, Registration.answer]
    rw [looked]
    refine ⟨first, fun other => ?_, rfl, fun number => ?_⟩
    · rw [Registration.used, if_pos rfl, ← first]
      exact Dict.get?_insert ..
    · rw [load, List.count_cons]
      by_cases own : entry.number = number
      · simp [← own, unrun]
      · simp [own]
  · have looked : registry.ruleSet service = (entry.answer, registry) := by
      simp only [Registry.ruleSet, h, kept]
    have same : entry.used true = entry := by rw [Registration.used, if_pos rfl, ← kept]
    rw [looked]
    refine ⟨rfl, fun other => ?_, rfl, fun number => ?_⟩
    · split
      · next own => rw [← own, h, same]
      · rfl
    · split
      · next own => rw [← own, ran]
      · rfl

theorem register (sound : Sound registry) (service : String) (loader : Loader) :
    Sound (registry.register service loader) where
  numbered other entry h := by
    rw [get?_register] at h
    split at h
    · cases h
      exact Nat.lt_succ_self _
    · exact Nat.lt_succ_of_lt (sound.numbered other entry h)
  apart first second entry entry' h h' same := by
    -- The number of the new registration is above those of the others.
    rw [get?_register] at h h'
    split at h <;> split at h'
    · next own own' => exact own ▸ own'
    · cases h
      exact absurd same (Nat.ne_of_gt (sound.numbered second entry' h'))
    · cases h'
      exact absurd same (Nat.ne_of_lt (sound.numbered first entry h))
    · exact sound.apart first second entry entry' h h' same
  counted number member := Nat.lt_succ_of_lt (sound.counted number member)
  once other entry h := by
    rw [get?_register] at h
    split at h
    · cases h
      refine .inl ⟨rfl, List.count_eq_zero.mpr fun member => ?_⟩
      exact Nat.lt_irrefl _ (sound.counted _ member)
    · exact sound.once other entry h

/-- A registration behind a look-up was there before it, with its answer or still without it. -/
theorem exists_of_ruleSet (sound : Sound registry)
    (h : registry.services.get? service = some entry) {other : String} {later : Registration}
    (behind : (registry.ruleSet service).2.services.get? other = some later) :
    ∃ earlier, registry.services.get? other = some earlier ∧ earlier.number = later.number ∧
      (service = other ∧ later = entry.used true ∨ service ≠ other ∧ later = earlier) := by
  rw [(sound.ruleSet_of_get?_eq_some h).2.1] at behind
  split at behind
  · next own =>
      cases behind
      exact ⟨entry, own ▸ h, rfl, .inl ⟨own, rfl⟩⟩
  · next ne => exact ⟨later, behind, rfl, .inr ⟨ne, rfl⟩⟩

theorem ruleSet (sound : Sound registry) (service : String) :
    Sound (registry.ruleSet service).2 := by
  cases h : registry.services.get? service with
  | none => simpa only [ruleSet_of_get?_eq_none h] using sound
  | some entry =>
      obtain ⟨-, -, registrations, loads⟩ := sound.ruleSet_of_get?_eq_some h
      refine ⟨fun other later h' => ?numbered, fun first second one two h₁ h₂ same => ?apart,
        fun number member => ?counted, fun other later h' => ?once⟩
      case numbered =>
        obtain ⟨earlier, before, same, -⟩ := sound.exists_of_ruleSet h h'
        exact registrations ▸ same ▸ sound.numbered other earlier before
      case apart =>
        obtain ⟨earlier, before, eq, -⟩ := sound.exists_of_ruleSet h h₁
        obtain ⟨earlier', before', eq', -⟩ := sound.exists_of_ruleSet h h₂
        exact sound.apart first second earlier earlier' before before'
          (eq.trans (same.trans eq'.symm))
      case counted =>
        rw [registrations]
        have positive := List.count_pos_iff.mpr member
        rw [loads] at positive
        split at positive
        · next own => exact own ▸ sound.numbered service entry h
        · exact sound.counted number (List.count_pos_iff.mp positive)
      case once =>
        rw [loads]
        obtain ⟨earlier, before, -, ⟨-, rfl⟩ | ⟨ne, rfl⟩⟩ := sound.exists_of_ruleSet h h'
        · exact .inr ⟨rfl, if_pos rfl⟩
        · rw [if_neg fun eq => ne (sound.apart service other entry later h before eq)]
          exact sound.once other later before

theorem step (sound : Sound registry) (call : Call) : Sound (registry.step call) :=
  match call with
  | .register service loader => sound.register service loader
  | .ruleSet service => sound.ruleSet service
  | .contains _ => sound

theorem run (sound : Sound registry) (calls : List Call) : Sound (registry.run calls) := by
  induction calls generalizing registry with
  | nil => exact sound
  | cons call rest ih => exact ih (sound.step call)

end Sound

section

variable {registry : Registry} {service : String} {entry : Registration}

/-- The number belongs to a registration that is not in force any more. -/
def Retired (registry : Registry) (number : Nat) : Prop :=
  number < registry.registrations ∧
    ∀ service entry, registry.services.get? service = some entry → entry.number ≠ number

theorem Retired.step {number : Nat} (sound : Sound registry) (retired : registry.Retired number)
    (call : Call) :
    (registry.step call).Retired number ∧
      (registry.step call).loads.count number = registry.loads.count number := by
  obtain ⟨given, unheld⟩ := retired
  cases call with
  | register service loader =>
      refine ⟨⟨Nat.lt_succ_of_lt given, fun other entry h => ?_⟩, rfl⟩
      rw [Registry.step, get?_register] at h
      split at h
      · cases h
        exact Nat.ne_of_gt given
      · exact unheld other entry h
  | contains service => exact ⟨⟨given, unheld⟩, rfl⟩
  | ruleSet service =>
      cases h : registry.services.get? service with
      | none =>
          rw [Registry.step, ruleSet_of_get?_eq_none h]
          exact ⟨⟨given, unheld⟩, rfl⟩
      | some entry =>
          obtain ⟨-, services, registrations, loads⟩ := sound.ruleSet_of_get?_eq_some h
          have ne := unheld service entry h
          refine ⟨⟨registrations ▸ given, fun other later h' => ?_⟩, ?_⟩
          · rw [Registry.step, services] at h'
            split at h'
            · cases h'
              exact ne
            · exact unheld other later h'
          · rw [Registry.step, loads, if_neg ne]

end

end EndpointResolution.Registry
