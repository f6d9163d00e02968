import EndpointResolution.Resolver

/-!
What becomes of an invocation behind any number of attempts to resolve its endpoint. An attempt
either stores an endpoint or changes nothing: it stores what its provider answers, returns the
error of a provider that refuses, and does not ask at all if a host is known. So the endpoint that
is stored is the one of the latest attempt that succeeded.
-/

namespace EndpointResolution

/-- An attempt to resolve the endpoint of an invocation. -/
structure Attempt (σ : Type) where
  provider : Provider σ
  bindings : List Binding
  request : Request

/-- An invocation between two attempts, with the state that the providers share. -/
structure Situation (σ : Type) where
  invocation : Invocation
  state : σ

namespace Attempt

variable {σ : Type}

def parameters (attempt : Attempt σ) (invocation : Invocation) : Environment :=
  Binding.assemble attempt.bindings invocation attempt.request

/-- What the provider answers if it is asked. -/
def answer (attempt : Attempt σ) (now : Situation σ) : Result Endpoint × σ :=
  attempt.provider (attempt.parameters now.invocation) now.state

def run (attempt : Attempt σ) (now : Situation σ) : Result Unit × Situation σ :=
  let (result, invocation, state) :=
    now.invocation.consult attempt.provider (attempt.parameters now.invocation) now.state
  (result, ⟨invocation, state⟩)

/-- The situation behind attempts, one after the other. -/
def after (attempts : List (Attempt σ)) (start : Situation σ) : Situation σ :=
  attempts.foldl (fun now attempt => (attempt.run now).2) start

/-- The provider is asked, and answers with the endpoint. -/
def Succeeds (attempt : Attempt σ) (now : Situation σ) (endpoint : Endpoint) : Prop :=
  now.invocation.discovered = false ∧ (attempt.answer now).1 = .ok endpoint

/-- The attempt at the position succeeds behind those in front of it. -/
def SucceedsAt (attempts : List (Attempt σ)) (start : Situation σ) (position : Nat)
    (endpoint : Endpoint) : Prop :=
  ∃ attempt, attempts[position]? = some attempt ∧
    attempt.Succeeds (after (attempts.take position) start) endpoint

/-- The endpoint is the one of the latest attempt that succeeds. -/
def Latest (attempts : List (Attempt σ)) (start : Situation σ) (endpoint : Endpoint) : Prop :=
  ∃ position, SucceedsAt attempts start position endpoint ∧
    ∀ later other, position < later → ¬ SucceedsAt attempts start later other

def NoneSucceeds (attempts : List (Attempt σ)) (start : Situation σ) : Prop :=
  ∀ position endpoint, ¬ SucceedsAt attempts start position endpoint

end Attempt

/-- An attempt of a resolver, whose provider keeps no state. -/
def Resolver.attempt {σ : Type} (resolver : Resolver) (request : Request) : Attempt σ :=
  ⟨.stateless resolver.provider, resolver.bindings, request⟩

namespace Attempt

variable {σ : Type} {attempt : Attempt σ} {attempts : List (Attempt σ)} {now start : Situation σ}

theorem run_of_discovered (attempt : Attempt σ) (h : now.invocation.discovered = true) :
    attempt.run now = (.ok (), now) := by
  simp only [run, Invocation.consult, h, if_true]

theorem run_of_ok {endpoint : Endpoint} {state : σ} (h : now.invocation.discovered = false)
    (answered : attempt.answer now = (.ok endpoint, state)) :
    attempt.run now = (.ok (), ⟨{ now.invocation with resolved := some endpoint }, state⟩) := by
  rw [answer] at answered
  simp only [run, Invocation.consult, h, answered, Bool.false_eq_true, if_false]

theorem run_of_error {e : Error} {state : σ} (h : now.invocation.discovered = false)
    (refused : attempt.answer now = (.error e, state)) :
    attempt.run now = (.error e, ⟨now.invocation, state⟩) := by
  rw [answer] at refused
  simp only [run, Invocation.consult, h, refused, Bool.false_eq_true, if_false]

/-- All that an attempt can do: nothing, or store what it is answered, or return the refusal. -/
theorem run_cases (attempt : Attempt σ) (now : Situation σ) :
    (now.invocation.discovered = true ∧ attempt.run now = (.ok (), now)) ∨
    (∃ endpoint state, attempt.Succeeds now endpoint ∧
      attempt.run now = (.ok (), ⟨{ now.invocation with resolved := some endpoint }, state⟩)) ∨
    ∃ e state, (∀ endpoint, ¬ attempt.Succeeds now endpoint) ∧
      attempt.run now = (.error e, ⟨now.invocation, state⟩) := by
  cases known : now.invocation.discovered with
  | true => exact .inl ⟨rfl, attempt.run_of_discovered known⟩
  | false =>
      cases answered : attempt.answer now with
      | mk result state =>
          cases result with
          | ok endpoint =>
              have succeeds : attempt.Succeeds now endpoint := ⟨known, by rw [answered]⟩
              exact .inr (.inl ⟨endpoint, state, succeeds, run_of_ok known answered⟩)
          | error e =>
              refine .inr (.inr ⟨e, state, ?_, run_of_error known answered⟩)
              rintro endpoint ⟨-, succeeds⟩
              rw [answered] at succeeds
              cases succeeds

theorem not_succeeds_of_discovered (attempt : Attempt σ) (h : now.invocation.discovered = true)
    (endpoint : Endpoint) :
    ¬ attempt.Succeeds now endpoint := by
  rintro ⟨unknown, -⟩
  rw [h] at unknown
  cases unknown

theorem Succeeds.unique {endpoint other : Endpoint} (h : attempt.Succeeds now endpoint)
    (h' : attempt.Succeeds now other) : endpoint = other :=
  Except.ok.inj (h.2.symm.trans h'.2)

/-- An attempt changes nothing but the endpoint. -/
theorem run_keeps (attempt : Attempt σ) (now : Situation σ) :
    (attempt.run now).2.invocation.operation = now.invocation.operation ∧
      (attempt.run now).2.invocation.client = now.invocation.client ∧
      (attempt.run now).2.invocation.discovered = now.invocation.discovered := by
  rcases attempt.run_cases now with ⟨-, ran⟩ | ⟨endpoint, state, -, ran⟩ | ⟨e, state, -, ran⟩
  · simp only [ran, and_self]
  · simp only [ran, and_self]
  · simp only [ran, and_self]

/-- The endpoint behind an attempt is its own if it succeeds, and else the one before it. -/
theorem resolved_run_iff {endpoint : Endpoint} :
    (attempt.run now).2.invocation.resolved = some endpoint ↔
      attempt.Succeeds now endpoint ∨
        (∀ other, ¬ attempt.Succeeds now other) ∧ now.invocation.resolved = some endpoint := by
  rcases attempt.run_cases now with ⟨known, ran⟩ | ⟨own, state, succeeds, ran⟩ |
    ⟨e, state, refused, ran⟩
  · have silent := attempt.not_succeeds_of_discovered known
    simp [ran, silent]
  · simp only [ran, Option.some.injEq]
    constructor
    · rintro rfl
      exact .inl succeeds
    · rintro (same | ⟨silent, -⟩)
      · exact succeeds.unique same
      · exact absurd succeeds (silent own)
  · simp [ran, refused]

theorem resolved_run_eq_none_iff :
    (attempt.run now).2.invocation.resolved = none ↔
      (∀ endpoint, ¬ attempt.Succeeds now endpoint) ∧ now.invocation.resolved = none := by
  rcases attempt.run_cases now with ⟨known, ran⟩ | ⟨own, state, succeeds, ran⟩ |
    ⟨e, state, refused, ran⟩
  · have silent := attempt.not_succeeds_of_discovered known
    simp [ran, silent]
  · simp only [ran, reduceCtorEq, false_iff]
    exact fun h => h.1 own succeeds
  · simp [ran, refused]

theorem after_cons (attempt : Attempt σ) (rest : List (Attempt σ)) (start : Situation σ) :
    after (attempt :: rest) start = after rest (attempt.run start).2 := rfl

theorem after_keeps (attempts : List (Attempt σ)) (start : Situation σ) :
    (after attempts start).invocation.operation = start.invocation.operation ∧
      (after attempts start).invocation.client = start.invocation.client ∧
      (after attempts start).invocation.discovered = start.invocation.discovered := by
  induction attempts generalizing start with
  | nil => exact ⟨rfl, rfl, rfl⟩
  | cons attempt rest ih =>
      obtain ⟨operation, client, discovered⟩ := attempt.run_keeps start
      obtain ⟨operation', client', discovered'⟩ := ih (attempt.run start).2
      exact ⟨operation'.trans operation, client'.trans client, discovered'.trans discovered⟩

theorem after_of_discovered (attempts : List (Attempt σ))
    (h : start.invocation.discovered = true) : after attempts start = start := by
  induction attempts with
  | nil => rfl
  | cons attempt rest ih => rw [after_cons, attempt.run_of_discovered h, ih]

theorem succeedsAt_cons_zero {endpoint : Endpoint} :
    SucceedsAt (attempt :: attempts) start 0 endpoint ↔ attempt.Succeeds start endpoint := by
  simp [SucceedsAt, after]

theorem succeedsAt_cons_succ {position : Nat} {endpoint : Endpoint} :
    SucceedsAt (attempt :: attempts) start (position + 1) endpoint ↔
      SucceedsAt attempts (attempt.run start).2 position endpoint := by
  simp [SucceedsAt, after_cons]

theorem noneSucceeds_cons_iff :
    NoneSucceeds (attempt :: attempts) start ↔
      (∀ endpoint, ¬ attempt.Succeeds start endpoint) ∧
        NoneSucceeds attempts (attempt.run start).2 := by
  constructor
  · intro silent
    exact ⟨fun endpoint own => silent 0 endpoint (succeedsAt_cons_zero.mpr own),
      fun position endpoint later => silent (position + 1) endpoint (succeedsAt_cons_succ.mpr later)⟩
  · rintro ⟨first, others⟩ (_ | position) endpoint succeeds
    · exact first endpoint (succeedsAt_cons_zero.mp succeeds)
    · exact others position endpoint (succeedsAt_cons_succ.mp succeeds)

/-- The first attempt is the latest that succeeds if none behind it does. -/
theorem latest_cons_iff {endpoint : Endpoint} :
    Latest (attempt :: attempts) start endpoint ↔
      Latest attempts (attempt.run start).2 endpoint ∨
        NoneSucceeds attempts (attempt.run start).2 ∧ attempt.Succeeds start endpoint := by
  constructor
  · rintro ⟨_ | position, succeeds, latest⟩
    · refine .inr ⟨fun later other h => ?_, succeedsAt_cons_zero.mp succeeds⟩
      exact latest (later + 1) other (Nat.zero_lt_succ later) (succeedsAt_cons_succ.mpr h)
    · refine .inl ⟨position, succeedsAt_cons_succ.mp succeeds, fun later other behind h => ?_⟩
      exact latest (later + 1) other (Nat.succ_lt_succ behind) (succeedsAt_cons_succ.mpr h)
  · rintro (⟨position, succeeds, latest⟩ | ⟨silent, succeeds⟩)
    · refine ⟨position + 1, succeedsAt_cons_succ.mpr succeeds, ?_⟩
      rintro (_ | later) other behind h
      · cases behind
      · exact latest later other (Nat.lt_of_succ_lt_succ behind) (succeedsAt_cons_succ.mp h)
    · refine ⟨0, succeedsAt_cons_zero.mpr succeeds, ?_⟩
      rintro (_ | later) other behind h
      · cases behind
      · exact silent later other (succeedsAt_cons_succ.mp h)

/-- The endpoint behind attempts is the one of the latest that succeeds, and the one in front of them
if none does. -/
theorem resolved_after_iff {endpoint : Endpoint} :
    (after attempts start).invocation.resolved = some endpoint ↔
      Latest attempts start endpoint ∨
        NoneSucceeds attempts start ∧ start.invocation.resolved = some endpoint := by
  induction attempts generalizing start with
  | nil => simp [after, Latest, NoneSucceeds, SucceedsAt]
  | cons attempt rest ih =>
      rw [after_cons, ih, resolved_run_iff, latest_cons_iff, noneSucceeds_cons_iff, and_or_left,
        or_assoc, and_left_comm, and_assoc]

theorem resolved_after_eq_none_iff :
    (after attempts start).invocation.resolved = none ↔
      NoneSucceeds attempts start ∧ start.invocation.resolved = none := by
  induction attempts generalizing start with
  | nil => simp [after, NoneSucceeds, SucceedsAt]
  | cons attempt rest ih =>
      rw [after_cons, ih, resolved_run_eq_none_iff, noneSucceeds_cons_iff, and_left_comm, and_assoc]

/-- Parameters follow from the operation and the client alone. -/
theorem parameters_congr (attempt : Attempt σ) {invocation other : Invocation}
    (operation : invocation.operation = other.operation)
    (client : invocation.client = other.client) :
    attempt.parameters invocation = attempt.parameters other := by
  have pairs : Binding.pair? invocation attempt.request = Binding.pair? other attempt.request := by
    funext binding
    simp only [Binding.pair?, Binding.value?, operation, client]
  have entries : Binding.layerEntries invocation attempt.request attempt.bindings =
      Binding.layerEntries other attempt.request attempt.bindings := by
    funext layer
    simp only [Binding.layerEntries, pairs]
  simp only [parameters, Binding.assemble, entries]

theorem run_attempt (resolver : Resolver) (request : Request) (now : Situation σ) :
    (resolver.attempt request : Attempt σ).run now =
      ((resolver.run request now.invocation).1,
        ⟨(resolver.run request now.invocation).2, now.state⟩) := by
  simp only [run, Resolver.run, Invocation.consult, Resolver.attempt, Provider.stateless,
    parameters, Resolver.parameters]
  cases now.invocation.discovered with
  | true => rfl
  | false =>
      cases resolver.provider
        (Binding.assemble resolver.bindings now.invocation request) <;> rfl

/-- Behind any attempts an invocation has the operation, the client and the flag that it started
with. A further attempt that succeeds stores its endpoint; one whose provider refuses returns the
refusal and changes nothing; and if a host is known, every attempt passes, changes nothing and does
not reach its provider. So the endpoint is the one of the latest attempt that has succeeded, and the
one at the start if none has. An attempt of a resolver is a run of it, and if it asks a rule set, it
succeeds with what the rule set resolves the parameters to. -/
theorem invocation_follows_attempts (start : Situation σ) (attempts : List (Attempt σ)) :
    let now := after attempts start
    (now.invocation.operation = start.invocation.operation ∧
      now.invocation.client = start.invocation.client ∧
      now.invocation.discovered = start.invocation.discovered) ∧
    (∀ (attempt : Attempt σ) endpoint, attempt.Succeeds now endpoint →
      (attempt.run now).1 = .ok () ∧
        (attempt.run now).2.invocation = { now.invocation with resolved := some endpoint }) ∧
    (∀ (attempt : Attempt σ) e, now.invocation.discovered = false →
      (attempt.answer now).1 = .error e →
        (attempt.run now).1 = .error e ∧ (attempt.run now).2.invocation = now.invocation) ∧
    (start.invocation.discovered = true →
      now = start ∧ ∀ attempt : Attempt σ, attempt.run now = (.ok (), now)) ∧
    (∀ endpoint, now.invocation.resolved = some endpoint ↔
      Latest attempts start endpoint ∨
        NoneSucceeds attempts start ∧ start.invocation.resolved = some endpoint) ∧
    (now.invocation.resolved = none ↔
      NoneSucceeds attempts start ∧ start.invocation.resolved = none) ∧
    ∀ (resolver : Resolver) request,
      (resolver.attempt request : Attempt σ).run now =
        ((resolver.run request now.invocation).1,
          ⟨(resolver.run request now.invocation).2, now.state⟩) ∧
      ∀ ruleSet : RuleSet, resolver.provider = ruleSet.resolve → ∀ endpoint,
        (resolver.attempt request : Attempt σ).Succeeds now endpoint ↔
          start.invocation.discovered = false ∧
            ruleSet.resolve (resolver.parameters request start.invocation) = .ok endpoint := by
  intro now
  obtain ⟨operation, client, discovered⟩ := after_keeps attempts start
  refine ⟨⟨operation, client, discovered⟩, ?success, ?refusal, ?known,
    fun endpoint => resolved_after_iff, resolved_after_eq_none_iff, fun resolver request =>
      ⟨run_attempt resolver request now, ?ruleSet⟩⟩
  case success =>
    rintro attempt endpoint ⟨unknown, answered⟩
    rw [run_of_ok unknown (Prod.ext answered rfl)]
    exact ⟨rfl, rfl⟩
  case refusal =>
    intro attempt e unknown refused
    rw [run_of_error unknown (Prod.ext refused rfl)]
    exact ⟨rfl, rfl⟩
  case known =>
    intro known
    exact ⟨after_of_discovered attempts known,
      fun attempt => attempt.run_of_discovered (discovered.trans known)⟩
  case ruleSet =>
    intro ruleSet asks endpoint
    have same := (resolver.attempt request : Attempt σ).parameters_congr operation client
    rw [Succeeds, discovered, answer, same]
    simp only [Resolver.attempt, Provider.stateless, asks]
    rfl

/-- A provider that answers the first question only, and counts the questions. -/
theorem invocation_follows_attempts_of_one_answer :
    let found : Endpoint := { url := "https://a" }
    let once : Attempt Nat :=
      { provider := fun _ asked =>
          (if asked = 0 then .ok found else .error .noRuleMatched, asked + 1)
        bindings := []
        request := ∅ }
    let start : Situation Nat := ⟨{ operation := "Op", client := {} }, 0⟩
    let known : Situation Nat := ⟨{ start.invocation with discovered := true }, 0⟩
    let now := after [once] start
    once.Succeeds start found ∧ (once.run start).1 = .ok () ∧
      now.invocation.discovered = false ∧ (once.answer now).1 = .error .noRuleMatched ∧
      (once.run now).1 = .error .noRuleMatched ∧
      (once.run now).2.invocation = { start.invocation with resolved := some found } ∧
      (once.run now).2.state = 2 ∧
      known.invocation.discovered = true ∧ once.run (after [once] known) = (.ok (), known) := by
  intro found once start known now
  obtain ⟨-, success, -⟩ := invocation_follows_attempts start []
  obtain ⟨-, -, refusal, -⟩ := invocation_follows_attempts start [once]
  obtain ⟨-, -, -, skip, -⟩ := invocation_follows_attempts known [once]
  have succeeds : once.Succeeds start found := ⟨rfl, rfl⟩
  have refused : (once.answer now).1 = .error .noRuleMatched := rfl
  obtain ⟨result, unchanged⟩ := refusal once _ rfl refused
  obtain ⟨same, passes⟩ := skip rfl
  refine ⟨succeeds, (success once found succeeds).1, rfl, refused, result, unchanged, rfl, rfl, ?_⟩
  rw [passes once, same]

end Attempt

end EndpointResolution
