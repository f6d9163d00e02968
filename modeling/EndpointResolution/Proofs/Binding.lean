import EndpointResolution.Proofs.Results
import EndpointResolution.RuleSet

/-!
What binding makes of the parameters supplied. Each declared name gets one value, and that value
depends on nothing but what is supplied under the name, where absence is the same as no supply.
Hence resolution cannot see undeclared names, and it starts from the same environment if it is
given the bound environment once more.
-/

namespace EndpointResolution

/-- What is supplied under a name; a binding to absence supplies nothing. -/
def Environment.set? (environment : Environment) (name : String) : Option Value :=
  (environment.get? name).filter (!·.isNone)

namespace Parameter

theorem valueFor_eq (parameter : Parameter) (supplied : Option Value) :
    parameter.valueFor supplied =
      (supplied.filter (!·.isNone)).getD (parameter.default.getD .none) := by
  cases supplied with
  | none => rfl
  | some value => cases value <;> rfl

/-- A value that a parameter has taken is taken again when it is supplied. -/
theorem valueFor_some_valueFor (parameter : Parameter) (supplied : Option Value) :
    parameter.valueFor (some (parameter.valueFor supplied)) = parameter.valueFor supplied := by
  cases taken : parameter.valueFor supplied with
  | none =>
      -- Only a parameter without a default is absent, and then it is absent once more.
      cases supplied with
      | none => exact taken
      | some value =>
          cases value with
          | none => exact taken
          | boolean _ | integer _ | string _ | array _ | record _ | endpoint _ _ _ => cases taken
  | boolean _ | integer _ | string _ | array _ | record _ | endpoint _ _ _ => rfl

theorem eq_valueFor_of_bind {name : String} {parameter : Parameter} {supplied : Option Value}
    {value : Value} (h : parameter.bind name supplied = .ok value) :
    value = parameter.valueFor supplied := by
  rw [bind] at h
  split at h
  · cases h
  · obtain ⟨_, -, taken⟩ := Result.bind_eq_ok_iff.mp h
    cases taken
    rfl

theorem bind_congr {parameter : Parameter} {supplied supplied' : Option Value} (name : String)
    (same : parameter.valueFor supplied = parameter.valueFor supplied') :
    parameter.bind name supplied = parameter.bind name supplied' := by
  simp only [bind, same]

end Parameter

namespace Parameters

variable {parameters : Parameters} {supplied supplied' environment : Environment}

theorem bindAll_congr {declarations : List (String × Parameter)}
    (same : ∀ declaration ∈ declarations,
      declaration.2.valueFor (supplied.get? declaration.1) =
        declaration.2.valueFor (supplied'.get? declaration.1)) :
    bindAll supplied declarations = bindAll supplied' declarations := by
  induction declarations with
  | nil => rfl
  | cons declaration rest ih =>
      obtain ⟨name, parameter⟩ := declaration
      have first := Parameter.bind_congr name (same (name, parameter) (by simp))
      have others := ih fun other member => same other (by simp [member])
      simp only [bindAll, first, others]

theorem bindAll_eq {declarations : List (String × Parameter)} {bindings : List (String × Value)}
    (h : bindAll supplied declarations = .ok bindings) :
    bindings = declarations.map fun declaration =>
      (declaration.1, declaration.2.valueFor (supplied.get? declaration.1)) := by
  induction declarations generalizing bindings with
  | nil => cases h; rfl
  | cons declaration rest ih =>
      obtain ⟨name, parameter⟩ := declaration
      rw [bindAll] at h
      obtain ⟨value, more, first, others, rfl⟩ := Result.both_eq_ok_iff.mp h
      rw [ih others, Parameter.eq_valueFor_of_bind first, List.map_cons]

/-- Binding depends on the values that the declared parameters take. -/
theorem bind_congr (same : ∀ name parameter, parameters.get? name = some parameter →
      parameter.valueFor (supplied.get? name) = parameter.valueFor (supplied'.get? name)) :
    parameters.bind supplied = parameters.bind supplied' := by
  have each : bindAll supplied parameters.entries = bindAll supplied' parameters.entries := by
    apply bindAll_congr
    rintro ⟨name, parameter⟩ member
    exact same name parameter (Assoc.find?_of_mem (Assoc.Sorted.nodup parameters.sorted) member)
  simp only [bind, each]

/-- A bound environment gives each declared name the value that its parameter takes, and no
other name a value. -/
theorem get?_of_bind (bound : parameters.bind supplied = .ok environment) (name : String) :
    environment.get? name =
      (parameters.get? name).map fun parameter => parameter.valueFor (supplied.get? name) := by
  obtain ⟨bindings, each, whole⟩ := Result.bind_eq_ok_iff.mp bound
  cases whole
  have values := bindAll_eq each
  have sorted : Assoc.Sorted bindings := by
    rw [values]
    exact Assoc.sorted_map _ parameters.sorted
  calc (Dict.ofList bindings).get? name
      = Assoc.find? name bindings := by rw [Dict.ofList_of_sorted sorted]; rfl
    _ = _ := by
      rw [values]
      exact Assoc.find?_map (fun key (parameter : Parameter) =>
        parameter.valueFor (supplied.get? key)) name parameters.entries

theorem contains_of_bind (bound : parameters.bind supplied = .ok environment) (name : String) :
    environment.contains name = parameters.contains name := by
  rw [Dict.contains, Dict.contains, get?_of_bind bound, Option.isSome_map]

/-- What has been bound is bound to the same when it is supplied. -/
theorem bind_of_bind (bound : parameters.bind supplied = .ok environment) :
    parameters.bind environment = .ok environment := by
  rw [← bound]
  apply bind_congr
  intro name parameter declared
  rw [get?_of_bind bound, declared, Option.map_some]
  exact parameter.valueFor_some_valueFor _

/-- Binding depends on what is set under declared names. -/
theorem bind_congr_of_set?
    (agree : ∀ name, parameters.contains name → supplied.set? name = supplied'.set? name) :
    parameters.bind supplied = parameters.bind supplied' := by
  apply bind_congr
  intro name parameter declared
  have same := agree name (by simp [Dict.contains, declared])
  rw [Parameter.valueFor_eq, Parameter.valueFor_eq]
  exact congrArg (fun set => set.getD (parameter.default.getD .none)) same

end Parameters

namespace RuleSet

/-- Resolution depends on what is set under declared names: not on other names, and not on whether
a name is bound to absence or not at all. The environment that it evaluates the rules in has the
declared names exactly and can be supplied in place of the parameters. -/
theorem resolve_depends_on_declared (ruleSet : RuleSet) :
    (∀ supplied supplied' : Environment,
      (∀ name, ruleSet.parameters.contains name → supplied.set? name = supplied'.set? name) →
        ruleSet.resolve supplied = ruleSet.resolve supplied' ∧
          ruleSet.resolveTraced supplied = ruleSet.resolveTraced supplied') ∧
    ∀ supplied environment, ruleSet.parameters.bind supplied = .ok environment →
      (∀ name, environment.contains name = ruleSet.parameters.contains name) ∧
        ruleSet.parameters.bind environment = .ok environment ∧
        ruleSet.resolve supplied = ruleSet.resolve environment ∧
        ruleSet.resolve environment = Rule.evaluate ruleSet.rules environment := by
  constructor
  · intro supplied supplied' agree
    have same := Parameters.bind_congr_of_set? agree
    constructor
    · rw [resolve, resolve, same]
    · rw [resolveTraced, resolveTraced, resolveWatched, resolveWatched, same]
  · intro supplied environment bound
    have again := Parameters.bind_of_bind bound
    refine ⟨Parameters.contains_of_bind bound, again, ?_, ?_⟩
    · rw [resolve, resolve, bound, again]
    · rw [resolve, again]
      rfl

/-- A rule set that reports its region, which has a default. -/
def reportsRegionOrDefault : RuleSet where
  version := "1.0"
  parameters := .ofList [("Region", { type := .string, default := some (.string "main") })]
  rules := [⟨[], .error (.reference "Region"), none⟩]

/-- An undeclared name and a region that is bound to absence are no different from nothing, and the
default is not applied anew to the bound region. -/
theorem resolve_depends_on_declared_reportsRegionOrDefault :
    let supplied : Environment := .ofList [("Other", .boolean true), ("Region", .none)]
    let bound : Environment := .ofList [("Region", .string "main")]
    reportsRegionOrDefault.resolveTraced supplied = reportsRegionOrDefault.resolveTraced ∅ ∧
      reportsRegionOrDefault.resolve supplied =
        Rule.evaluate reportsRegionOrDefault.rules bound ∧
      reportsRegionOrDefault.resolve supplied = .error (.ruleDefined "main") := by
  intro supplied bound
  obtain ⟨agree, rebind⟩ := resolve_depends_on_declared reportsRegionOrDefault
  have binds : reportsRegionOrDefault.parameters.bind supplied = .ok bound := rfl
  obtain ⟨-, -, once, again⟩ := rebind supplied bound binds
  refine ⟨(agree supplied ∅ ?_).2, once.trans again, rfl⟩
  intro name declared
  by_cases region : "Region" = name
  · subst region
    rfl
  · simp [reportsRegionOrDefault, Dict.contains, Dict.get?, Dict.ofList, Assoc.ofList,
      Assoc.insert, Assoc.find?, region] at declared

end RuleSet

end EndpointResolution
