import EndpointResolution.Resolver

/-!
Which value a parameter of an invocation takes. Every source has at most one value in an
invocation, and of the sources that a parameter is bound to the highest layer with a value decides,
by the last of its sources that has one. A source of another operation has no value, and neither
has a member or a client that does not set one; absence that is set is a value.
-/

namespace EndpointResolution

/-- The value that a source has for a parameter. A client has its region and its endpoint where
they are set, its flags always, and other built-in values never; what is bound for an operation
has values in its invocations only. -/
inductive Source.Has (invocation : Invocation) (request : Request) (parameter : String) :
    Source → Value → Prop
  | region {text : String} (set : invocation.client.region = some text) :
      Has invocation request parameter (.builtIn .region) (.string text)
  | endpoint {text : String} (set : invocation.client.endpoint = some text) :
      Has invocation request parameter (.builtIn .endpoint) (.string text)
  | useFIPS :
      Has invocation request parameter (.builtIn .useFIPS) (.boolean invocation.client.useFIPS)
  | useDualStack :
      Has invocation request parameter (.builtIn .useDualStack)
        (.boolean invocation.client.useDualStack)
  | fixed (value : Value) :
      Has invocation request parameter (.fixed invocation.operation value) value
  | member {name : String} {value : Value} (present : request.get? name = some value) :
      Has invocation request parameter (.member invocation.operation name) value
  | client {value : Value} (present : invocation.client.context.get? parameter = some value) :
      Has invocation request parameter .client value

/-- Whether a source may have values in invocations of the operation. -/
def Source.isFor (operation : String) : Source → Bool
  | .fixed own _ | .member own _ => own = operation
  | .builtIn _ | .client => true

/-- The layers that come before a layer. -/
def Layer.above : Layer → List Layer
  | .builtIn => [.fixed, .member, .client]
  | .fixed => [.member, .client]
  | .member => [.client]
  | .client => []

/-- The sources that a parameter is bound to, in order. -/
def Binding.sources (parameter : String) (bindings : List Binding) : List Source :=
  (bindings.filter (·.parameter = parameter)).map (·.source)

section

variable (invocation : Invocation) (request : Request) (parameter : String)

/-- No source in the layer has a value. -/
def Silent (sources : List Source) (layer : Layer) : Prop :=
  ∀ source ∈ sources, source.layer = layer →
    ∀ value, ¬ source.Has invocation request parameter value

/-- The last source in the layer that has a value has this one. -/
def Decides (sources : List Source) (layer : Layer) (value : Value) : Prop :=
  ∃ earlier source later, sources = earlier ++ source :: later ∧ source.layer = layer ∧
    source.Has invocation request parameter value ∧
    Silent invocation request parameter later layer

end

section

variable {invocation : Invocation} {request : Request} {parameter : String}

theorem Source.Has.isFor {source : Source} {value : Value}
    (h : source.Has invocation request parameter value) :
    source.isFor invocation.operation = true := by
  cases h with
  | region _ | endpoint _ | useFIPS | useDualStack | client _ => rfl
  | fixed _ | member _ => simp [Source.isFor]

theorem silent_cons_iff {source : Source} {rest : List Source} {layer : Layer} :
    Silent invocation request parameter (source :: rest) layer ↔
      (source.layer = layer → ∀ value, ¬ source.Has invocation request parameter value) ∧
        Silent invocation request parameter rest layer :=
  List.forall_mem_cons

/-- The first source decides if it has a value and none of its layer behind it has one. -/
theorem decides_cons_iff {source : Source} {rest : List Source} {layer : Layer} {value : Value} :
    Decides invocation request parameter (source :: rest) layer value ↔
      Decides invocation request parameter rest layer value ∨
        (Silent invocation request parameter rest layer ∧ source.layer = layer ∧
          source.Has invocation request parameter value) := by
  constructor
  · rintro ⟨earlier, own, later, split, inLayer, has, silent⟩
    rcases List.cons_eq_append_iff.mp split with ⟨rfl, here⟩ | ⟨front, rfl, behind⟩
    · cases here
      exact .inr ⟨silent, inLayer, has⟩
    · exact .inl ⟨front, own, later, behind, inLayer, has, silent⟩
  · rintro (⟨earlier, own, later, rfl, inLayer, has, silent⟩ | ⟨silent, inLayer, has⟩)
    · exact ⟨source :: earlier, own, later, rfl, inLayer, has, silent⟩
    · exact ⟨[], source, rest, rfl, inLayer, has, silent⟩

namespace Binding

theorem value?_eq_some_iff {binding : Binding} {value : Value} :
    binding.value? invocation request = some value ↔
      binding.source.Has invocation request binding.parameter value := by
  obtain ⟨own, source⟩ := binding
  constructor
  · intro supplied
    cases source with
    | builtIn builtIn =>
        cases builtIn with
        | region =>
            obtain ⟨text, set, rfl⟩ := Option.map_eq_some_iff.mp supplied
            exact .region set
        | endpoint =>
            obtain ⟨text, set, rfl⟩ := Option.map_eq_some_iff.mp supplied
            exact .endpoint set
        | useFIPS =>
            cases supplied
            exact .useFIPS
        | useDualStack =>
            cases supplied
            exact .useDualStack
        | other name => cases supplied
    | fixed operation own =>
        obtain ⟨rfl, same⟩ := Option.ite_none_right_eq_some.mp supplied
        cases same
        exact .fixed value
    | member operation name =>
        obtain ⟨rfl, present⟩ := Option.ite_none_right_eq_some.mp supplied
        exact .member present
    | client => exact .client supplied
  · intro has
    cases has with
    | region set | endpoint set => simp [value?, Client.builtIn?, set]
    | useFIPS | useDualStack => rfl
    | fixed value => simp [value?]
    | member present => simpa [value?] using present
    | client present => exact present

theorem value?_eq_none_iff {binding : Binding} :
    binding.value? invocation request = none ↔
      ∀ value, ¬ binding.source.Has invocation request binding.parameter value := by
  simp [Option.eq_none_iff_forall_ne_some, value?_eq_some_iff]

/-- What the layer supplies last for the parameter. -/
def supplied? (invocation : Invocation) (request : Request) (parameter : String)
    (bindings : List Binding) (layer : Layer) : Option Value :=
  Assoc.find? parameter (layerEntries invocation request bindings layer).reverse

theorem supplied?_cons (binding : Binding) (rest : List Binding) (layer : Layer) :
    supplied? invocation request parameter (binding :: rest) layer =
      (supplied? invocation request parameter rest layer).or
        (if binding.source.layer = layer ∧ binding.parameter = parameter then
          binding.value? invocation request else none) := by
  by_cases inLayer : binding.source.layer = layer
  · cases value : binding.value? invocation request with
    | none => simp [supplied?, layerEntries, inLayer, pair?, value]
    | some value =>
        simp [supplied?, layerEntries, inLayer, pair?, value, Assoc.find?_append, Assoc.find?]
  · simp [supplied?, layerEntries, inLayer]

/-- A layer supplies the value that its sources decide on, and none if they are silent. -/
theorem supplied?_cases (bindings : List Binding) (layer : Layer) :
    (∀ value, supplied? invocation request parameter bindings layer = some value ↔
      Decides invocation request parameter (sources parameter bindings) layer value) ∧
    (supplied? invocation request parameter bindings layer = none ↔
      Silent invocation request parameter (sources parameter bindings) layer) := by
  induction bindings with
  | nil =>
      refine ⟨fun value => iff_of_false (by simp [supplied?, layerEntries, Assoc.find?]) ?_,
        iff_of_true rfl (by simp [Silent, sources])⟩
      rintro ⟨earlier, source, later, split, -⟩
      simp [sources] at split
  | cons binding rest ih =>
      rw [supplied?_cons]
      by_cases own : binding.parameter = parameter
      · subst own
        have behind : sources binding.parameter (binding :: rest) =
            binding.source :: sources binding.parameter rest := by simp [sources]
        simp only [behind, and_true, Option.or_eq_some_iff, Option.or_eq_none_iff, ih,
          decides_cons_iff, silent_cons_iff, Option.ite_none_right_eq_some, value?_eq_some_iff,
          implies_true, true_and]
        rw [and_comm, ← value?_eq_none_iff, ite_eq_right_iff]
      · have behind : sources parameter (binding :: rest) = sources parameter rest := by
          simp [sources, own]
        simpa [behind, own] using ih

/-- The highest layer that supplies a value comes first. -/
theorem get?_assemble (bindings : List Binding) :
    (assemble bindings invocation request).get? parameter =
      (supplied? invocation request parameter bindings .client).or
        ((supplied? invocation request parameter bindings .member).or
          ((supplied? invocation request parameter bindings .fixed).or
            (supplied? invocation request parameter bindings .builtIn))) := by
  simp [assemble, Dict.get?_ofList, Layer.all, supplied?, Assoc.find?_append]

/-- The value is the one that the highest layer decides on that is not silent. -/
theorem get?_assemble_eq_some_iff {bindings : List Binding} {value : Value} :
    (assemble bindings invocation request).get? parameter = some value ↔
      ∃ layer, Decides invocation request parameter (sources parameter bindings) layer value ∧
        ∀ higher ∈ layer.above,
          Silent invocation request parameter (sources parameter bindings) higher := by
  simp only [get?_assemble, Option.or_eq_some_iff, supplied?_cases]
  constructor
  · rintro (client | ⟨noClient, member | ⟨noMember, fixed | ⟨noFixed, builtIn⟩⟩⟩)
    · exact ⟨.client, client, by simp [Layer.above]⟩
    · exact ⟨.member, member, by simp [Layer.above, noClient]⟩
    · exact ⟨.fixed, fixed, by simp [Layer.above, noMember, noClient]⟩
    · exact ⟨.builtIn, builtIn, by simp [Layer.above, noFixed, noMember, noClient]⟩
  · rintro ⟨layer, decides, silent⟩
    cases layer with
    | client => exact .inl decides
    | member =>
        simp only [Layer.above, List.forall_mem_cons] at silent
        obtain ⟨noClient, -⟩ := silent
        exact .inr ⟨noClient, .inl decides⟩
    | fixed =>
        simp only [Layer.above, List.forall_mem_cons] at silent
        obtain ⟨noMember, noClient, -⟩ := silent
        exact .inr ⟨noClient, .inr ⟨noMember, .inl decides⟩⟩
    | builtIn =>
        simp only [Layer.above, List.forall_mem_cons] at silent
        obtain ⟨noFixed, noMember, noClient, -⟩ := silent
        exact .inr ⟨noClient, .inr ⟨noMember, .inr ⟨noFixed, decides⟩⟩⟩

theorem get?_assemble_eq_none_iff {bindings : List Binding} :
    (assemble bindings invocation request).get? parameter = none ↔
      ∀ layer, Silent invocation request parameter (sources parameter bindings) layer := by
  simp only [get?_assemble, Option.or_eq_none_iff, supplied?_cases]
  constructor
  · rintro ⟨client, member, fixed, builtIn⟩ (_ | _ | _ | _)
    · exact builtIn
    · exact fixed
    · exact member
    · exact client
  · exact fun silent => ⟨silent .client, silent .member, silent .fixed, silent .builtIn⟩

theorem pair?_eq_none_of_isFor {binding : Binding}
    (other : binding.source.isFor invocation.operation = false) :
    pair? invocation request binding = none := by
  have silent : binding.value? invocation request = none := by
    refine value?_eq_none_iff.mpr fun value has => ?_
    rw [has.isFor] at other
    cases other
  rw [pair?, silent, Option.map_none]

/-- Sources of other operations supply nothing. -/
theorem assemble_filter_isFor (bindings : List Binding) :
    assemble (bindings.filter (·.source.isFor invocation.operation)) invocation request =
      assemble bindings invocation request := by
  have same (layer : Layer) :
      layerEntries invocation request (bindings.filter (·.source.isFor invocation.operation))
          layer =
        layerEntries invocation request bindings layer := by
    simp only [layerEntries, List.filterMap_filter]
    apply congrArg (List.filterMap · bindings)
    funext binding
    cases own : binding.source.isFor invocation.operation with
    | true => rfl
    | false => simp [pair?_eq_none_of_isFor own]
  simp only [assemble, funext same]

theorem sources_append (bindings others : List Binding) :
    sources parameter (bindings ++ others) =
      sources parameter bindings ++ sources parameter others := by
  simp [sources]

/-- Declarations bind each parameter to at most one built-in value. -/
theorem sources_ofParameters (parameters : Parameters) :
    sources parameter (ofParameters parameters) =
      ((parameters.get? parameter).bind (·.builtIn)).toList.map .builtIn := by
  obtain ⟨entries, sorted⟩ := parameters
  have single := Assoc.Sorted.nodup sorted
  simp only [sources, ofParameters, Parameters.builtIns, Dict.get?]
  clear sorted
  induction entries with
  | nil => rfl
  | cons declaration rest ih =>
      obtain ⟨name, own⟩ := declaration
      rw [List.map_cons, List.nodup_cons] at single
      have behind := ih single.2
      by_cases same : name = parameter
      · subst same
        rw [Assoc.find?_eq_none_iff.mpr single.1] at behind
        cases builtIn : own.builtIn with
        | none => simpa [Assoc.find?, builtIn] using behind
        | some builtIn => simpa [Assoc.find?, builtIn] using behind
      · cases builtIn : own.builtIn with
        | none => simpa [Assoc.find?, builtIn, same] using behind
        | some builtIn => simpa [Assoc.find?, builtIn, same] using behind

end Binding

end

/-- A parameter takes the value on which its sources decide in the highest layer that is not silent,
and none if all layers are. What is bound for other operations makes no difference, and a rule set
binds the parameters that it declares with a built-in value in front of the others. -/
theorem Resolver.parameters_follow_layers (resolver : Resolver) (request : Request)
    (invocation : Invocation) (parameter : String) :
    let sources := Binding.sources parameter resolver.bindings
    let environment := resolver.parameters request invocation
    (∀ value, environment.get? parameter = some value ↔
      ∃ layer, Decides invocation request parameter sources layer value ∧
        ∀ higher ∈ layer.above, Silent invocation request parameter sources higher) ∧
    (environment.get? parameter = none ↔
      ∀ layer, Silent invocation request parameter sources layer) ∧
    Binding.assemble (resolver.bindings.filter (·.source.isFor invocation.operation)) invocation
      request = environment ∧
    ∀ ruleSet own, Binding.sources parameter (ofRuleSet ruleSet own).bindings =
      ((ruleSet.parameters.get? parameter).bind (·.builtIn)).toList.map .builtIn ++
        Binding.sources parameter own := by
  intro sources environment
  refine ⟨fun value => Binding.get?_assemble_eq_some_iff, Binding.get?_assemble_eq_none_iff,
    Binding.assemble_filter_isFor resolver.bindings, ?_⟩
  intro ruleSet own
  rw [ofRuleSet, Binding.sources_append, Binding.sources_ofParameters]

end EndpointResolution
