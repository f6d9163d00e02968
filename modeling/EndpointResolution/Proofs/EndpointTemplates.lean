import EndpointResolution.Proofs.ByteOrder
import EndpointResolution.Proofs.Results
import EndpointResolution.Rule.Eval
import Mathlib.Data.List.Forall2

/-!
Templates of endpoints. A template is known from what it consists of: an address, the values of
headers and the properties by name. Values of one header add up and a property replaces a former
one, so calls for different names can be made in any order. In a scope a template has the endpoint
that is made up of what its parts evaluate to, or fails for the first part that fails.
-/

namespace EndpointResolution

namespace EndpointTemplate

/-- What a template consists of. -/
structure Contents where
  url : Expr
  headers? : String → Option (List Expr)
  property? : String → Option Expr

def contents (t : EndpointTemplate) : Contents := ⟨t.url, t.headers.get?, t.properties.get?⟩

theorem contents_injective {t t' : EndpointTemplate} (h : t.contents = t'.contents) : t = t' := by
  obtain ⟨url, headers, properties⟩ := t
  obtain ⟨url', headers', properties'⟩ := t'
  obtain ⟨same, header, property⟩ := Contents.mk.inj h
  have headers : headers = headers' := Dict.ext_get? (congrFun header)
  have properties : properties = properties' := Dict.ext_get? (congrFun property)
  rw [EndpointTemplate.mk.injEq]
  exact ⟨same, headers, properties⟩

/-- Where an expression stands: at the address, at a position among the values of a header, or
under the name of a property. -/
inductive Place where
  | url
  | header (name : String) (position : Nat)
  | property (name : String)

namespace Place

/-- The address comes before headers and these before properties. Names come in the order of their
bytes, and values of a header in their own order. -/
inductive Before : Place → Place → Prop
  | urlHeader {name : String} {position : Nat} : Before .url (.header name position)
  | urlProperty {name : String} : Before .url (.property name)
  | value {name : String} {position other : Nat} (less : position < other) :
      Before (.header name position) (.header name other)
  | header {name other : String} {position otherPosition : Nat}
      (less : Percent.bytes name < Percent.bytes other) :
      Before (.header name position) (.header other otherPosition)
  | headerProperty {name other : String} {position : Nat} :
      Before (.header name position) (.property other)
  | property {name other : String} (less : Percent.bytes name < Percent.bytes other) :
      Before (.property name) (.property other)

/-- Addresses and header values are strings. -/
inductive TakesString : Place → Prop
  | url : TakesString .url
  | header {name : String} {position : Nat} : TakesString (.header name position)

end Place

namespace Contents

def at? (c : Contents) : Place → Option Expr
  | .url => some c.url
  | .header name position => (c.headers? name).bind (·[position]?)
  | .property name => c.property? name

/-- The part at a place does not evaluate, or to another value than a string where one is due. -/
inductive Fails (c : Contents) (s : Scope) (place : Place) : Error → Prop
  | raises {expr : Expr} {e : Error} (here : c.at? place = some expr)
      (raised : expr.eval s = .error e) : Fails c s place e
  | notString {expr : Expr} {value : Value} (here : c.at? place = some expr)
      (due : place.TakesString) (evaluates : expr.eval s = .ok value)
      (other : value.kind ≠ .string) : Fails c s place (.typeMismatch [.string] value.kind)

/-- A part fails so, and none before it fails. -/
def FirstFailure (c : Contents) (s : Scope) (e : Error) : Prop :=
  ∃ place, c.Fails s place e ∧ ∀ earlier, earlier.Before place → ∀ e', ¬ c.Fails s earlier e'

/-- The endpoint is made up of the values of the parts, and of nothing else. -/
structure Yields (c : Contents) (s : Scope) (endpoint : Endpoint) : Prop where
  url : c.url.eval s = .ok (.string endpoint.url)
  headers : ∀ name, Option.Rel
    (List.Forall₂ fun expr text => expr.eval s = .ok (.string text))
    (c.headers? name) (endpoint.headers.get? name)
  properties : ∀ name, Option.Rel (fun expr value => expr.eval s = .ok value)
    (c.property? name) (endpoint.properties.get? name)

end Contents

end EndpointTemplate

namespace Expr

variable {s : Scope}

theorem evalString_eq_ok_iff {expr : Expr} {text : String} :
    evalString s expr = .ok text ↔ expr.eval s = .ok (.string text) :=
  Value.bind_expectString_eq_ok_iff

theorem evalString_eq_error_iff {expr : Expr} {e : Error} :
    evalString s expr = .error e ↔ expr.eval s = .error e ∨
      ∃ value, expr.eval s = .ok value ∧ value.kind ≠ .string ∧
        e = .typeMismatch [.string] value.kind :=
  Value.bind_expectString_eq_error_iff

theorem evalStrings_eq_mapM (items : List Expr) :
    evalStrings s items = items.mapM (evalString s) := by
  induction items with
  | nil => rfl
  | cons item rest ih => rw [evalStrings, List.mapM_cons, ih]

theorem evalStrings_eq_ok_iff {items : List Expr} {texts : List String} :
    evalStrings s items = .ok texts ↔
      List.Forall₂ (fun expr text => expr.eval s = .ok (.string text)) items texts := by
  induction items generalizing texts with
  | nil => simp [evalStrings, eq_comm]
  | cons item rest ih =>
      rw [evalStrings, Result.both_eq_ok_iff, List.forall₂_cons_left_iff]
      simp only [evalString_eq_ok_iff, ih]

theorem evalFields_eq_mapFields (fields : List (String × Expr)) :
    evalFields s fields = Result.mapFields (eval s) fields := by
  induction fields with
  | nil => rfl
  | cons field rest ih => rw [evalFields, ih, Result.mapFields_cons]

end Expr

namespace EndpointTemplate

theorem evalHeaders_eq_mapFields {s : Scope} (headers : List (String × List Expr)) :
    evalHeaders s headers = Result.mapFields (Expr.evalStrings s) headers := by
  induction headers with
  | nil => rfl
  | cons header rest ih => rw [evalHeaders, ih, Result.mapFields_cons]

section Evaluation

variable {s : Scope} {t : EndpointTemplate}

theorem eval_eq_ok_iff {endpoint : Endpoint} :
    t.eval s = .ok endpoint ↔ t.contents.Yields s endpoint := by
  have steps : t.eval s = .ok endpoint ↔ ∃ url, t.url.evalString s = .ok url ∧
      ∃ headers, Result.mapFields (Expr.evalStrings s) t.headers.entries = .ok headers ∧
        ∃ properties, Result.mapFields (Expr.eval s) t.properties.entries = .ok properties ∧
          ⟨url, .ofList headers, .ofList properties⟩ = endpoint := by
    simp only [eval, evalHeaders_eq_mapFields, Expr.evalFields_eq_mapFields,
      Result.bind_eq_ok_iff, pure, Except.pure, Except.ok.injEq]
  rw [steps]
  obtain ⟨url, headers, properties⟩ := endpoint
  have parts : t.contents.Yields s ⟨url, headers, properties⟩ ↔ t.url.evalString s = .ok url ∧
      (∃ values, Result.mapFields (Expr.evalStrings s) t.headers.entries = .ok values ∧
        Dict.ofList values = headers) ∧
      ∃ values, Result.mapFields (Expr.eval s) t.properties.entries = .ok values ∧
        Dict.ofList values = properties := by
    rw [Result.mapFields_entries_iff, Result.mapFields_entries_iff, Expr.evalString_eq_ok_iff]
    simp only [Expr.evalStrings_eq_ok_iff]
    exact ⟨fun h => ⟨h.url, h.headers, h.properties⟩, fun h => ⟨h.1, h.2.1, h.2.2⟩⟩
  rw [parts]
  simp only [Endpoint.mk.injEq]
  constructor
  · rintro ⟨_, address, _, first, _, second, rfl, rfl, rfl⟩
    exact ⟨address, ⟨_, first, rfl⟩, _, second, rfl⟩
  · rintro ⟨address, ⟨_, first, rfl⟩, _, second, rfl⟩
    exact ⟨_, address, _, first, _, second, rfl, rfl, rfl⟩

end Evaluation

namespace Contents

variable {c : Contents} {s : Scope} {e : Error} {name : String}

theorem fails_iff_of_takesString {place : Place} (due : place.TakesString) :
    c.Fails s place e ↔ ∃ expr, c.at? place = some expr ∧ expr.evalString s = .error e := by
  simp only [Expr.evalString_eq_error_iff]
  constructor
  · intro fails
    cases fails with
    | raises here raised => exact ⟨_, here, .inl raised⟩
    | notString here _ evaluates other => exact ⟨_, here, .inr ⟨_, evaluates, other, rfl⟩⟩
  · rintro ⟨expr, here, raised | ⟨value, evaluates, other, rfl⟩⟩
    · exact .raises here raised
    · exact .notString here due evaluates other

theorem fails_url_iff : c.Fails s .url e ↔ c.url.evalString s = .error e := by
  rw [fails_iff_of_takesString .url]
  simp [at?]

theorem fails_property_iff : c.Fails s (.property name) e ↔
    ∃ expr, c.property? name = some expr ∧ expr.eval s = .error e := by
  constructor
  · intro fails
    cases fails with
    | raises here raised => exact ⟨_, here, raised⟩
    | notString _ due _ _ => cases due
  · rintro ⟨expr, here, raised⟩
    exact .raises here raised

theorem fails_header_iff {position : Nat} : c.Fails s (.header name position) e ↔
    ∃ values, c.headers? name = some values ∧
      ∃ expr, values[position]? = some expr ∧ expr.evalString s = .error e := by
  rw [fails_iff_of_takesString .header]
  simp only [at?, Option.bind_eq_some_iff]
  constructor
  · rintro ⟨expr, ⟨values, found, here⟩, fails⟩
    exact ⟨values, found, expr, here, fails⟩
  · rintro ⟨values, found, expr, here, fails⟩
    exact ⟨expr, ⟨values, found, here⟩, fails⟩

/-- The values of a header fail at the first position that fails. -/
theorem first_fails_header_iff : (∃ position, c.Fails s (.header name position) e ∧
      ∀ earlier < position, ∀ e', ¬ c.Fails s (.header name earlier) e') ↔
    ∃ values, c.headers? name = some values ∧ Expr.evalStrings s values = .error e := by
  cases found : c.headers? name with
  | none => simp [fails_header_iff, found]
  | some values =>
      have here {position : Nat} {e : Error} : c.Fails s (.header name position) e ↔
          ∃ expr, values[position]? = some expr ∧ expr.evalString s = .error e := by
        simp [fails_header_iff, found]
      simp only [here, Result.forall_not_error_iff, Option.some.injEq, exists_eq_left',
        Expr.evalStrings_eq_mapM, Result.mapM_eq_error_iff_getElem?]
      constructor
      · rintro ⟨position, ⟨expr, own, fails⟩, passed⟩
        exact ⟨position, expr, own, fails, passed⟩
      · rintro ⟨position, expr, own, fails, passed⟩
        exact ⟨position, ⟨expr, own, fails⟩, passed⟩

theorem forall_not_fails_url_iff :
    (∀ e, ¬ c.Fails s .url e) ↔ ∃ text, c.url.evalString s = .ok text := by
  simp only [fails_url_iff]
  cases c.url.evalString s <;> simp

theorem forall_not_fails_property_iff : (∀ e, ¬ c.Fails s (.property name) e) ↔
    ∀ expr, c.property? name = some expr → ∃ value, expr.eval s = .ok value := by
  simp only [fails_property_iff, Result.forall_not_error_iff]

theorem forall_not_fails_header_iff : (∀ position e, ¬ c.Fails s (.header name position) e) ↔
    ∀ values, c.headers? name = some values → ∃ texts, Expr.evalStrings s values = .ok texts := by
  rw [← Result.forall_not_error_iff]
  simp only [← first_fails_header_iff]
  constructor
  · rintro passed e ⟨position, fails, -⟩
    exact passed position e fails
  · intro passed position
    induction position using Nat.strongRecOn with
    | ind position ih => exact fun e fails => passed e ⟨position, fails, ih⟩

end Contents

section Evaluation

variable {s : Scope} {t : EndpointTemplate} {e : Error}

theorem eval_eq_error_cases : t.eval s = .error e ↔
    t.url.evalString s = .error e ∨ (∃ url, t.url.evalString s = .ok url) ∧
      (Result.mapFields (Expr.evalStrings s) t.headers.entries = .error e ∨
        (∃ headers, Result.mapFields (Expr.evalStrings s) t.headers.entries = .ok headers) ∧
          Result.mapFields (Expr.eval s) t.properties.entries = .error e) := by
  simp [eval, evalHeaders_eq_mapFields, Expr.evalFields_eq_mapFields, Result.bind_eq_error_iff,
    pure, Except.pure]

theorem exists_headers_iff :
    (∃ headers, Result.mapFields (Expr.evalStrings s) t.headers.entries = .ok headers) ↔
      ∀ name position e, ¬ t.contents.Fails s (.header name position) e := by
  simp only [Contents.forall_not_fails_header_iff, Result.exists_mapFields_iff]
  constructor
  · exact fun each name values found => each (name, values) (Assoc.mem_of_find? found)
  · exact fun each field member =>
      each field.1 field.2 (Assoc.find?_of_mem t.headers.sorted.nodup member)

/-- The failure of a template is the one of its first part that fails. -/
theorem eval_eq_error_iff : t.eval s = .error e ↔ t.contents.FirstFailure s e := by
  rw [eval_eq_error_cases, exists_headers_iff, Result.mapFields_eq_error_iff t.headers.sorted,
    Result.mapFields_eq_error_iff t.properties.sorted]
  constructor
  · rintro (fails | ⟨address, ⟨name, values, found, fails, passed⟩ |
      ⟨headers, name, expr, found, fails, passed⟩⟩)
    · refine ⟨.url, Contents.fails_url_iff.mpr fails, fun earlier before => ?_⟩
      cases before
    · obtain ⟨position, own, front⟩ :=
        (Contents.first_fails_header_iff (c := t.contents)).mpr ⟨values, found, fails⟩
      refine ⟨.header name position, own, fun earlier before => ?_⟩
      cases before with
      | urlHeader => exact Contents.forall_not_fails_url_iff.mpr address
      | value less => exact front _ less
      | header less =>
          have each := passed _ (Text.Utf8.bytes_lt_bytes_iff.mp less)
          exact Contents.forall_not_fails_header_iff.mpr each _
    · refine ⟨.property name, Contents.fails_property_iff.mpr ⟨expr, found, fails⟩,
        fun earlier before => ?_⟩
      cases before with
      | urlProperty => exact Contents.forall_not_fails_url_iff.mpr address
      | headerProperty => exact headers _ _
      | property less =>
          have each := passed _ (Text.Utf8.bytes_lt_bytes_iff.mp less)
          exact Contents.forall_not_fails_property_iff.mpr each
  · rintro ⟨place, fails, first⟩
    cases place with
    | url => exact .inl (Contents.fails_url_iff.mp fails)
    | header name position =>
        have address := Contents.forall_not_fails_url_iff.mp (first _ .urlHeader)
        obtain ⟨values, found, raised⟩ := Contents.first_fails_header_iff.mp
          ⟨position, fails, fun earlier less => first _ (.value less)⟩
        refine .inr ⟨address, .inl ⟨name, values, found, raised, fun other less => ?_⟩⟩
        have before := Text.Utf8.bytes_lt_bytes_iff.mpr less
        exact Contents.forall_not_fails_header_iff.mp fun position => first _ (.header before)
    | property name =>
        have address := Contents.forall_not_fails_url_iff.mp (first _ .urlProperty)
        obtain ⟨expr, found, raised⟩ := Contents.fails_property_iff.mp fails
        refine .inr ⟨address, .inr ⟨fun other position => first _ .headerProperty, name, expr,
          found, raised, fun other less => ?_⟩⟩
        have before := Text.Utf8.bytes_lt_bytes_iff.mpr less
        exact Contents.forall_not_fails_property_iff.mp (first _ (.property before))

end Evaluation

end EndpointTemplate

end EndpointResolution
