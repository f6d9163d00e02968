import EndpointResolution.Proofs.EndpointJson
import EndpointResolution.Proofs.EndpointTemplates

/-!
Templates built by calls, one for each value of a header and for each property. Values of one header
add up in the order of their calls, and a property replaces a former one of its name. So calls for
different names may change places, a property that is replaced leaves no trace, and the endpoint of
the template, or the failure that it has instead, is known from the calls.
-/

namespace EndpointResolution

namespace EndpointTemplate

/-- One more value of a header, or a property in place of a former one. -/
inductive Addition where
  | header (name : String) (value : Expr)
  | property (name : String) (value : Expr)
deriving DecidableEq

def add (t : EndpointTemplate) : Addition → EndpointTemplate
  | .header name value => t.withHeader name value
  | .property name value => t.withProperty name value

/-- The template of an address and of additions in the order of their calls. -/
def build (url : Expr) (additions : List Addition) : EndpointTemplate :=
  additions.foldl add { url }

namespace Addition

def headerValue? (name : String) : Addition → Option Expr
  | .header own value => if own = name then some value else none
  | .property _ _ => none

def propertyValue? (name : String) : Addition → Option Expr
  | .header _ _ => none
  | .property own value => if own = name then some value else none

/-- They are for different names, or one is for a header and the other for a property. -/
def Apart : Addition → Addition → Prop
  | .header name _, .header other _ | .property name _, .property other _ => name ≠ other
  | .header _ _, .property _ _ | .property _ _, .header _ _ => True

end Addition

/-- Of each header that is used the values in the order of their calls, of each property the last
one, and nothing else. -/
def Contents.ofAdditions (url : Expr) (additions : List Addition) : Contents where
  url := url
  headers? name :=
    let values := additions.filterMap (Addition.headerValue? name)
    if values = [] then none else some values
  property? name := (additions.filterMap (Addition.propertyValue? name)).getLast?

section Building

variable {t : EndpointTemplate} {name : String}

theorem get?_headers_add (addition : Addition) : (t.add addition).headers.get? name =
    match addition.headerValue? name with
    | some value => some ((t.headers.get? name).getD [] ++ [value])
    | none => t.headers.get? name := by
  cases addition with
  | header own value =>
      rw [add, withHeader, Dict.get?_insert, Addition.headerValue?]
      split
      · next eq => rw [eq]
      · rfl
  | property own value => rfl

theorem get?_properties_add (addition : Addition) : (t.add addition).properties.get? name =
    (addition.propertyValue? name).or (t.properties.get? name) := by
  cases addition with
  | header own value => rfl
  | property own value =>
      rw [add, withProperty, Dict.get?_insert, Addition.propertyValue?]
      split <;> rfl

theorem url_foldl_add (additions : List Addition) : (additions.foldl add t).url = t.url := by
  induction additions generalizing t with
  | nil => rfl
  | cons addition rest ih =>
      rw [List.foldl_cons, ih]
      cases addition <;> rfl

theorem get?_headers_foldl_add (additions : List Addition) :
    (additions.foldl add t).headers.get? name =
      let values := additions.filterMap (Addition.headerValue? name)
      if values = [] then t.headers.get? name
      else some ((t.headers.get? name).getD [] ++ values) := by
  induction additions generalizing t with
  | nil => rfl
  | cons addition rest ih =>
      rw [List.foldl_cons, ih, get?_headers_add, List.filterMap_cons]
      cases addition.headerValue? name with
      | none => rfl
      | some value =>
          by_cases last : rest.filterMap (Addition.headerValue? name) = []
          · simp [last]
          · simp [last]

theorem get?_properties_foldl_add (additions : List Addition) :
    (additions.foldl add t).properties.get? name =
      (additions.filterMap (Addition.propertyValue? name)).getLast?.or (t.properties.get? name) := by
  induction additions generalizing t with
  | nil => rfl
  | cons addition rest ih =>
      rw [List.foldl_cons, ih, get?_properties_add, List.filterMap_cons]
      cases addition.propertyValue? name with
      | none => rfl
      | some value => simp [List.getLast?_cons]

theorem contents_build (url : Expr) (additions : List Addition) :
    (build url additions).contents = .ofAdditions url additions := by
  rw [contents, Contents.ofAdditions, Contents.mk.injEq]
  refine ⟨url_foldl_add additions, funext fun name => ?_, funext fun name => ?_⟩
  · rw [build, get?_headers_foldl_add]
    rfl
  · rw [build, get?_properties_foldl_add]
    exact Option.or_none

end Building

namespace Addition

variable {first second : Addition}

/-- At most one of two additions for different names says something about a given name. -/
theorem Apart.headerValue? (apart : first.Apart second) (name : String) :
    first.headerValue? name = none ∨ second.headerValue? name = none := by
  cases first with
  | property own value => exact .inl rfl
  | header own value =>
      cases second with
      | property other value' => exact .inr rfl
      | header other value' =>
          by_cases here : own = name
          · exact .inr (if_neg fun there => apart (here.trans there.symm))
          · exact .inl (if_neg here)

theorem Apart.propertyValue? (apart : first.Apart second) (name : String) :
    first.propertyValue? name = none ∨ second.propertyValue? name = none := by
  cases first with
  | header own value => exact .inl rfl
  | property own value =>
      cases second with
      | header other value' => exact .inr rfl
      | property other value' =>
          by_cases here : own = name
          · exact .inr (if_neg fun there => apart (here.trans there.symm))
          · exact .inl (if_neg here)

end Addition

theorem filterMap_without {α β : Type} {f : α → Option β} {item : α} (nothing : f item = none)
    (front back : List α) : (front ++ item :: back).filterMap f = (front ++ back).filterMap f := by
  rw [List.filterMap_append, List.filterMap_cons_none nothing, List.filterMap_append]

theorem filterMap_swap {α β : Type} {f : α → Option β} {first second : α}
    (only : f first = none ∨ f second = none) (front back : List α) :
    (front ++ first :: second :: back).filterMap f =
      (front ++ second :: first :: back).filterMap f := by
  obtain nothing | nothing := only <;> simp [List.filterMap_cons, nothing]

section Order

variable {url : Expr} {front back : List Addition}

theorem build_swap {first second : Addition} (apart : first.Apart second) :
    build url (front ++ first :: second :: back) =
      build url (front ++ second :: first :: back) := by
  apply contents_injective
  simp only [contents_build, Contents.ofAdditions, filterMap_swap (apart.headerValue? _),
    filterMap_swap (apart.propertyValue? _)]

/-- A property that is set again leaves no trace. -/
theorem build_overridden {name : String} {old new : Expr} (again : .property name new ∈ back) :
    build url (front ++ .property name old :: back) = build url (front ++ back) := by
  apply contents_injective
  rw [contents_build, contents_build, Contents.ofAdditions, Contents.ofAdditions,
    Contents.mk.injEq]
  refine ⟨rfl, funext fun other => ?_, funext fun other => ?_⟩
  · rw [filterMap_without rfl]
  · by_cases here : name = other
    · have kept : (Addition.property name old).propertyValue? other = some old := if_pos here
      have later : back.filterMap (Addition.propertyValue? other) ≠ [] :=
        List.ne_nil_of_mem (List.mem_filterMap.mpr ⟨_, again, if_pos here⟩)
      rw [List.filterMap_append, List.filterMap_append, List.filterMap_cons_some kept,
        ← List.singleton_append, ← List.append_assoc, List.getLast?_append_of_ne_nil _ later,
        List.getLast?_append_of_ne_nil _ later]
    · have dropped : (Addition.property name old).propertyValue? other = none := if_neg here
      rw [filterMap_without dropped]

end Order

/-- The calls say what an endpoint consists of and which failure comes first. They may change
places if they are for different names, and one for a property that is set again can be left out. -/
theorem eval_build (url : Expr) (additions : List Addition) :
    (∀ s endpoint, (build url additions).eval s = .ok endpoint ↔
      (Contents.ofAdditions url additions).Yields s endpoint) ∧
    (∀ s e, (build url additions).eval s = .error e ↔
      (Contents.ofAdditions url additions).FirstFailure s e) ∧
    (∀ front first second back, additions = front ++ first :: second :: back →
      first.Apart second → build url (front ++ second :: first :: back) = build url additions) ∧
    ∀ front name old new back, additions = front ++ .property name old :: back →
      .property name new ∈ back → build url (front ++ back) = build url additions := by
  refine ⟨fun s endpoint => ?_, fun s e => ?_, ?_, ?_⟩
  · rw [eval_eq_ok_iff, contents_build]
  · rw [eval_eq_error_iff, contents_build]
  · rintro front first second back rfl apart
    exact (build_swap apart).symm
  · rintro front name old new back rfl again
    exact (build_overridden again).symm

/-- The value of the header `b` is set first and that of `a` fails first. -/
theorem eval_build_header_before_call :
    let scheme := Expr.record [("name", .reference "Scheme")]
    let additions : List Addition := [.property "authSchemes" scheme,
      .header "b" (.reference "Missing"), .header "a" (.integer 1),
      .property "authSchemes" (.array [])]
    (Contents.ofAdditions (.template ⟨[]⟩) additions).FirstFailure ⟨[], ∅⟩
        (.typeMismatch [.string] .integer) ∧
      build (.template ⟨[]⟩) [.property "authSchemes" scheme, .header "a" (.integer 1),
        .header "b" (.reference "Missing"), .property "authSchemes" (.array [])] =
          build (.template ⟨[]⟩) additions ∧
      build (.template ⟨[]⟩) (additions.drop 1) = build (.template ⟨[]⟩) additions := by
  intro scheme additions
  obtain ⟨-, failure, swapped, overridden⟩ := eval_build (.template ⟨[]⟩) additions
  refine ⟨(failure _ _).mp (by decide), ?_, ?_⟩
  · exact swapped [.property "authSchemes" scheme] _ _ [.property "authSchemes" (.array [])] rfl
      (by decide : "b" ≠ "a")
  · exact overridden [] "authSchemes" scheme (.array []) _ rfl (by simp)

namespace Addition

/-- One addition for each value of a header, and then one for each property. -/
def ofParts (headers : List (String × List Expr)) (properties : List (String × Expr)) :
    List Addition :=
  headers.flatMap (fun header => header.2.map (.header header.1)) ++
    properties.map fun property => .property property.1 property.2

variable {headers : List (String × List Expr)} {properties : List (String × Expr)}

theorem headerValues_map_header (own name : String) (values : List Expr) :
    (values.map (Addition.header own)).filterMap (headerValue? name) =
      if own = name then values else [] := by
  rw [List.filterMap_map]
  split
  · next here => simp [headerValue?, here]
  · next here => simp [headerValue?, here]

theorem headerValues_ofParts (single : (headers.map (·.1)).Nodup) (name : String) :
    (ofParts headers properties).filterMap (headerValue? name) =
      (Assoc.find? name headers).getD [] := by
  have others : (properties.map fun property => Addition.property property.1 property.2).filterMap
      (headerValue? name) = [] := by
    rw [List.filterMap_map]
    exact List.filterMap_eq_nil_iff.mpr fun _ _ => rfl
  rw [ofParts, List.filterMap_append, others, List.append_nil]
  induction headers with
  | nil => rfl
  | cons header rest ih =>
      rw [List.map_cons, List.nodup_cons] at single
      rw [List.flatMap_cons, List.filterMap_append, headerValues_map_header, ih single.2,
        Assoc.find?]
      split
      · next here =>
          rw [Assoc.find?_eq_none_iff.mpr (here ▸ single.1)]
          exact List.append_nil _
      · rw [List.nil_append]

theorem propertyValues_ofParts (single : (properties.map (·.1)).Nodup) (name : String) :
    (ofParts headers properties).filterMap (propertyValue? name) =
      (Assoc.find? name properties).toList := by
  have others : (headers.flatMap fun header => header.2.map (Addition.header header.1)).filterMap
      (propertyValue? name) = [] := by
    refine List.filterMap_eq_nil_iff.mpr fun addition member => ?_
    obtain ⟨header, -, member⟩ := List.mem_flatMap.mp member
    obtain ⟨value, -, rfl⟩ := List.mem_map.mp member
    rfl
  rw [ofParts, List.filterMap_append, others, List.nil_append]
  induction properties with
  | nil => rfl
  | cons property rest ih =>
      rw [List.map_cons, List.nodup_cons] at single
      rw [List.map_cons, List.filterMap_cons, ih single.2, Assoc.find?, propertyValue?]
      by_cases here : property.1 = name
      · rw [if_pos here, if_pos here, Assoc.find?_eq_none_iff.mpr (here ▸ single.1)]
        rfl
      · rw [if_neg here, if_neg here]

end Addition

/-- Headers without values leave no trace. -/
theorem build_ofParts {url : Expr} {headers : List (String × List Expr)}
    {properties : List (String × Expr)} (ordered : Assoc.Sorted headers)
    (ordered' : Assoc.Sorted properties) : build url (Addition.ofParts headers properties) =
      ⟨url, .ofList (headers.filter (!·.2.isEmpty)), .ofList properties⟩ := by
  have kept : ((headers.filter (!·.2.isEmpty)).map (·.1)).Nodup :=
    ordered.nodup.sublist (List.Sublist.map _ List.filter_sublist)
  apply contents_injective
  rw [contents_build, Contents.ofAdditions, contents, Contents.mk.injEq]
  refine ⟨rfl, funext fun name => ?_, funext fun name => ?_⟩
  · rw [Dict.get?_ofList, Assoc.find?_reverse name kept, Assoc.find?_filter _ name ordered.nodup,
      Addition.headerValues_ofParts ordered.nodup]
    cases Assoc.find? name headers with
    | none => rfl
    | some values => cases values <;> rfl
  · rw [Dict.get?_ofList, Assoc.find?_reverse name ordered'.nodup,
      Addition.propertyValues_ofParts ordered'.nodup]
    cases Assoc.find? name properties <;> rfl

end EndpointTemplate

namespace Document.Target

open EndpointTemplate (build Addition.ofParts)

/-- The template of a document is built by calls, with names in order. -/
theorem compile_eq_ok_iff_build {target : Target} {t : EndpointTemplate} :
    target.compile = .ok t ↔ ∃ url headers properties, target.url.compile = .ok url ∧
      Result.mapFields Term.compileAll target.headers.entries = .ok headers ∧
      Result.mapFields Term.compile target.properties.entries = .ok properties ∧
      t = build url (Addition.ofParts headers properties) := by
  rw [compile_eq_ok_iff, compileHeaders_eq_mapFields, Term.compileFields_eq_mapFields]
  have built {url headers properties}
      (first : Result.mapFields Term.compileAll target.headers.entries = .ok headers)
      (second : Result.mapFields Term.compile target.properties.entries = .ok properties) :
      build url (Addition.ofParts headers properties) =
        ⟨url, .ofList (headers.filter (!·.2.isEmpty)), .ofList properties⟩ := by
    have ordered := (Result.sorted_mapFields_iff first).mpr target.headers.sorted
    exact EndpointTemplate.build_ofParts ordered
      ((Result.sorted_mapFields_iff second).mpr target.properties.sorted)
  constructor
  · rintro ⟨url, headers, properties, address, first, second, rfl⟩
    exact ⟨url, headers, properties, address, first, second, (built first second).symm⟩
  · rintro ⟨url, headers, properties, address, first, second, rfl⟩
    exact ⟨url, headers, properties, address, first, second, built first second⟩

end Document.Target

end EndpointResolution
