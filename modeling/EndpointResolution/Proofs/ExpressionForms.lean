import EndpointResolution.Proofs.ExpressionJson

/-!
Which JSON is an expression, and of which form. An object is a reference if its member `ref` is a
text; else a call if its member `fn` is a text and its member `argv` a list of expressions; else a
record, all of whose members have to be expressions. So what an object is depends on whether the
data inside is readable at any depth, and the members that a reference or a call has no use for may
hold whatever they like.
-/

namespace EndpointResolution

theorem int64?_eq_some_iff {n : Int} {m : Int64} : int64? n = some m ↔ n = m.toInt := by
  constructor
  · intro read
    rw [int64?] at read
    split at read
    · next inRange =>
        cases read
        exact inRange.symm
    · cases read
  · rintro rfl
    exact int64?_toInt m

theorem exists_int64?_iff {n : Int} : (∃ m, int64? n = some m) ↔
    Int64.minValue.toInt ≤ n ∧ n ≤ Int64.maxValue.toInt := by
  simp only [int64?_eq_some_iff]
  constructor
  · rintro ⟨m, rfl⟩
    exact ⟨m.minValue_le_toInt, m.toInt_le⟩
  · rintro ⟨least, greatest⟩
    exact ⟨.ofIntLE n least greatest, Int64.toInt_ofIntLE.symm⟩

inductive Expr.Form where
  | boolean | integer | template | array | record | reference | call
deriving DecidableEq

def Expr.form : Expr → Form
  | .boolean _ => .boolean
  | .integer _ => .integer
  | .template _ => .template
  | .array _ => .array
  | .record _ => .record
  | .reference _ => .reference
  | .call _ _ => .call

namespace Document.Term

/-- A text is a template, as soon as it is well formed. -/
def form : Term → Expr.Form
  | .boolean _ => .boolean
  | .integer _ => .integer
  | .string _ => .template
  | .array _ => .array
  | .record _ => .record
  | .reference _ => .reference
  | .call _ _ => .call

/-- JSON that is an expression. Integers are numbers without a fraction and an exponent. -/
inductive Decodable : Json → Prop where
  | boolean (b : Bool) : Decodable (.boolean b)
  | integer {n : Int} (least : Int64.minValue.toInt ≤ n) (greatest : n ≤ Int64.maxValue.toInt) :
      Decodable (.integer n)
  | string (s : String) : Decodable (.string s)
  | array {items : List Json} (each : ∀ item ∈ items, Decodable item) : Decodable (.array items)
  | reference {members : List (String × Json)} {name : String}
      (ref : ("ref", .string name) ∈ members) : Decodable (.object members)
  | call {members : List (String × Json)} {name : String} {items : List Json}
      (fn : ("fn", .string name) ∈ members) (argv : ("argv", .array items) ∈ members)
      (each : ∀ item ∈ items, Decodable item) : Decodable (.object members)
  | record {members : List (String × Json)} (each : ∀ member ∈ members, Decodable member.2) :
      Decodable (.object members)

def IsReference (members : List (String × Json)) : Prop :=
  ∃ name, ("ref", Json.string name) ∈ members

/-- A call, unless the object is a reference. -/
def IsCall (members : List (String × Json)) : Prop :=
  ∃ name items, ("fn", Json.string name) ∈ members ∧ ("argv", Json.array items) ∈ members ∧
    ∀ item ∈ items, Decodable item

mutual

/-- The term is what JSON says. -/
def SpelledBy : Term → Json → Prop
  | .boolean b, json => json = .boolean b
  | .integer n, json => json = .integer n.toInt
  | .string s, json => json = .string s
  | .array terms, json => ∃ items, json = .array items ∧ AllSpelledBy terms items
  | .reference name, json => ∃ members, json = .object members ∧ ("ref", Json.string name) ∈ members
  | .call name arguments, json => ∃ members items, json = .object members ∧
      ¬ IsReference members ∧ ("fn", Json.string name) ∈ members ∧
      ("argv", Json.array items) ∈ members ∧ AllSpelledBy arguments items
  | .record fields, json => ∃ members, json = .object members ∧
      ¬ IsReference members ∧ ¬ IsCall members ∧ Assoc.Sorted fields ∧
      (∀ name, name ∈ fields.map (·.1) ↔ name ∈ members.map (·.1)) ∧
      FieldsSpelledBy fields members

def AllSpelledBy : List Term → List Json → Prop
  | [], items => items = []
  | term :: rest, items => ∃ item others, items = item :: others ∧ term.SpelledBy item ∧
      AllSpelledBy rest others

/-- Every field is what the member of its name says. -/
def FieldsSpelledBy : List (String × Term) → List (String × Json) → Prop
  | [], _ => True
  | (name, term) :: rest, members =>
      (∃ json, (name, json) ∈ members ∧ term.SpelledBy json) ∧ FieldsSpelledBy rest members

end

/-- What is looked at for the expression that JSON is: all but the members that a reference or a
call has no use for. -/
inductive LooksAt : Json → Json → Prop where
  | self (json : Json) : LooksAt json json
  | item {items : List Json} {item value : Json} (member : item ∈ items)
      (inside : LooksAt item value) : LooksAt (.array items) value
  | argument {members : List (String × Json)} {name : String} {items : List Json}
      {item value : Json} (noReference : ¬ IsReference members)
      (fn : ("fn", .string name) ∈ members) (argv : ("argv", .array items) ∈ members)
      (each : ∀ item ∈ items, Decodable item) (member : item ∈ items)
      (inside : LooksAt item value) : LooksAt (.object members) value
  | field {members : List (String × Json)} {member : String × Json} {value : Json}
      (noReference : ¬ IsReference members) (noCall : ¬ IsCall members)
      (present : member ∈ members) (inside : LooksAt member.2 value) :
      LooksAt (.object members) value

theorem form_of_object {members : List (String × Json)} {term : Term}
    (h : ofJson? (.object members) = some term) :
    term.form = .reference ∨ term.form = .call ∨ term.form = .record := by
  rcases ofMembers?_cases h with ⟨name, rfl⟩ | ⟨name, arguments, rfl, -⟩ | ⟨-, -, fields, -, rfl⟩
  · exact .inl rfl
  · exact .inr (.inl rfl)
  · exact .inr (.inr rfl)

section Flat

variable {json : Json}

theorem ofJson?_eq_boolean_iff {b : Bool} :
    ofJson? json = some (.boolean b) ↔ json = .boolean b := by
  cases json with
  | object members => simpa using fun h => by simpa [form] using form_of_object h
  | null | boolean _ | integer _ | decimal _ | string _ | array _ | unreadable => simp [ofJson?]

theorem ofJson?_eq_integer_iff {n : Int64} :
    ofJson? json = some (.integer n) ↔ json = .integer n.toInt := by
  cases json with
  | object members => simpa using fun h => by simpa [form] using form_of_object h
  | null | boolean _ | integer _ | decimal _ | string _ | array _ | unreadable =>
      simp [ofJson?, int64?_eq_some_iff]

theorem ofJson?_eq_string_iff {s : String} :
    ofJson? json = some (.string s) ↔ json = .string s := by
  cases json with
  | object members => simpa using fun h => by simpa [form] using form_of_object h
  | null | boolean _ | integer _ | decimal _ | string _ | array _ | unreadable => simp [ofJson?]

theorem ofJson?_eq_array_iff {terms : List Term} : ofJson? json = some (.array terms) ↔
    ∃ items, json = .array items ∧ ofJsons? items = some terms := by
  cases json with
  | object members => simpa using fun h => by simpa [form] using form_of_object h
  | null | boolean _ | integer _ | decimal _ | string _ | array _ | unreadable => simp [ofJson?]

end Flat

theorem reference?_eq_some_iff {members : List (String × Option Term)} {term : Term} :
    reference? members = some term ↔
      ∃ name, term = .reference name ∧ Json.occurrences "ref" members = [some (.string name)] := by
  rw [reference?]
  split
  · next name found => simp [found, eq_comm]
  · next other => simpa using fun name _ found => other name found

theorem call?_eq_some_iff {members : List (String × Option Term)} {term : Term} :
    call? members = some term ↔ ∃ name arguments, term = .call name arguments ∧
      Json.occurrences "fn" members = [some (.string name)] ∧
        Json.occurrences "argv" members = [some (.array arguments)] := by
  rw [call?]
  split
  · next name arguments fn argv => simp [fn, argv, eq_comm]
  · next other => simpa using fun name arguments _ fn argv => other name arguments fn argv

theorem exists_record?_iff {members : List (String × Json)} :
    (∃ term, record? (membersOfJson members) = some term) ↔
      ∀ member ∈ members, ∃ term, ofJson? member.2 = some term := by
  rw [record?_membersOfJson, ← Json.exists_fieldsOf?_iff]
  simp only [← Option.isSome_iff_exists, Option.isSome_map]

section Members

variable {members : List (String × Json)} (single : (members.map (·.1)).Nodup)

include single

theorem occurrences_membersOfJson {name : String} {term : Term} :
    Json.occurrences name (membersOfJson members) = [some term] ↔
      ∃ json, (name, json) ∈ members ∧ ofJson? json = some term := by
  have once : ((membersOfJson members).map (·.1)).Nodup := by rwa [names_membersOfJson]
  rw [Json.occurrences_eq_singleton_iff once, membersOfJson_eq_map]
  simp only [List.mem_map, Prod.exists, Prod.mk.injEq]
  constructor
  · rintro ⟨_, json, present, rfl, own⟩
    exact ⟨json, present, own⟩
  · rintro ⟨json, present, own⟩
    exact ⟨name, json, present, rfl, own⟩

theorem reference?_membersOfJson {term : Term} :
    reference? (membersOfJson members) = some term ↔
      ∃ name, term = .reference name ∧ ("ref", Json.string name) ∈ members := by
  simp [reference?_eq_some_iff, occurrences_membersOfJson single, ofJson?_eq_string_iff]

theorem call?_membersOfJson {term : Term} : call? (membersOfJson members) = some term ↔
    ∃ name arguments items, term = .call name arguments ∧ ("fn", Json.string name) ∈ members ∧
      ("argv", Json.array items) ∈ members ∧ ofJsons? items = some arguments := by
  simp only [call?_eq_some_iff, occurrences_membersOfJson single, ofJson?_eq_string_iff,
    ofJson?_eq_array_iff]
  constructor
  · rintro ⟨name, arguments, rfl, ⟨_, fn, rfl⟩, _, argv, items, rfl, read⟩
    exact ⟨name, arguments, items, rfl, fn, argv, read⟩
  · rintro ⟨name, arguments, items, rfl, fn, argv, read⟩
    exact ⟨name, arguments, rfl, ⟨_, fn, rfl⟩, _, argv, items, rfl, read⟩

end Members

theorem decodable_array_iff {items : List Json} :
    Decodable (.array items) ↔ ∀ item ∈ items, Decodable item := by
  constructor
  · rintro ⟨⟩
    assumption
  · exact .array

theorem decodable_object_iff {members : List (String × Json)} :
    Decodable (.object members) ↔
      IsReference members ∨ IsCall members ∨ ∀ member ∈ members, Decodable member.2 := by
  constructor
  · intro decodable
    cases decodable with
    | reference ref => exact .inl ⟨_, ref⟩
    | call fn argv each => exact .inr (.inl ⟨_, _, fn, argv, each⟩)
    | record each => exact .inr (.inr each)
  · rintro (⟨_, ref⟩ | ⟨_, _, fn, argv, each⟩ | each)
    · exact .reference ref
    · exact .call fn argv each
    · exact .record each

theorem exists_ofJson?_array_iff {items : List Json} :
    (∃ term, ofJson? (.array items) = some term) ↔
      ∀ item ∈ items, ∃ term, ofJson? item = some term := by
  rw [← Json.exists_mapM_iff, ← ofJsons?_eq_mapM, ofJson?]
  simp only [← Option.isSome_iff_exists, Option.isSome_map]

/-- One of the three readings of an object has to succeed. -/
theorem exists_ofJson?_object_iff {members : List (String × Json)} :
    (∃ term, ofJson? (.object members) = some term) ↔
      (∃ term, reference? (membersOfJson members) = some term) ∨
        (∃ term, call? (membersOfJson members) = some term) ∨
          ∃ term, record? (membersOfJson members) = some term := by
  simp only [ofJson?, ofMembers?, ← Option.isSome_iff_exists, Option.isSome_or, Bool.or_eq_true]

theorem isReference_iff {members : List (String × Json)}
    (single : (members.map (·.1)).Nodup) :
    IsReference members ↔ ∃ term, reference? (membersOfJson members) = some term := by
  simp only [reference?_membersOfJson single, IsReference]
  constructor
  · rintro ⟨name, ref⟩
    exact ⟨_, name, rfl, ref⟩
  · rintro ⟨_, name, -, ref⟩
    exact ⟨name, ref⟩

theorem isCall_iff {members : List (String × Json)} (single : (members.map (·.1)).Nodup)
    (inside : ∀ part ∈ (Json.object members).parts,
      ((∃ term, ofJson? part = some term) ↔ Decodable part)) :
    IsCall members ↔ ∃ term, call? (membersOfJson members) = some term := by
  have arguments {items : List Json} (argv : ("argv", Json.array items) ∈ members) :
      (∀ item ∈ items, Decodable item) ↔ ∃ terms, ofJsons? items = some terms := by
    rw [← decodable_array_iff, ← inside _ (Json.mem_parts_object argv),
      exists_ofJson?_array_iff, ofJsons?_eq_mapM, Json.exists_mapM_iff]
  simp only [call?_membersOfJson single, IsCall]
  constructor
  · rintro ⟨name, items, fn, argv, each⟩
    obtain ⟨terms, read⟩ := (arguments argv).mp each
    exact ⟨_, name, terms, items, rfl, fn, argv, read⟩
  · rintro ⟨_, name, terms, items, -, fn, argv, read⟩
    exact ⟨name, items, fn, argv, (arguments argv).mpr ⟨terms, read⟩⟩

/-- What can be read at all is what the rule says. -/
theorem exists_ofJson?_iff (json : Json) (single : json.NoRepeats) :
    (∃ term, ofJson? json = some term) ↔ Decodable json := by
  induction json using Json.parts_induction with
  | step json ih =>
    have inside (part : Json) (member : part ∈ json.parts) :=
      ih part member (single.of_mem_parts member)
    cases json with
    | boolean b => exact iff_of_true ⟨_, rfl⟩ (.boolean b)
    | string s => exact iff_of_true ⟨_, rfl⟩ (.string s)
    | integer n =>
        rw [ofJson?, ← Option.isSome_iff_exists, Option.isSome_map, Option.isSome_iff_exists,
          exists_int64?_iff]
        constructor
        · exact fun range => .integer range.1 range.2
        · rintro ⟨⟩
          exact ⟨‹_›, ‹_›⟩
    | array items =>
        rw [exists_ofJson?_array_iff, decodable_array_iff]
        exact forall₂_congr inside
    | object members =>
        rw [exists_ofJson?_object_iff, ← isReference_iff single.1, ← isCall_iff single.1 inside,
          exists_record?_iff, decodable_object_iff]
        refine or_congr_right (or_congr_right (forall₂_congr fun member present => ?_))
        exact inside member.2 (Json.mem_parts_object present)
    | null | decimal _ | unreadable => exact iff_of_false nofun nofun

/-- A call comes after a reference, and a record after both. -/
theorem ofJson?_object_eq_some_iff {members : List (String × Json)}
    (single : (Json.object members).NoRepeats) {term : Term} :
    ofJson? (.object members) = some term ↔
      reference? (membersOfJson members) = some term ∨
        (¬ IsReference members ∧ call? (membersOfJson members) = some term) ∨
          (¬ IsReference members ∧ ¬ IsCall members ∧
            record? (membersOfJson members) = some term) := by
  have inside (part : Json) (member : part ∈ (Json.object members).parts) :=
    exists_ofJson?_iff part (single.of_mem_parts member)
  rw [isReference_iff single.1, isCall_iff single.1 inside]
  have absent {read : Option Term} : (¬ ∃ term, read = some term) ↔ read = none := by
    cases read <;> simp
  simp only [absent, ofJson?, ofMembers?, Option.or_eq_some_iff, and_or_left]

section Objects

variable {json : Json} (single : json.NoRepeats)

include single

theorem ofJson?_eq_reference_iff {name : String} : ofJson? json = some (.reference name) ↔
    ∃ members, json = .object members ∧ ("ref", Json.string name) ∈ members := by
  cases json with
  | object members =>
      rw [ofJson?_object_eq_some_iff single]
      simp [reference?_membersOfJson single.1, call?_membersOfJson single.1, record?_membersOfJson]
  | null | boolean _ | integer _ | decimal _ | string _ | array _ | unreadable => simp [ofJson?]

theorem ofJson?_eq_call_iff {name : String} {arguments : List Term} :
    ofJson? json = some (.call name arguments) ↔ ∃ members items, json = .object members ∧
      ¬ IsReference members ∧ ("fn", Json.string name) ∈ members ∧
      ("argv", Json.array items) ∈ members ∧ ofJsons? items = some arguments := by
  cases json with
  | object members =>
      rw [ofJson?_object_eq_some_iff single]
      simp [reference?_membersOfJson single.1, call?_membersOfJson single.1, record?_membersOfJson,
        and_assoc]
  | null | boolean _ | integer _ | decimal _ | string _ | array _ | unreadable => simp [ofJson?]

theorem ofJson?_eq_record_iff {fields : List (String × Term)} :
    ofJson? json = some (.record fields) ↔ ∃ members, json = .object members ∧
      ¬ IsReference members ∧ ¬ IsCall members ∧ Assoc.Sorted fields ∧
      (∀ name, name ∈ fields.map (·.1) ↔ name ∈ members.map (·.1)) ∧
      ∀ field ∈ fields, ∃ json, (field.1, json) ∈ members ∧ ofJson? json = some field.2 := by
  cases json with
  | object members =>
      have record : record? (membersOfJson members) = some (.record fields) ↔
          (Json.fieldsOf? ofJson? members).map Assoc.ofList = some fields := by
        rw [record?_membersOfJson, Option.map_eq_some_iff]
        simp only [record.injEq, exists_eq_right]
      rw [ofJson?_object_eq_some_iff single, record, Json.ofList_fieldsOf?_eq_some_iff single.1]
      simp only [reference?_membersOfJson single.1, call?_membersOfJson single.1, reduceCtorEq,
        false_and, exists_false, and_false, false_or, Json.object.injEq, exists_eq_left']
  | null | boolean _ | integer _ | decimal _ | string _ | array _ | unreadable => simp [ofJson?]

end Objects

mutual

/-- JSON is read as what it says. -/
theorem ofJson?_eq_some_iff (term : Term) {json : Json} (single : json.NoRepeats) :
    ofJson? json = some term ↔ term.SpelledBy json := by
  match term with
  | .boolean b => exact ofJson?_eq_boolean_iff
  | .integer n => exact ofJson?_eq_integer_iff
  | .string s => exact ofJson?_eq_string_iff
  | .reference name => exact ofJson?_eq_reference_iff single
  | .array terms =>
      rw [ofJson?_eq_array_iff]
      refine exists_congr fun items => and_congr_right ?_
      rintro rfl
      exact ofJsons?_eq_some_iff terms single
  | .call name arguments =>
      rw [ofJson?_eq_call_iff single]
      refine exists_congr fun members => exists_congr fun items => and_congr_right ?_
      rintro rfl
      refine and_congr_right fun _ => and_congr_right fun _ => and_congr_right fun argv => ?_
      exact ofJsons?_eq_some_iff arguments (single.of_mem_parts (Json.mem_parts_object argv))
  | .record fields =>
      rw [ofJson?_eq_record_iff single]
      refine exists_congr fun members => and_congr_right ?_
      rintro rfl
      refine and_congr_right fun _ => and_congr_right fun _ => and_congr_right fun _ =>
        and_congr_right fun _ => ?_
      exact fields_read_iff fields single.2

theorem ofJsons?_eq_some_iff (terms : List Term) {items : List Json}
    (single : Json.AllNoRepeats items) :
    ofJsons? items = some terms ↔ AllSpelledBy terms items := by
  match terms, items with
  | [], [] => simp [ofJsons?, AllSpelledBy]
  | _ :: _, [] => simp [ofJsons?, AllSpelledBy]
  | [], _ :: _ =>
      rw [ofJsons?_eq_mapM, Json.mapM_cons_eq_some_iff]
      simp [AllSpelledBy]
  | term :: terms, item :: items =>
      rw [ofJsons?_eq_mapM, Json.mapM_cons_eq_some_iff, ← ofJsons?_eq_mapM]
      simp [AllSpelledBy, ofJson?_eq_some_iff term single.1, ofJsons?_eq_some_iff terms single.2,
        and_assoc]

theorem fields_read_iff (fields : List (String × Term)) {members : List (String × Json)}
    (single : Json.MembersNoRepeats members) :
    (∀ field ∈ fields, ∃ json, (field.1, json) ∈ members ∧ ofJson? json = some field.2) ↔
      FieldsSpelledBy fields members := by
  match fields with
  | [] => simp [FieldsSpelledBy]
  | (name, term) :: rest =>
      rw [List.forall_mem_cons, FieldsSpelledBy, fields_read_iff rest single]
      refine and_congr_left' (exists_congr fun json => and_congr_right fun present => ?_)
      exact ofJson?_eq_some_iff term (Json.membersNoRepeats_iff.mp single _ present)

end

/-- What an expression is does not depend on whether its parts are sound. -/
theorem form_of_compile {term : Term} {e : Expr} (h : term.compile = .ok e) :
    e.form = term.form := by
  cases term with
  | boolean _ | integer _ | reference _ =>
      cases h
      rfl
  | string s =>
      obtain ⟨_, -, rfl⟩ := compile_string_eq_ok_iff.mp h
      rfl
  | array items =>
      obtain ⟨_, -, rfl⟩ := compile_array_eq_ok_iff.mp h
      rfl
  | record fields =>
      obtain ⟨_, -, rfl⟩ := compile_record_eq_ok_iff.mp h
      rfl
  | call name arguments =>
      obtain ⟨_, _, -, -, built⟩ := compile_call_eq_ok_iff.mp h
      cases Expr.eq_call_of_ofCall built
      rfl

theorem LooksAt.decodable {json value : Json} (h : LooksAt json value)
    (decodable : Decodable json) : Decodable value := by
  induction h with
  | self => exact decodable
  | item member _ ih => exact ih (decodable_array_iff.mp decodable _ member)
  | argument _ _ _ each member _ ih => exact ih (each _ member)
  | field noReference noCall present _ ih =>
      rcases decodable_object_iff.mp decodable with reference | call | each
      · exact absurd reference noReference
      · exact absurd call noCall
      · exact ih (each _ present)

/-- One rule says whether JSON is an expression, and which one; an expression keeps its form when it
is compiled. In what is looked at for it no null is left, and no number but integers of 64 bits. -/
theorem ofJson?_by_one_rule {json : Json} (single : json.NoRepeats) :
    ((∃ term, ofJson? json = some term) ↔ Decodable json) ∧
      (∀ term : Term, ofJson? json = some term ↔ term.SpelledBy json) ∧
      (∀ (term : Term) (e : Expr), ofJson? json = some term → term.compile = .ok e →
        e.form = term.form) ∧
      (Decodable json → ∀ value, LooksAt json value →
        value ≠ .null ∧ (∀ text, value ≠ .decimal text) ∧
          ∀ n, value = .integer n → Int64.minValue.toInt ≤ n ∧ n ≤ Int64.maxValue.toInt) := by
  refine ⟨exists_ofJson?_iff json single, fun term => ofJson?_eq_some_iff term single,
    fun term e _ compiled => form_of_compile compiled, fun decodable value looks => ?_⟩
  have own := looks.decodable decodable
  refine ⟨?_, ?_, ?_⟩
  · rintro rfl
    cases own
  · rintro text rfl
    cases own
  · rintro n rfl
    cases own with
    | integer least greatest => exact ⟨least, greatest⟩

/-- A call whose first argument, a reference, has a use for one of its members only. The second one
would be a reference if its member were a text. -/
def callWithRate : Json :=
  .object [("rate", .decimal "1.5"), ("argv", .array
    [.object [("note", .null), ("ref", .string "Region")], .object [("ref", .boolean true)]]),
    ("fn", .string "stringEquals")]

theorem ofJson?_by_one_rule_callWithRate :
    let term : Term := .call "stringEquals" [.reference "Region", .record [("ref", .boolean true)]]
    let e : Expr := .call .stringEquals [.reference "Region", .record [("ref", .boolean true)]]
    callWithRate.NoRepeats ∧ ofJson? callWithRate = some term ∧ Decodable callWithRate ∧
      term.SpelledBy callWithRate ∧ term.compile = .ok e ∧ e.form = term.form ∧
      ∀ value, LooksAt callWithRate value → value ≠ .null ∧ (∀ text, value ≠ .decimal text) ∧
        ∀ n, value = .integer n → Int64.minValue.toInt ≤ n ∧ n ≤ Int64.maxValue.toInt := by
  intro term e
  have single : callWithRate.NoRepeats := by
    simp [callWithRate, Json.NoRepeats, Json.AllNoRepeats, Json.MembersNoRepeats]
  have read : ofJson? callWithRate = some term := rfl
  have compiled : term.compile = .ok e := rfl
  obtain ⟨decodes, spells, keepsForm, looks⟩ := ofJson?_by_one_rule single
  have decodable := decodes.mp ⟨term, read⟩
  exact ⟨single, read, decodable, (spells term).mp read, compiled, keepsForm term e read compiled,
    looks decodable⟩

end Document.Term

end EndpointResolution
