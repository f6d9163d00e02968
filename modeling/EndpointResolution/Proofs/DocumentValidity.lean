import EndpointResolution.Document.Compile
import EndpointResolution.Proofs.Results
import EndpointResolution.Proofs.TemplateGrammar

/-!
What loading asks of a document. A document that has the shape of a rule set is loaded just if the
expressions at every depth and the defaults of parameters are sound, and is refused for a defect
otherwise. The expressions are listed once, with those inside them, and each is sound by itself.
-/

namespace EndpointResolution

/-- The name of a function; one of them has a second name. -/
def Function.Named (f : Function) (name : String) : Prop :=
  name = f.name ∨ (f = .parseArn ∧ name = "parseArn")

/-- Whether a value is of the type; absence is of no type. -/
def ParameterType.Conforms : ParameterType → Value → Prop
  | .string, value => ∃ text, value = .string text
  | .boolean, value => ∃ b, value = .boolean b
  | .stringArray, value => ∃ texts : List String, value = .array (texts.map .string)

namespace Document

namespace Term

mutual

/-- The expression and all those inside it. -/
def subterms : Term → List Term
  | .call function arguments => .call function arguments :: allSubterms arguments
  | .array items => .array items :: allSubterms items
  | .record fields => .record fields :: fieldSubterms fields
  | .reference name => [.reference name]
  | .boolean b => [.boolean b]
  | .integer n => [.integer n]
  | .string s => [.string s]

def allSubterms : List Term → List Term
  | [] => []
  | item :: rest => item.subterms ++ allSubterms rest

def fieldSubterms : List (String × Term) → List Term
  | [] => []
  | (_, value) :: rest => value.subterms ++ fieldSubterms rest

end

end Term

/-- A condition is a call, with the expressions inside it. -/
def Clause.terms (c : Clause) : List Term := (Term.call c.function c.arguments).subterms

def Target.terms (target : Target) : List Term :=
  target.url.subterms ++ target.headers.entries.flatMap (fun header => Term.allSubterms header.2) ++
    Term.fieldSubterms target.properties.entries

namespace Entry

mutual

def terms : Entry → List Term
  | .endpoint conditions target _ => target.terms ++ conditions.flatMap Clause.terms
  | .error conditions message _ => message.subterms ++ conditions.flatMap Clause.terms
  | .tree conditions rules _ => allTerms rules ++ conditions.flatMap Clause.terms

def allTerms : List Entry → List Term
  | [] => []
  | rule :: rest => rule.terms ++ allTerms rest

end

end Entry

/-- The expressions of a document, at every depth. -/
def terms (document : Document) : List Term := Entry.allTerms document.rules

/-- What loading asks of a document: functions go by their names and get as many arguments as they
take, strings are templates, a path of `getAttr` in plain text is a path, and a default that is not
null is of the type declared. -/
structure Valid (document : Document) : Prop where
  functions : ∀ name arguments, Term.call name arguments ∈ document.terms →
    ∃ f : Function, f.Named name
  arities : ∀ name arguments, Term.call name arguments ∈ document.terms →
    ∀ f : Function, f.Named name → arguments.length = f.arity
  templates : ∀ s, Term.string s ∈ document.terms → Template.WellFormed s.toList
  paths : ∀ name arguments, Term.call name arguments ∈ document.terms →
    Function.getAttr.Named name → ∀ s path, arguments[1]? = some (.string s) →
      s.toList = Template.doubled path → AttributePath.WellFormed path
  defaults : ∀ declaration ∈ document.parameters.entries, ∀ value,
    declaration.2.default = some value → value ≠ .none → declaration.2.type.Conforms value

/-- What is asked of an expression apart from those inside it. -/
def Term.Sound : Term → Prop
  | .string s => Template.WellFormed s.toList
  | .call name arguments => ∃ f : Function, f.Named name ∧ arguments.length = f.arity ∧
      (f = .getAttr → ∀ s path, arguments[1]? = some (.string s) →
        s.toList = Template.doubled path → AttributePath.WellFormed path)
  | _ => True

end Document

/-- A computation that has a result just if the property holds, and fails for a defect if not. -/
def Checks {α : Type} (property : Prop) (result : Result α) : Prop :=
  (property ∧ ∃ a, result = .ok a) ∨
    (¬ property ∧ ∃ defect, result = .error (.invalidRuleSet defect))

namespace Checks

variable {α β : Type} {p q : Prop} {x : Result α}

theorem ok (a : α) (h : p) : Checks p (.ok a : Result α) := .inl ⟨h, a, rfl⟩

theorem error (defect : Defect) (h : ¬ p) : Checks p (.error (.invalidRuleSet defect) : Result α) :=
  .inr ⟨h, defect, rfl⟩

theorem congr (h : Checks p x) (same : p ↔ q) : Checks q x := by
  rwa [Checks, ← same]

/-- The second check may rely on the first one and on its result. -/
theorem bind {f : α → Result β} (h : Checks p x) (next : p → ∀ a, x = .ok a → Checks q (f a)) :
    Checks (p ∧ q) (x >>= f) := by
  rcases h with ⟨holds, a, rfl⟩ | ⟨fails, defect, rfl⟩
  · exact (next holds a rfl).congr (by simp [holds])
  · exact .error defect fun both => fails both.1

theorem map (h : Checks p x) (f : α → β) : Checks p (x >>= fun a => .ok (f a)) :=
  (h.bind (q := True) fun _ a _ => .ok (f a) trivial).congr (by simp)

theorem both {y : Result β} {γ : Type} (hx : Checks p x) (hy : Checks q y) (f : α → β → γ) :
    Checks (p ∧ q) (x >>= fun a => y >>= fun b => .ok (f a b)) :=
  hx.bind fun _ a _ => hy.map (f a)

end Checks

namespace Function

theorem ofName?_eq_some_iff {name : String} {f : Function} :
    ofName? name = some f ↔ f.Named name := by
  constructor
  · intro found
    rw [ofName?] at found
    split at found
    · next second => exact .inr ⟨(Option.some.inj found).symm, second⟩
    · have called : f.name = name := by simpa using List.find?_some found
      exact .inl called.symm
  · rintro (rfl | ⟨rfl, rfl⟩)
    · exact ofName?_name f
    · rfl

theorem Named.unique {name : String} {f g : Function} (hf : f.Named name) (hg : g.Named name) :
    f = g :=
  Option.some.inj ((ofName?_eq_some_iff.mpr hf).symm.trans (ofName?_eq_some_iff.mpr hg))

end Function

theorem Expr.eq_call_of_ofCall {f : Function} {arguments : List Expr} {e : Expr}
    (h : ofCall f arguments = .ok e) : e = .call f arguments := by
  simp only [ofCall, Result.bind_eq_ok_iff] at h
  obtain ⟨_, -, built⟩ := h
  split at built
  · simp only [Result.bind_eq_ok_iff] at built
    obtain ⟨_, -, whole⟩ := built
    exact (Except.ok.inj whole).symm
  · exact (Except.ok.inj built).symm

theorem AttributePath.parse_checks (text : String) :
    Checks (WellFormed text.toList) (parse text) := by
  rw [parse, wellFormed_iff]
  cases parse? text with
  | some path => exact .ok path ⟨path, rfl⟩
  | none => exact .error _ (by simp)

namespace Document.Term

theorem compileAll_cons_eq_ok_iff {item : Term} {rest : List Term} {exprs : List Expr} :
    compileAll (item :: rest) = .ok exprs ↔
      ∃ e others, item.compile = .ok e ∧ compileAll rest = .ok others ∧ exprs = e :: others := by
  rw [compileAll]
  exact Result.both_eq_ok_iff

theorem compileAll_eq_mapM (items : List Term) : compileAll items = items.mapM compile := by
  induction items with
  | nil => rfl
  | cons item rest ih => rw [compileAll, ih, List.mapM_cons]

/-- Templates come from strings only. -/
theorem compile_eq_template_iff {term : Term} {t : Template} :
    term.compile = .ok (.template t) ↔ ∃ s, term = .string s ∧ Template.parse s = .ok t := by
  cases term with
  | string s => simp [compile, Expr.ofText, Result.bind_eq_ok_iff, pure, Except.pure]
  | reference _ | boolean _ | integer _ => simp [compile]
  | call name arguments =>
      simp only [compile, Result.bind_eq_ok_iff, reduceCtorEq, false_and, exists_false, iff_false]
      rintro ⟨f, -, exprs, -, built⟩
      cases Expr.eq_call_of_ofCall built
  | array _ | record _ => simp [compile, Result.bind_eq_ok_iff, pure, Except.pure]

/-- What is checked as a path at once is the second argument of a `getAttr`, unescaped. -/
theorem literalPath?_eq_some_iff {f : Function} {arguments : List Term} {exprs : List Expr}
    (compiled : compileAll arguments = .ok exprs) (fits : arguments.length = f.arity)
    {path : String} :
    Expr.literalPath? f exprs = some path ↔
      f = .getAttr ∧ ∃ s, arguments[1]? = some (.string s) ∧
        s.toList = Template.doubled path.toList := by
  constructor
  · intro read
    unfold Expr.literalPath? at read
    split at read
    · next x t =>
        match arguments, fits with
        | [a, b], _ =>
            obtain ⟨_, _, -, second, eq⟩ := compileAll_cons_eq_ok_iff.mp compiled
            obtain ⟨_, _, own, -, eq'⟩ := compileAll_cons_eq_ok_iff.mp second
            cases eq
            cases eq'
            obtain ⟨s, rfl, parsed⟩ := compile_eq_template_iff.mp own
            exact ⟨rfl, s, rfl, (Template.literal?_iff_doubled parsed path).mp read⟩
    · cases read
  · rintro ⟨rfl, s, second, plain⟩
    match arguments, fits with
    | [a, b], _ =>
        obtain ⟨x, _, -, behind, rfl⟩ := compileAll_cons_eq_ok_iff.mp compiled
        obtain ⟨y, _, own, last, rfl⟩ := compileAll_cons_eq_ok_iff.mp behind
        cases last
        cases second
        have parsed : Template.parse s = .ok ⟨path.toList.map .char⟩ :=
          Template.parse_eq_ok_iff.mpr (plain ▸ Template.writes_doubled path.toList)
        have read := compile_eq_template_iff.mpr ⟨s, rfl, parsed⟩
        cases own.symm.trans read
        exact Template.literal?_eq_some_iff.mpr rfl

theorem ofCall_checks {f : Function} {arguments : List Term} {exprs : List Expr}
    (compiled : compileAll arguments = .ok exprs) :
    Checks (arguments.length = f.arity ∧ (f = .getAttr → ∀ s path,
        arguments[1]? = some (.string s) → s.toList = Template.doubled path →
          AttributePath.WellFormed path))
      (Expr.ofCall f exprs) := by
  have given : exprs.length = arguments.length := by
    rw [compileAll_eq_mapM] at compiled
    exact Result.length_of_mapM compiled
  have counts : Checks (arguments.length = f.arity) (f.checkArity exprs.length) := by
    rw [given, Function.checkArity]
    split
    · next fits => exact .ok () fits
    · next wrong => exact .error _ wrong
  refine counts.bind fun fits _ _ => ?_
  have literal := @literalPath?_eq_some_iff f arguments exprs compiled fits
  have reads {s : String} {path : List Char} (isGetAttr : f = .getAttr)
      (second : arguments[1]? = some (.string s)) (plain : s.toList = Template.doubled path) :
      Expr.literalPath? f exprs = some (String.ofList path) :=
    literal.mpr ⟨isGetAttr, s, second, by simpa using plain⟩
  cases read : Expr.literalPath? f exprs with
  | none =>
      refine .ok _ ?_
      intro isGetAttr s path second plain
      simp [reads isGetAttr second plain] at read
  | some path =>
      refine ((AttributePath.parse_checks path).map _).congr ?_
      constructor
      · intro leads isGetAttr s other second plain
        cases read.symm.trans (reads isGetAttr second plain)
        simpa using leads
      · intro each
        obtain ⟨isGetAttr, s, second, plain⟩ := literal.mp read
        exact each isGetAttr s path.toList second plain

theorem compile_call {name : String} {f : Function} (found : Function.ofName? name = some f)
    (arguments : List Term) :
    (call name arguments).compile = compileAll arguments >>= fun exprs => Expr.ofCall f exprs := by
  simp only [compile, functionOf, found]
  rfl

mutual

theorem compile_checks (term : Term) : Checks (∀ t ∈ term.subterms, t.Sound) term.compile := by
  match term with
  | .reference _ | .boolean _ | .integer _ =>
      exact .ok _ (by simp [subterms, Sound])
  | .string s =>
      have reads : Checks (Template.WellFormed s.toList) (Template.parse s) :=
        Template.parse_cases s
      exact (reads.map _).congr (by simp [subterms, Sound])
  | .call name arguments =>
      cases found : Function.ofName? name with
      | none =>
          have unknown : (call name arguments).compile =
              .error (.invalidRuleSet (.unknownFunction name)) := by
            simp only [compile, functionOf, found]
            rfl
          rw [unknown]
          refine .error _ fun each => ?_
          obtain ⟨f, named, -⟩ := each (.call name arguments) (by simp [subterms])
          simp [Function.ofName?_eq_some_iff.mpr named] at found
      | some f =>
          have named : f.Named name := Function.ofName?_eq_some_iff.mp found
          rw [compile_call found]
          refine ((compileAll_checks arguments).bind fun _ _ compiled =>
            ofCall_checks compiled).congr ?_
          rw [subterms, List.forall_mem_cons, and_comm]
          refine and_congr_left' ⟨fun sound => ⟨f, named, sound⟩, ?_⟩
          rintro ⟨g, other, sound⟩
          exact named.unique other ▸ sound
  | .array items =>
      exact ((compileAll_checks items).map _).congr (by simp [subterms, Sound])
  | .record fields =>
      exact ((compileFields_checks fields).map _).congr (by simp [subterms, Sound])

theorem compileAll_checks (items : List Term) :
    Checks (∀ t ∈ allSubterms items, t.Sound) (compileAll items) := by
  match items with
  | [] => exact .ok _ (by simp [allSubterms])
  | item :: rest =>
      exact ((compile_checks item).both (compileAll_checks rest) _).congr
        (by simp [allSubterms, or_imp, forall_and])

theorem compileFields_checks (fields : List (String × Term)) :
    Checks (∀ t ∈ fieldSubterms fields, t.Sound) (compileFields fields) := by
  match fields with
  | [] => exact .ok _ (by simp [fieldSubterms])
  | (name, value) :: rest =>
      exact ((compile_checks value).both (compileFields_checks rest) _).congr
        (by simp [fieldSubterms, or_imp, forall_and])

end

end Document.Term

namespace Document

theorem Clause.compile_checks (c : Clause) : Checks (∀ t ∈ c.terms, t.Sound) c.compile :=
  (Term.compile_checks (.call c.function c.arguments)).map _

theorem compileClauses_checks (clauses : List Clause) :
    Checks (∀ t ∈ clauses.flatMap Clause.terms, t.Sound) (compileClauses clauses) := by
  induction clauses with
  | nil => exact .ok _ (by simp)
  | cons c rest ih =>
      refine (c.compile_checks.both ih _).congr ?_
      rw [List.flatMap_cons, List.forall_mem_append]

namespace Target

theorem compileHeaders_checks (headers : List (String × List Term)) :
    Checks (∀ t ∈ headers.flatMap fun header => Term.allSubterms header.2, t.Sound)
      (compileHeaders headers) := by
  induction headers with
  | nil => exact .ok _ (by simp)
  | cons header rest ih =>
      refine ((Term.compileAll_checks header.2).both ih _).congr ?_
      rw [List.flatMap_cons, List.forall_mem_append]

theorem compile_checks (target : Target) :
    Checks (∀ t ∈ target.terms, t.Sound) target.compile := by
  refine ((Term.compile_checks target.url).bind fun _ url _ =>
    (compileHeaders_checks target.headers.entries).both
      (Term.compileFields_checks target.properties.entries) _).congr ?_
  rw [terms, List.append_assoc, List.forall_mem_append, List.forall_mem_append]

end Target

namespace Entry

mutual

theorem compile_checks (entry : Entry) : Checks (∀ t ∈ entry.terms, t.Sound) entry.compile := by
  match entry with
  | .endpoint conditions target _ =>
      refine (target.compile_checks.both (compileClauses_checks conditions) _).congr ?_
      rw [terms, List.forall_mem_append]
  | .error conditions message _ =>
      refine (message.compile_checks.both (compileClauses_checks conditions) _).congr ?_
      rw [terms, List.forall_mem_append]
  | .tree conditions rules _ =>
      refine ((compileAll_checks rules).both (compileClauses_checks conditions) _).congr ?_
      rw [terms, List.forall_mem_append]

theorem compileAll_checks (rules : List Entry) :
    Checks (∀ t ∈ allTerms rules, t.Sound) (compileAll rules) := by
  match rules with
  | [] => exact .ok _ (by simp [allTerms])
  | rule :: rest =>
      refine ((compile_checks rule).both (compileAll_checks rest) _).congr ?_
      rw [allTerms, List.forall_mem_append]

end

end Entry

end Document

theorem Value.forall_kind_eq_string_iff {items : List Value} :
    (∀ item ∈ items, item.kind = .string) ↔ ∃ texts : List String, items = texts.map .string := by
  constructor
  · intro each
    induction items with
    | nil => exact ⟨[], rfl⟩
    | cons item rest ih =>
        obtain ⟨texts, rfl⟩ := ih fun other member => each other (by simp [member])
        cases item with
        | string text => exact ⟨text :: texts, rfl⟩
        | none | boolean _ | integer _ | array _ | record _ | endpoint _ _ _ =>
            cases each _ List.mem_cons_self
  · rintro ⟨texts, rfl⟩
    simp [Value.kind]

theorem ParameterType.mismatch?_eq_none_iff (type : ParameterType) (value : Value) :
    type.mismatch? value = none ↔ value = .none ∨ type.Conforms value := by
  cases type with
  | string => cases value <;> simp [mismatch?, Conforms]
  | boolean => cases value <;> simp [mismatch?, Conforms]
  | stringArray =>
      cases value with
      | array items => simp [mismatch?, Conforms, Value.forall_kind_eq_string_iff]
      | none | boolean _ | integer _ | string _ | record _ | endpoint _ _ _ =>
          simp [mismatch?, Conforms]

theorem Parameters.defaultMismatch?_eq_none_iff (declaration : String × Parameter) :
    defaultMismatch? declaration = none ↔ ∀ value, declaration.2.default = some value →
      value ≠ .none → declaration.2.type.Conforms value := by
  cases given : declaration.2.default with
  | none => simp [defaultMismatch?, given]
  | some value =>
      have reported : defaultMismatch? declaration = none ↔
          declaration.2.type.mismatch? value = none := by
        rw [defaultMismatch?, given]
        cases mismatch : declaration.2.type.mismatch? value <;> simp [mismatch]
      rw [reported, ParameterType.mismatch?_eq_none_iff]
      simp [Decidable.or_iff_not_imp_left]

theorem Parameters.validate_checks (parameters : Parameters) :
    Checks (∀ declaration ∈ parameters.entries, ∀ value, declaration.2.default = some value →
        value ≠ .none → declaration.2.type.Conforms value)
      parameters.validate := by
  simp only [← defaultMismatch?_eq_none_iff]
  rw [validate, ← List.findSome?_eq_none_iff]
  cases parameters.entries.findSome? defaultMismatch? with
  | none => exact .ok _ rfl
  | some defect => exact .error defect (by simp)

namespace Document

theorem valid_iff (document : Document) :
    document.Valid ↔ (∀ t ∈ document.terms, t.Sound) ∧
      ∀ declaration ∈ document.parameters.entries, ∀ value,
        declaration.2.default = some value → value ≠ .none →
          declaration.2.type.Conforms value := by
  constructor
  · intro valid
    refine ⟨fun t member => ?_, valid.defaults⟩
    cases t with
    | string s => exact valid.templates s member
    | call name arguments =>
        obtain ⟨f, named⟩ := valid.functions name arguments member
        refine ⟨f, named, valid.arities name arguments member f named, ?_⟩
        rintro rfl
        exact valid.paths name arguments member named
    | reference _ | boolean _ | integer _ | array _ | record _ => trivial
  · rintro ⟨sound, defaults⟩
    have calls {name : String} {arguments : List Term} {f : Function} (named : f.Named name)
        (member : .call name arguments ∈ document.terms) : arguments.length = f.arity ∧
          (f = .getAttr → ∀ s path, arguments[1]? = some (.string s) →
            s.toList = Template.doubled path → AttributePath.WellFormed path) := by
      obtain ⟨g, other, asked⟩ := sound _ member
      exact other.unique named ▸ asked
    exact {
      functions := fun name arguments member => (sound _ member).imp fun _ asked => asked.1
      arities := fun name arguments member f named => (calls named member).1
      templates := fun s member => sound _ member
      paths := fun name arguments member named => (calls named member).2 rfl
      defaults := defaults }

theorem compile_checks (document : Document) : Checks document.Valid document.compile := by
  refine Checks.congr ?_ document.valid_iff.symm
  exact (Entry.compileAll_checks document.rules).bind fun _ _ _ =>
    document.parameters.validate_checks.map _

end Document

namespace RuleSet

/-- Loading validates exactly: a text with the shape of a rule set is loaded just if its document
is valid, and is refused for a defect in every other case. -/
theorem ofText_eq_ok_iff_valid {text : String} {json : Json} {document : Document}
    (reads : Json.parse? text = some json) (decodes : Document.ofJson? json = some document) :
    ((∃ ruleSet, ofText text = .ok ruleSet) ↔ document.Valid) ∧
      (¬ document.Valid → ∃ defect, ofText text = .error (.invalidRuleSet defect)) := by
  have loads : ofText text = document.compile := by simp only [ofText, reads, ofJson, decodes]
  rw [loads]
  rcases document.compile_checks with ⟨valid, compiled⟩ | ⟨invalid, defect, refused⟩
  · exact ⟨iff_of_true compiled valid, absurd valid⟩
  · refine ⟨iff_of_false ?_ invalid, fun _ => ⟨defect, refused⟩⟩
    simp [refused]

/-- A rule with a condition on an attribute whose path lacks a name between its dots. -/
def emptyName : String :=
  "\x7b\"version\":\"1.0\",\"rules\":[\x7b\"type\":\"error\",\"conditions\":[" ++
    "\x7b\"fn\":\"getAttr\",\"argv\":[\x7b\"ref\":\"R\"\x7d,\"a..b\"]\x7d]," ++
    "\"error\":\"x\"\x7d]\x7d"

def emptyNameJson : Json :=
  .object [("version", .string "1.0"), ("rules", .array [.object [("type", .string "error"),
    ("conditions", .array [.object [("fn", .string "getAttr"),
      ("argv", .array [.object [("ref", .string "R")], .string "a..b"])]]),
    ("error", .string "x")]])]

def emptyNameDocument : Document where
  version := "1.0"
  parameters := ∅
  rules := [.error [⟨"getAttr", [.reference "R", .string "a..b"], none⟩] (.string "x") none]

theorem ofText_eq_ok_iff_valid_emptyName :
    Json.parse? emptyName = some emptyNameJson ∧
      Document.ofJson? emptyNameJson = some emptyNameDocument ∧
      ((∃ ruleSet, ofText emptyName = .ok ruleSet) ↔ emptyNameDocument.Valid) ∧
      (¬ emptyNameDocument.Valid →
        ∃ defect, ofText emptyName = .error (.invalidRuleSet defect)) := by
  have reads : Json.parse? emptyName = some emptyNameJson := by decide +kernel
  have decodes : Document.ofJson? emptyNameJson = some emptyNameDocument := by rfl
  exact ⟨reads, decodes, ofText_eq_ok_iff_valid reads decodes⟩

end RuleSet

end EndpointResolution
