import EndpointResolution.Proofs.JoinedTemplates

/-!
Interpolations with a path. One is short for `getAttr` applied to a reference and to the path in
plain text: either both are refused, for the same defect, or both are built. The interpolation then
evaluates to the string that the call evaluates to and takes no other value from it, and where the
call fails it fails alike.
-/

namespace EndpointResolution

namespace Template

/-- The text with every opening brace doubled. -/
def openingDoubled (text : List Char) : List Char :=
  text.flatMap fun c => if c = '\x7b' then [c, c] else [c]

/-- An interpolation with a path, as it is written. -/
def accessText (name path : String) : String := "\x7b" ++ name ++ "#" ++ path ++ "\x7d"

/-- The call that it is short for. -/
def accessCall (name path : String) : Result Expr := do
  let text ← Expr.ofText (String.ofList (openingDoubled path.toList))
  Expr.ofCall .getAttr [.reference name, text]

end Template

theorem Template.openingDoubled_eq_doubled {text : List Char} (inside : '\x7d' ∉ text) :
    openingDoubled text = doubled text := by
  refine List.flatMap_congr fun c member => ?_
  have other : c ≠ '\x7d' := fun eq => inside (eq ▸ member)
  simp only [other, or_false]

/-- A call with a path in plain text is built just if the path can be read. -/
theorem Expr.ofCall_getAttr {t : Template} {path : String} (plain : t.literal? = some path)
    (first : Expr) : ofCall .getAttr [first, .template t] =
      (AttributePath.parse path).map fun _ => .call .getAttr [first, .template t] := by
  have counted : Function.checkArity .getAttr [first, .template t].length = .ok () := rfl
  have literal : literalPath? .getAttr [first, .template t] = some path := plain
  simp only [ofCall, counted, literal]
  cases AttributePath.parse path with
  | ok found => rfl
  | error e => rfl

namespace Template

section Construction

variable {name path : String} (named : isName name.toList) (given : path ≠ "")
  (inside : '\x7d' ∉ path.toList)

include inside

theorem accessCall_eq : accessCall name path = (AttributePath.parse path).map fun _ =>
    .call .getAttr [.reference name, .template ⟨path.toList.map .char⟩] := by
  rw [accessCall, openingDoubled_eq_doubled inside, Expr.ofText, parse_doubled]
  exact Expr.ofCall_getAttr (literal?_eq_some_iff.mpr rfl) _

include named given

theorem parse_accessText : parse (accessText name path) =
    (AttributePath.parse path).map fun _ => ⟨[.access name path]⟩ := by
  have letters : (accessText name path).toList =
      '\x7b' :: (name.toList ++ '#' :: path.toList ++ '\x7d' :: []) := by
    simp [accessText]
  have single : ∀ more, name.toList ++ '#' :: path.toList ++ '\x7d' :: [] ≠ '\x7b' :: more := by
    intro more
    rw [List.append_assoc]
    exact append_ne_of_isName named _ more
  have closed : '\x7d' ∉ name.toList ++ '#' :: path.toList := by
    simp [not_mem_of_isName named (c := '\x7d') (by decide), inside]
  have cut := Text.cut?_append (not_mem_of_isName named (c := '#') (by decide)) path.toList
  have reads : interpolation (accessText name path) (name.toList ++ '#' :: path.toList) =
      access name path := by
    simp [interpolation, cut, named, given]
  rw [parse, letters, scan_opening single, scanInside_append closed, List.reverse_nil,
    List.nil_append, reads, access, AttributePath.parse]
  cases AttributePath.parse? path with
  | some found => rfl
  | none => rfl

end Construction

/-- The interpolation takes the string from what the call evaluates to. -/
theorem eval_access {t : Template} {name path : String} (plain : t.literal? = some path)
    (s : Scope) : eval s ⟨[.access name path]⟩ =
      (Expr.call .getAttr [.reference name, .template t]).eval s >>= Value.expectString := by
  have alone : eval s ⟨[.access name path]⟩ = Token.eval s (.access name path) := by
    rw [eval, evalTokens, evalTokens]
    cases Token.eval s (.access name path) with
    | ok text => exact congrArg Except.ok String.append_empty
    | error e => rfl
  rw [alone, Token.eval, Expr.eval, Expr.evalAll, Expr.evalAll, Expr.evalAll, Expr.eval, Expr.eval,
    eval_of_literal? plain]
  cases s.resolve name with
  | ok value => rfl
  | error e => rfl

end Template

/-- No string is wanted where something else is found. -/
def Error.NotOfString (e : Error) : Prop := ∀ found, e ≠ .typeMismatch [.string] found

/-- A lookup wants records and arrays. -/
theorem Function.apply_getAttr_notOfString (value : Value) (path : String) :
    FailsBy Error.NotOfString (apply .getAttr [value, .string path]) := by
  rw [apply_of_counted rfl]
  refine .bind ?_ fun _ => ?_
  · rw [signature, checkKinds]
    split
    · exact .ok ()
    · exact .error fun found eq => by cases eq
  · rw [compute]
    split
    · next found _ =>
        refine (AttributePath.follow_astray found.steps value).mono fun e astray => ?_
        cases astray with
        | attributeNotFound _ | notRecord _ | notArray _ => exact fun found eq => by cases eq
    · next e malformed =>
        rw [AttributePath.parse] at malformed
        split at malformed
        · cases malformed
        · cases malformed
          exact .error fun found eq => by cases eq

theorem Expr.eval_getAttr_notOfString {t : Template} {path : String}
    (plain : t.literal? = some path) (name : String) (s : Scope) :
    FailsBy Error.NotOfString (eval s (.call .getAttr [.reference name, .template t])) := by
  rw [eval, evalAll, evalAll, evalAll, eval, eval, Template.eval_of_literal? plain, Scope.resolve]
  split
  · exact Function.apply_getAttr_notOfString _ path
  · exact .error fun found eq => by cases eq

namespace Template

/-- An interpolation of a name with a path, and the call of `getAttr` on the name with the path in
plain text, are both refused, for the same defect, or both built. Then the interpolation evaluates
to a string just if the call evaluates to it; it fails for want of a string just if the call
evaluates to a value of another kind, which is the one reported; and it fails as the call does. -/
theorem accessText_stands_for_getAttr {name path : String} (named : isName name.toList)
    (given : path ≠ "") (inside : '\x7d' ∉ path.toList) :
    (∃ template call, parse (accessText name path) = .ok template ∧
      accessCall name path = .ok call ∧ ∀ s,
        (∀ text, template.eval s = .ok text ↔ call.eval s = .ok (.string text)) ∧
        (∀ found, template.eval s = .error (.typeMismatch [.string] found) ↔
          ∃ value, call.eval s = .ok value ∧ value.kind = found ∧ found ≠ .string) ∧
        (∀ e, call.eval s = .error e → template.eval s = .error e)) ∨
    ∃ e, parse (accessText name path) = .error e ∧ accessCall name path = .error e := by
  rw [parse_accessText named given inside, accessCall_eq inside]
  cases AttributePath.parse path with
  | error e => exact .inr ⟨e, rfl, rfl⟩
  | ok found =>
      refine .inl ⟨_, _, rfl, rfl, fun s => ?_⟩
      have plain : literal? ⟨path.toList.map .char⟩ = some path := literal?_eq_some_iff.mpr rfl
      have notOfString := Expr.eval_getAttr_notOfString plain name s
      simp only [eval_access plain]
      refine ⟨fun text => Value.bind_expectString_eq_ok_iff, fun found => ?_, fun e failed => ?_⟩
      · rw [Value.bind_expectString_eq_error_iff]
        constructor
        · rintro (failed | ⟨value, evaluates, other, eq⟩)
          · exact absurd rfl (notOfString _ failed found)
          · cases eq
            exact ⟨value, evaluates, rfl, other⟩
        · rintro ⟨value, evaluates, rfl, other⟩
          exact .inr ⟨value, evaluates, other, rfl⟩
      · exact Value.bind_expectString_eq_error_iff.mpr (.inl failed)

/-- There is a brace in the path, which leads past the end of an array. -/
theorem accessText_stands_for_getAttr_past_end :
    ∃ template call, parse (accessText "x" "a\x7b[3]") = .ok template ∧
      accessCall "x" "a\x7b[3]" = .ok call ∧
      template.eval ⟨[("x", .record [("a\x7b", .array [])])], ∅⟩ =
        .error (.typeMismatch [.string] .none) := by
  have leads : AttributePath.parse "a\x7b[3]" = .ok ⟨[.key "a\x7b", .index 3]⟩ := by decide +kernel
  have inside : '\x7d' ∉ "a\x7b[3]".toList := by decide
  have named : isName "x".toList := by decide
  have built := accessText_stands_for_getAttr named (by decide) inside
  rw [accessCall_eq inside, leads] at built
  obtain ⟨template, call, read, made, evaluates⟩ | ⟨e, -, refused⟩ := built
  · refine ⟨template, call, read, by rw [accessCall_eq inside, leads, ← made], ?_⟩
    cases made
    exact ((evaluates _).2.1 .none).mpr ⟨.none, by decide +kernel, rfl, by decide⟩
  · cases refused

end Template

end EndpointResolution
