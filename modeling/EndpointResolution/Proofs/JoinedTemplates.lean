import EndpointResolution.Proofs.CheckedExpressions

/-!
Templates whose texts are joined. The pieces of a text stay what they are when further text comes
behind it, also where braces meet. So the texts of two templates are together the text of one, which
evaluates to what the two evaluate to. A text whose braces are doubled is a template for the text
itself, and no other template stands for it.
-/

namespace EndpointResolution.Template

instance : Append Template := ⟨fun x y => ⟨x.tokens ++ y.tokens⟩⟩

theorem Writes.append {tokens others : List Token} {text more : List Char} (h : Writes tokens text)
    (h' : Writes others more) : Writes (tokens ++ others) (text ++ more) := by
  refine ⟨?_, ?_⟩
  · intro token member
    rcases List.mem_append.mp member with front | back
    · exact h.1 token front
    · exact h'.1 token back
  · rw [List.flatMap_append, h.2, h'.2]

theorem parse_append {first second : String} {x y : Template} (h : parse first = .ok x)
    (h' : parse second = .ok y) : parse (first ++ second) = .ok (x ++ y) := by
  rw [parse_eq_ok_iff, String.toList_append]
  exact (parse_eq_ok_iff.mp h).append (parse_eq_ok_iff.mp h')

theorem parse_doubled (word : String) :
    parse (String.ofList (doubled word.toList)) = .ok ⟨word.toList.map .char⟩ := by
  rw [parse_eq_ok_iff, String.toList_ofList]
  exact writes_doubled word.toList

theorem evalTokens_append (s : Scope) (tokens others : List Token) :
    evalTokens s (tokens ++ others) =
      do return (← evalTokens s tokens) ++ (← evalTokens s others) := by
  induction tokens with
  | nil =>
      rw [List.nil_append, evalTokens]
      cases evalTokens s others with
      | ok more => exact congrArg Except.ok String.empty_append.symm
      | error e => rfl
  | cons token rest ih =>
      rw [List.cons_append, evalTokens, evalTokens, ih]
      cases token.eval s with
      | error e => rfl
      | ok text =>
          cases evalTokens s rest with
          | error e => rfl
          | ok more =>
              cases evalTokens s others with
              | error e => rfl
              | ok others => exact congrArg Except.ok String.append_assoc.symm

theorem eval_append (s : Scope) (x y : Template) :
    (x ++ y).eval s = do return (← x.eval s) ++ (← y.eval s) :=
  evalTokens_append s x.tokens y.tokens

/-- Two texts that are read as templates are read as one when they are joined. It evaluates to their
results joined, or else fails for what the first one fails for, or else the second one. Any text is
read with its braces doubled as a template that stands for it and evaluates to it, and no other text
is read as a template that stands for it. -/
theorem parse_joined_and_doubled :
    (∀ first second x y, parse first = .ok x → parse second = .ok y →
      ∃ joined, parse (first ++ second) = .ok joined ∧ ∀ s,
        (∀ text more, x.eval s = .ok text → y.eval s = .ok more →
          joined.eval s = .ok (text ++ more)) ∧
        (∀ e, x.eval s = .error e → joined.eval s = .error e) ∧
        (∀ text e, x.eval s = .ok text → y.eval s = .error e → joined.eval s = .error e)) ∧
    (∀ word : String, ∃ plain, parse (String.ofList (doubled word.toList)) = .ok plain ∧
      plain.literal? = some word ∧ ∀ s, plain.eval s = .ok word) ∧
    (∀ text template word, parse text = .ok template → template.literal? = some word →
      text = String.ofList (doubled word.toList)) := by
  refine ⟨?_, fun word => ?_, ?_⟩
  · intro first second x y read read'
    refine ⟨x ++ y, parse_append read read', fun s => ⟨?_, ?_, ?_⟩⟩
    · intro text more evaluates evaluates'
      rw [eval_append, evaluates, evaluates']
      rfl
    · intro e fails
      rw [eval_append, fails]
      rfl
    · intro text e evaluates fails
      rw [eval_append, evaluates, fails]
      rfl
  · have plain : literal? ⟨word.toList.map .char⟩ = some word := literal?_eq_some_iff.mpr rfl
    exact ⟨_, parse_doubled word, plain, eval_of_literal? plain⟩
  · intro text template word read plain
    rw [← (literal?_iff_doubled read word).mp plain, String.ofList_toList]

/-- Braces meet where the texts are joined, and the name in the second one is bound. -/
theorem parse_joined_and_doubled_of_braces :
    ∃ joined, parse ("\x7b\x7b" ++ "\x7bRegion\x7d") = .ok joined ∧
      joined.eval ⟨[], Dict.ofList [("Region", .string "eu")]⟩ = .ok ("\x7b" ++ "eu") ∧
      joined.eval ⟨[], ∅⟩ = .error (.unresolvedReference "Region") ∧
      "\x7b\x7b" = String.ofList (doubled "\x7b".toList) := by
  obtain ⟨join, -, spelled⟩ := parse_joined_and_doubled
  have opening : parse "\x7b\x7b" = .ok ⟨[.char '\x7b']⟩ := by decide +kernel
  have name : parse "\x7bRegion\x7d" = .ok ⟨[.reference "Region"]⟩ := by decide +kernel
  obtain ⟨joined, read, evaluates⟩ := join _ _ _ _ opening name
  have bound := (evaluates ⟨[], Dict.ofList [("Region", .string "eu")]⟩).1
  have unbound := (evaluates ⟨[], ∅⟩).2.2
  exact ⟨joined, read, bound "\x7b" "eu" (by decide +kernel) (by decide +kernel),
    unbound "\x7b" _ (by decide +kernel) (by decide +kernel),
    spelled _ _ _ opening (by decide +kernel)⟩

end EndpointResolution.Template
