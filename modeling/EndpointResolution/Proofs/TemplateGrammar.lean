import EndpointResolution.Expr
import EndpointResolution.Proofs.PathGrammar

/-!
The grammar of templates. A text is read as a template just if it is a sequence of pieces, each of
them a plain character, a doubled brace or an interpolation, and then it is the text of what has
been read.
-/

namespace EndpointResolution.Template

/-- A piece of a template. -/
inductive Piece : List Char → Prop
  | plain {c : Char} (notOpening : c ≠ '\x7b') (notClosing : c ≠ '\x7d') : Piece [c]
  | opening : Piece ['\x7b', '\x7b']
  | closing : Piece ['\x7d', '\x7d']
  | reference {name : List Char} (named : isName name) : Piece ('\x7b' :: name ++ ['\x7d'])
  | access {name path : List Char} (named : isName name) (inside : '\x7d' ∉ path)
      (leads : AttributePath.WellFormed path) :
      Piece ('\x7b' :: name ++ '#' :: path ++ ['\x7d'])

/-- The characters of names. -/
def NameCharacter (c : Char) : Prop :=
  'a' ≤ c ∧ c ≤ 'z' ∨ 'A' ≤ c ∧ c ≤ 'Z' ∨ '0' ≤ c ∧ c ≤ '9' ∨ c = '_' ∨ c = '-'

/-- The text is a sequence of pieces. -/
def WellFormed (text : List Char) : Prop :=
  ∃ pieces : List (List Char), text = pieces.flatten ∧ ∀ piece ∈ pieces, Piece piece

/-- The text with every brace doubled. -/
def doubled (text : List Char) : List Char :=
  text.flatMap fun c => if c = '\x7b' ∨ c = '\x7d' then [c, c] else [c]

/-- A token that is written as a piece. -/
def Token.Valid : Token → Prop
  | .char _ => True
  | .reference name => isName name.toList
  | .access name path =>
      isName name.toList ∧ '\x7d' ∉ path.toList ∧ AttributePath.WellFormed path.toList

/-- The tokens are written as the text. -/
def Writes (tokens : List Token) (text : List Char) : Prop :=
  (∀ token ∈ tokens, token.Valid) ∧ tokens.flatMap Token.text = text

theorem Writes.nil : Writes [] [] := ⟨by simp, rfl⟩

theorem Writes.cons {token : Token} {tokens : List Token} {text : List Char} (valid : token.Valid)
    (h : Writes tokens text) : Writes (token :: tokens) (token.text ++ text) :=
  ⟨by simpa using ⟨valid, h.1⟩, by simp [h.2]⟩

theorem piece_iff {text : List Char} :
    Piece text ↔ ∃ token : Token, token.Valid ∧ token.text = text := by
  constructor
  · intro piece
    cases piece with
    | @plain c notOpening notClosing =>
        exact ⟨.char c, trivial, by simp [Token.text, notOpening, notClosing]⟩
    | opening => exact ⟨.char '\x7b', trivial, rfl⟩
    | closing => exact ⟨.char '\x7d', trivial, rfl⟩
    | @reference name named =>
        refine ⟨.reference (String.ofList name), ?_, ?_⟩
        · simpa [Token.Valid] using named
        · simp [Token.text]
    | @access name path named inside leads =>
        refine ⟨.access (String.ofList name) (String.ofList path), ?_, ?_⟩
        · simpa [Token.Valid] using ⟨named, inside, leads⟩
        · simp [Token.text]
  · rintro ⟨token, valid, rfl⟩
    cases token with
    | char c =>
        rw [Token.text]
        split
        · next brace =>
            rcases brace with rfl | rfl
            · exact .opening
            · exact .closing
        · next other =>
            simp only [not_or] at other
            exact .plain other.1 other.2
    | reference name => exact .reference valid
    | access name path => exact .access valid.1 valid.2.1 valid.2.2

/-- Pieces are the texts of tokens, which are written as all of them. -/
theorem exists_writes_of_pieces {pieces : List (List Char)} (each : ∀ piece ∈ pieces, Piece piece) :
    ∃ tokens, Writes tokens pieces.flatten ∧ tokens.map Token.text = pieces := by
  induction pieces with
  | nil => exact ⟨[], .nil, rfl⟩
  | cons piece rest ih =>
      obtain ⟨token, valid, rfl⟩ := piece_iff.mp (each piece (by simp))
      obtain ⟨tokens, writes, rfl⟩ := ih fun other member => each other (by simp [member])
      exact ⟨token :: tokens, .cons valid writes, rfl⟩

theorem wellFormed_iff_writes {text : List Char} :
    WellFormed text ↔ ∃ tokens, Writes tokens text := by
  constructor
  · rintro ⟨pieces, rfl, each⟩
    obtain ⟨tokens, writes, -⟩ := exists_writes_of_pieces each
    exact ⟨tokens, writes⟩
  · rintro ⟨tokens, valid, rfl⟩
    refine ⟨tokens.map Token.text, List.flatMap_def .., ?_⟩
    intro piece member
    obtain ⟨token, present, rfl⟩ := List.mem_map.mp member
    exact piece_iff.mpr ⟨token, valid token present, rfl⟩

theorem not_mem_of_isName {name : List Char} (named : isName name) {c : Char}
    (other : (c.isAlphanum || c = '_' || c = '-') = false) : c ∉ name := by
  intro member
  simp only [isName, Bool.and_eq_true, List.all_eq_true] at named
  rw [named.2 c member] at other
  cases other

/-- A name does not begin with a brace. -/
theorem append_ne_of_isName {name : List Char} (named : isName name) (rest more : List Char) :
    name ++ rest ≠ '\x7b' :: more := by
  cases name with
  | nil => simp [isName] at named
  | cons c others =>
      intro starts
      rw [List.cons_append, List.cons.injEq] at starts
      exact not_mem_of_isName named (c := c) (by simp [starts.1]) (by simp)

theorem access_eq_ok_iff {name path : String} {token : Token} :
    access name path = .ok token ↔
      AttributePath.WellFormed path.toList ∧ token = .access name path := by
  rw [AttributePath.wellFormed_iff, access]
  cases AttributePath.parse? path with
  | some found => simp [eq_comm]
  | none => simp

/-- What is read between braces is written there. -/
theorem writes_of_interpolation {text : String} {source : List Char} {token : Token}
    (inside : '\x7d' ∉ source) (h : interpolation text source = .ok token) :
    token.Valid ∧ token.text = '\x7b' :: source ++ ['\x7d'] := by
  rw [interpolation] at h
  split at h
  · split at h
    · next named =>
        cases h
        exact ⟨by simpa [Token.Valid] using named, by simp [Token.text]⟩
    · cases h
  · next name path parts =>
      obtain ⟨rfl, -⟩ := Text.cut?_eq_some_iff.mp parts
      split at h
      · next named =>
          obtain ⟨leads, rfl⟩ := access_eq_ok_iff.mp h
          simp only [List.mem_append, List.mem_cons, not_or] at inside
          refine ⟨?_, by simp [Token.text]⟩
          simpa [Token.Valid, named.1, inside] using leads
      · cases h

/-- An interpolation is written in braces, does not begin with a further one, and is read from what
stands between them. -/
theorem Token.Valid.interpolates {token : Token} (valid : token.Valid) (h : token.char? = none) :
    ∃ source, token.text = '\x7b' :: source ++ ['\x7d'] ∧ '\x7d' ∉ source ∧
      (∀ rest, source ≠ '\x7b' :: rest) ∧ ∀ text, interpolation text source = .ok token := by
  cases token with
  | char c => cases h
  | reference name =>
      have named : isName name.toList := valid
      have uncut : Text.cut? '#' name.toList = none :=
        Text.cut?_eq_none_iff.mpr (not_mem_of_isName named (by decide))
      refine ⟨name.toList, rfl, not_mem_of_isName named (by decide), ?_, ?_⟩
      · intro rest
        simpa using append_ne_of_isName named [] rest
      · intro text
        simp [interpolation, uncut, named]
  | access name path =>
      obtain ⟨named, inside, leads⟩ := valid
      have cut : Text.cut? '#' (name.toList ++ '#' :: path.toList) =
          some (name.toList, path.toList) :=
        Text.cut?_append (not_mem_of_isName named (by decide)) _
      have nonempty : path.toList ≠ [] :=
        fun empty => AttributePath.not_wellFormed_nil (empty ▸ leads)
      refine ⟨name.toList ++ '#' :: path.toList, by simp [Token.text], ?_,
        append_ne_of_isName named _, ?_⟩
      · have outside : '\x7d' ∉ name.toList := not_mem_of_isName named (by decide)
        simp [outside, inside]
      · intro text
        rw [interpolation, cut]
        simp [named, nonempty, access_eq_ok_iff, leads]

theorem scanInside_append {text : String} {source : List Char} (inside : '\x7d' ∉ source)
    (before rest : List Char) :
    scanInside text before (source ++ '\x7d' :: rest) =
      (interpolation text (before.reverse ++ source)).bind fun token =>
        (scan text rest).map (token :: ·) := by
  induction source generalizing before with
  | nil =>
      rw [List.nil_append, List.append_nil, scanInside]
      cases interpolation text before.reverse with
      | ok token => rfl
      | error defect => rfl
  | cons c source ih =>
      simp only [List.mem_cons, not_or] at inside
      have step : scanInside text before (c :: (source ++ '\x7d' :: rest)) =
          scanInside text (c :: before) (source ++ '\x7d' :: rest) := by
        rw [scanInside]
        exact fun eq => inside.1 eq.symm
      rw [List.cons_append, step, ih inside.2]
      simp

theorem scan_opening {rest : List Char} (single : ∀ more, rest ≠ '\x7b' :: more) (text : String) :
    scan text ('\x7b' :: rest) = scanInside text [] rest := by
  rw [scan]
  exact single

theorem scan_plain {c : Char} (notOpening : c ≠ '\x7b') (notClosing : c ≠ '\x7d') (text : String)
    (rest : List Char) : scan text (c :: rest) = (scan text rest).map (.char c :: ·) := by
  rw [scan]
  · exact fun _ eq => absurd eq notOpening
  · exact fun _ eq => absurd eq notClosing
  · exact notOpening
  · exact notClosing

/-- A token in front of a text is read from it first. -/
theorem scan_token_append {token : Token} (valid : token.Valid) (text : String)
    (rest : List Char) : scan text (token.text ++ rest) = (scan text rest).map (token :: ·) := by
  cases char : token.char? with
  | none =>
      obtain ⟨source, written, inside, single, reads⟩ := valid.interpolates char
      have front : token.text ++ rest = '\x7b' :: (source ++ '\x7d' :: rest) := by simp [written]
      have opens : ∀ more, source ++ '\x7d' :: rest ≠ '\x7b' :: more := by
        intro more starts
        cases source with
        | nil => simp at starts
        | cons c others => exact single others (by simp_all)
      rw [front, scan_opening opens, scanInside_append inside, List.reverse_nil, List.nil_append,
        reads text]
      rfl
  | some _ =>
      cases token with
      | char c =>
          by_cases brace : c = '\x7b' ∨ c = '\x7d'
          · rcases brace with rfl | rfl
            · rfl
            · rfl
          · have single : Token.text (.char c) = [c] := by simp only [Token.text, if_neg brace]
            simp only [not_or] at brace
            rw [single, List.singleton_append, scan_plain brace.1 brace.2]
      | reference _ | access _ _ => cases char

theorem scan_of_writes {tokens : List Token} {chars : List Char} (h : Writes tokens chars)
    (text : String) : scan text chars = .ok tokens := by
  obtain ⟨valid, rfl⟩ := h
  induction tokens with
  | nil => rfl
  | cons token rest ih =>
      simp only [List.forall_mem_cons] at valid
      rw [List.flatMap_cons, scan_token_append valid.1, ih valid.2]
      rfl

theorem writes_of_map_scan {text : String} {rest : List Char} {tokens : List Token} (token : Token)
    (valid : token.Valid) (ih : ∀ tokens, scan text rest = .ok tokens → Writes tokens rest)
    (h : (scan text rest).map (token :: ·) = .ok tokens) : Writes tokens (token.text ++ rest) := by
  cases read : scan text rest with
  | error defect => simp [read, Except.map] at h
  | ok others =>
      have whole : token :: others = tokens := by simpa [read, Except.map] using h
      exact whole ▸ .cons valid (ih others read)

theorem writes_of_scan (text : String) (chars : List Char) :
    ∀ tokens, scan text chars = .ok tokens → Writes tokens chars := by
  -- Behind an opening brace, what has been read since it belongs to the text, too.
  apply scan.induct text (fun chars => ∀ tokens, scan text chars = .ok tokens → Writes tokens chars)
    (fun source chars => '\x7d' ∉ source → ∀ tokens, scanInside text source chars = .ok tokens →
      Writes tokens ('\x7b' :: source.reverse ++ chars))
  case case1 =>
    rintro _ ⟨⟩
    exact .nil
  case case2 =>
    intro rest ih tokens h
    rw [scan] at h
    exact writes_of_map_scan (.char '\x7b') trivial ih h
  case case3 =>
    intro rest ih tokens h
    rw [scan] at h
    exact writes_of_map_scan (.char '\x7d') trivial ih h
  case case4 =>
    intro rest single ih tokens h
    rw [scan_opening single] at h
    simpa using ih (by simp) tokens h
  case case5 =>
    intro rest single tokens h
    rw [scan] at h
    · cases h
    · exact single
  case case6 =>
    intro c rest _ _ notOpening notClosing ih tokens h
    rw [scan_plain notOpening notClosing] at h
    have writes := writes_of_map_scan (.char c) trivial ih h
    have brace : ¬ (c = '\x7b' ∨ c = '\x7d') := by
      rintro (eq | eq)
      · exact notOpening eq
      · exact notClosing eq
    simpa only [Token.text, if_neg brace, List.singleton_append] using writes
  case case7 =>
    intro source _ tokens h
    cases h
  case case8 =>
    intro source rest token reads ih inside tokens h
    rw [scanInside] at h
    simp only [reads] at h
    obtain ⟨valid, written⟩ := writes_of_interpolation (by simpa using inside) reads
    have writes := writes_of_map_scan token valid ih h
    simpa [written] using writes
  case case9 =>
    intro source rest defect fails _ tokens h
    rw [scanInside] at h
    simp [fails] at h
  case case10 =>
    intro source c rest other ih inside tokens h
    rw [scanInside] at h
    · have open' : '\x7d' ∉ c :: source := by simp [inside, Ne.symm other]
      simpa using ih open' tokens h
    · exact other

theorem scan_eq_ok_iff {text : String} {chars : List Char} {tokens : List Token} :
    scan text chars = .ok tokens ↔ Writes tokens chars :=
  ⟨writes_of_scan text chars tokens, fun h => scan_of_writes h text⟩

/-- No two sequences of tokens are written as the same text. -/
theorem Writes.unique {tokens others : List Token} {text : List Char} (h : Writes tokens text)
    (h' : Writes others text) : tokens = others := by
  have read := scan_of_writes h ""
  rw [scan_of_writes h' ""] at read
  exact (Except.ok.inj read).symm

/-- What is read from a text is what is written as it. -/
theorem parse_eq_ok_iff {text : String} {template : Template} :
    parse text = .ok template ↔ Writes template.tokens text.toList := by
  obtain ⟨tokens⟩ := template
  rw [← @scan_eq_ok_iff text, parse]
  cases scan text text.toList with
  | ok own => simp
  | error defect => simp

/-- Reading fails for a defect, and just where the text is no sequence of pieces. -/
theorem parse_cases (text : String) :
    (WellFormed text.toList ∧ ∃ template, parse text = .ok template) ∨
      (¬ WellFormed text.toList ∧ ∃ defect, parse text = .error (.invalidRuleSet defect)) := by
  rw [wellFormed_iff_writes]
  cases read : scan text text.toList with
  | ok tokens =>
      exact .inl ⟨⟨tokens, writes_of_scan text _ _ read⟩, ⟨tokens⟩, by simp only [parse, read]⟩
  | error defect =>
      refine .inr ⟨?_, defect, by simp only [parse, read]⟩
      rintro ⟨tokens, writes⟩
      have reads := scan_of_writes writes text
      rw [read] at reads
      cases reads

theorem mapM_char?_eq_some_iff {tokens : List Token} {chars : List Char} :
    tokens.mapM Token.char? = some chars ↔ tokens = chars.map .char := by
  induction tokens generalizing chars with
  | nil => cases chars <;> simp
  | cons token rest ih =>
      cases token with
      | char c =>
          cases chars with
          | nil => simp [Token.char?, Option.bind_eq_some_iff]
          | cons d others => simpa [Token.char?, Option.bind_eq_some_iff, ih] using and_comm
      | reference _ | access _ _ => cases chars <;> simp [Token.char?]

theorem literal?_eq_some_iff {template : Template} {literal : String} :
    template.literal? = some literal ↔ template.tokens = literal.toList.map .char := by
  rw [literal?, Option.map_eq_some_iff]
  constructor
  · rintro ⟨chars, read, rfl⟩
    simpa using mapM_char?_eq_some_iff.mp read
  · intro plain
    exact ⟨literal.toList, mapM_char?_eq_some_iff.mpr plain, by simp⟩

theorem writes_doubled (chars : List Char) : Writes (chars.map .char) (doubled chars) := by
  refine ⟨?_, ?_⟩
  · intro token member
    obtain ⟨c, -, rfl⟩ := List.mem_map.mp member
    trivial
  · rw [List.flatMap_map]
    rfl

/-- A template stands for a text just if it is written as the text with doubled braces. -/
theorem literal?_iff_doubled {text : String} {template : Template} (h : parse text = .ok template)
    (literal : String) :
    template.literal? = some literal ↔ text.toList = doubled literal.toList := by
  have writes := parse_eq_ok_iff.mp h
  rw [literal?_eq_some_iff]
  constructor
  · intro plain
    rw [← writes.2, plain]
    exact (writes_doubled literal.toList).2
  · intro spelled
    exact writes.unique (spelled ▸ writes_doubled literal.toList)

theorem Writes.text_eq {template : Template} {text : String}
    (h : Writes template.tokens text.toList) : template.text = text := by
  rw [Template.text, h.2, String.ofList_toList]

theorem text_of_parse {text : String} {template : Template} (h : parse text = .ok template) :
    template.text = text :=
  (parse_eq_ok_iff.mp h).text_eq

/-- A text is a sequence of pieces in one way at most. -/
theorem pieces_unique {pieces others : List (List Char)} (each : ∀ piece ∈ pieces, Piece piece)
    (each' : ∀ piece ∈ others, Piece piece) (same : pieces.flatten = others.flatten) :
    pieces = others := by
  obtain ⟨tokens, writes, rfl⟩ := exists_writes_of_pieces each
  obtain ⟨tokens', writes', rfl⟩ := exists_writes_of_pieces each'
  rw [writes.unique (same ▸ writes')]

theorem isName_iff {name : List Char} :
    isName name ↔ name ≠ [] ∧ ∀ c ∈ name, NameCharacter c := by
  have between (low high c : Char) :
      (decide (low ≤ c) && decide (c ≤ high)) = true ↔ low ≤ c ∧ c ≤ high := by simp
  have upper (c : Char) : c.isUpper = true ↔ 'A' ≤ c ∧ c ≤ 'Z' := decide_eq_true_iff
  have lower (c : Char) : c.isLower = true ↔ 'a' ≤ c ∧ c ≤ 'z' := between 'a' 'z' c
  have digit (c : Char) : c.isDigit = true ↔ '0' ≤ c ∧ c ≤ '9' := between '0' '9' c
  have alphanumeric (c : Char) : c.isAlphanum = ((c.isUpper || c.isLower) || c.isDigit) := rfl
  have character (c : Char) : (c.isAlphanum || c = '_' || c = '-') = true ↔ NameCharacter c := by
    simp only [alphanumeric, NameCharacter, Bool.or_eq_true, upper, lower, digit, decide_eq_true_eq]
    grind
  simp [isName, List.all_eq_true, character]

/-- A text is read as a template just if it is a sequence of pieces, and it is one in one way at
most; otherwise reading fails for a defect. What is read is written as the text between quotes, so
no other text is read as the same template, and its own text is read as the template again. -/
theorem parse_one_spelling (text : String) :
    (WellFormed text.toList ↔ ∃ template, parse text = .ok template) ∧
    (¬ WellFormed text.toList → ∃ defect, parse text = .error (.invalidRuleSet defect)) ∧
    (∀ pieces others : List (List Char), (∀ piece ∈ pieces, Piece piece) →
      (∀ piece ∈ others, Piece piece) → pieces.flatten = text.toList →
      others.flatten = text.toList → pieces = others) ∧
    (∀ name, isName name ↔ name ≠ [] ∧ ∀ c ∈ name, NameCharacter c) ∧
    ∀ template, parse text = .ok template →
      (Expr.template template).text = "\"" ++ text ++ "\"" ∧
      (∀ other, parse other = .ok template → other = text) ∧
      parse template.text = .ok template := by
  refine ⟨?_, ?_, ?_, fun name => isName_iff, fun template read => ?_⟩
  · rw [wellFormed_iff_writes]
    constructor
    · rintro ⟨tokens, writes⟩
      exact ⟨⟨tokens⟩, parse_eq_ok_iff.mpr writes⟩
    · rintro ⟨template, read⟩
      exact ⟨template.tokens, parse_eq_ok_iff.mp read⟩
  · intro malformed
    obtain ⟨wellFormed, -⟩ | ⟨-, fails⟩ := parse_cases text
    · exact absurd wellFormed malformed
    · exact fails
  · intro pieces others each each' same same'
    exact pieces_unique each each' (same.trans same'.symm)
  · have own := text_of_parse read
    refine ⟨?_, fun other read' => ?_, ?_⟩
    · rw [Expr.text, own]
    · rw [← own, text_of_parse read']
    · rw [own, read]

/-- Doubled braces on both sides of an interpolation, with a character of two bytes behind them. -/
theorem parse_one_spelling_of_braces :
    let text := "\x7b\x7b\x7bRegion#a[0]\x7d\x7d\x7dé"
    let template : Template :=
      ⟨[.char '\x7b', .access "Region" "a[0]", .char '\x7d', .char 'é']⟩
    parse text = .ok template ∧ (Expr.template template).text = "\"" ++ text ++ "\"" ∧
      ∀ other, parse other = .ok template → other = text := by
  intro text template
  have leads : AttributePath.WellFormed "a[0]".toList :=
    AttributePath.wellFormed_iff.mpr ⟨⟨[.key "a", .index 0]⟩, by decide +kernel⟩
  have valid : (Token.access "Region" "a[0]").Valid := ⟨by decide, by decide, leads⟩
  have read : parse text = .ok template :=
    parse_eq_ok_iff.mpr ⟨by simpa [template, Token.Valid] using valid, by decide +kernel⟩
  obtain ⟨-, -, -, -, written⟩ := parse_one_spelling text
  exact ⟨read, (written template read).1, (written template read).2.1⟩

end EndpointResolution.Template
