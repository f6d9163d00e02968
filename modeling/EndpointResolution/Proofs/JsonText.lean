import EndpointResolution.Json.Writer
import EndpointResolution.Proofs.JsonNesting

/-!
Reading of JSON text that has been written. A document whose only numbers are machine integers and
that holds nothing unreadable comes back from its text as it was, as long as it nests no deeper than
a text may.
-/

namespace EndpointResolution.Json

mutual

/-- The only numbers are machine integers, and nothing is unreadable. -/
def Writable : Json → Prop
  | .integer n => ∃ m : Int64, m.toInt = n
  | .array items => AllWritable items
  | .object members => MembersWritable members
  | .decimal _ | .unreadable => False
  | .null | .boolean _ | .string _ => True

def AllWritable : List Json → Prop
  | [] => True
  | item :: rest => item.Writable ∧ AllWritable rest

def MembersWritable : List (String × Json) → Prop
  | [] => True
  | (_, value) :: rest => value.Writable ∧ MembersWritable rest

end

theorem allWritable_iff {items : List Json} :
    AllWritable items ↔ ∀ item ∈ items, item.Writable := by
  induction items with
  | nil => simp [AllWritable]
  | cons item rest ih => simp [AllWritable, ih]

theorem membersWritable_iff {members : List (String × Json)} :
    MembersWritable members ↔ ∀ member ∈ members, member.2.Writable := by
  induction members with
  | nil => simp [MembersWritable]
  | cons member rest ih => simp [MembersWritable, ih]

mutual

theorem Writable.readable (json : Json) (h : json.Writable) : json.readable := by
  match json with
  | .array items => exact allReadable_of_allWritable items h
  | .object members => exact membersReadable_of_membersWritable members h
  | .null | .boolean _ | .integer _ | .string _ => rfl
  | .decimal _ | .unreadable => exact h.elim

theorem allReadable_of_allWritable (items : List Json) (h : AllWritable items) :
    allReadable items := by
  match items with
  | [] => rfl
  | item :: rest =>
      simp [allReadable, Writable.readable item h.1, allReadable_of_allWritable rest h.2]

theorem membersReadable_of_membersWritable (members : List (String × Json))
    (h : MembersWritable members) : membersReadable members := by
  match members with
  | [] => rfl
  | (_, value) :: rest =>
      simp [membersReadable, Writable.readable value h.1,
        membersReadable_of_membersWritable rest h.2]

end

/-- The text goes on with nothing that belongs to a number. -/
def NumberEnds (rest : List Char) : Prop :=
  ∀ c ∈ rest.head?, c.isDigit = false ∧ c ≠ '.' ∧ c ≠ 'e' ∧ c ≠ 'E'

theorem digits_append {front rest : List Char} (decimal : ∀ c ∈ front, c.isDigit)
    (ends : NumberEnds rest) : digits (front ++ rest) = (front, rest) := by
  rw [digits, List.takeWhile_append_of_pos decimal, List.dropWhile_append_of_pos decimal]
  cases rest with
  | nil => simp
  | cons c rest =>
      have other : ¬ c.isDigit := by simp [(ends c rfl).1]
      rw [List.takeWhile_cons_of_neg other, List.dropWhile_cons_of_neg other, List.append_nil]

theorem head?_toDigits_append (n : Nat) (rest : List Char) :
    (Nat.toDigits 10 n ++ rest).head? = (Nat.toDigits 10 n).head? := by
  cases written : Nat.toDigits 10 n with
  | nil => exact absurd written Nat.toDigits_ne_nil
  | cons c others => rfl

theorem head?_toDigits_ne_zero {n : Nat} (positive : 0 < n) :
    (Nat.toDigits 10 n).head? ≠ some '0' := by
  induction n using Nat.strongRecOn with
  | ind n ih =>
      by_cases small : n < 10
      · rw [Nat.toDigits_of_lt_base small]
        have nonzero : ∀ d < 10, 0 < d → [Nat.digitChar d].head? ≠ some '0' := by decide
        exact nonzero n small positive
      · have front := ih (n / 10) (by omega) (by omega)
        rwa [Nat.toDigits_of_base_le (by decide) (Nat.le_of_not_lt small), head?_toDigits_append]

theorem isDigit_of_mem_toDigits {n : Nat} {c : Char} (h : c ∈ Nat.toDigits 10 n) : c.isDigit :=
  Nat.isDigit_of_mem_toDigits (by decide) (by decide) h

theorem digitsValue_toDigits (n : Nat) : Text.digitsValue (Nat.toDigits 10 n) = n :=
  Nat.ofDigitChars_ten_toDigits

theorem whole?_toDigits (n : Nat) {rest : List Char} (ends : NumberEnds rest) :
    whole? (Nat.toDigits 10 n ++ rest) = some (Nat.toDigits 10 n, rest) := by
  by_cases zero : n = 0
  · subst zero
    rfl
  · have read : digits (Nat.toDigits 10 n ++ rest) = (Nat.toDigits 10 n, rest) :=
      digits_append (fun c => isDigit_of_mem_toDigits) ends
    rw [whole?]
    · rw [read, if_neg Nat.toDigits_ne_nil]
    · intro others starts
      refine head?_toDigits_ne_zero (Nat.pos_of_ne_zero zero) ?_
      rw [← head?_toDigits_append n rest, starts]
      rfl

theorem fraction?_of_numberEnds {rest : List Char} (ends : NumberEnds rest) :
    fraction? rest = some ([], rest) := by
  rw [fraction?]
  rintro others rfl
  exact (ends '.' rfl).2.1 rfl

theorem exponent?_of_numberEnds {rest : List Char} (ends : NumberEnds rest) :
    exponent? rest = some (none, rest) := by
  cases rest with
  | nil => rfl
  | cons c rest =>
      have plain := (ends c rfl).2.2
      simp [exponent?, plain]

theorem le_ofDigitChars (ds : List Char) (units : Nat) :
    units ≤ Nat.ofDigitChars 10 ds units := by
  induction ds generalizing units with
  | nil => exact Nat.le_refl _
  | cons c rest ih =>
      have next := ih (10 * units + (c.toNat - '0'.toNat))
      rw [Nat.ofDigitChars_cons]
      omega

theorem fitting_nil (units : Nat) : fitting units [] = (units, 0) := rfl

theorem fitting_cons (units : Nat) (c : Char) (rest : List Char) :
    fitting units (c :: rest) =
      if 10 * units + (c.toNat - '0'.toNat) < 18446744073709551616 then
        fitting (10 * units + (c.toNat - '0'.toNat)) rest
      else (units, rest.length + 1) := rfl

/-- Digits of a machine word are all kept. -/
theorem fitting_of_lt {ds : List Char} {units : Nat}
    (fits : Nat.ofDigitChars 10 ds units < 18446744073709551616) :
    fitting units ds = (Nat.ofDigitChars 10 ds units, 0) := by
  induction ds generalizing units with
  | nil => rfl
  | cons c rest ih =>
      rw [Nat.ofDigitChars_cons] at fits
      have grows := le_ofDigitChars rest (10 * units + (c.toNat - '0'.toNat))
      rw [fitting_cons, if_pos (by omega), ih fits, Nat.ofDigitChars_cons]

theorem roundBinary_le {n : Nat} (positive : n ≠ 0) : roundBinary n ≤ 2 * n := by
  have unit_le : Nat.pow 2 (Nat.log2 n - 52) ≤ n :=
    Nat.le_trans (Nat.pow_le_pow_right (by decide) (Nat.sub_le _ _)) (Nat.log2_self_le positive)
  have down : n / Nat.pow 2 (Nat.log2 n - 52) * Nat.pow 2 (Nat.log2 n - 52) ≤ n :=
    Nat.div_mul_le_self _ _
  simp only [roundBinary]
  split
  · rw [Nat.add_mul]
    omega
  · omega

theorem inRange_of_lt {ds : List Char}
    (fits : Text.digitsValue ds < 18446744073709551616) :
    (Scaled.ofDigits ds [] 0).inRange := by
  have kept : fitting 0 ds = (Text.digitsValue ds, 0) := fitting_of_lt fits
  have scaled : Scaled.ofDigits ds [] 0 = ⟨Text.digitsValue ds, 0⟩ := by
    simp [Scaled.ofDigits, kept, fitting_nil]
  rw [scaled, Scaled.inRange]
  by_cases zero : Text.digitsValue ds = 0
  · simp [zero]
  · have one : roundBinary (Nat.pow 10 (Int.toNat 0)) = 1 := by decide
    have bound : 36893488147419103232 ≤ magnitudeBound := by decide +kernel
    have rounded := roundBinary_le zero
    have product : roundBinary (Text.digitsValue ds) *
        roundBinary (Nat.pow 10 (Int.toNat 0)) < magnitudeBound := by
      rw [one]
      omega
    rw [if_neg (by simp [zero]), if_neg (by simp [largestPower])]
    exact decide_eq_true product

theorem ofNumber_toDigits (negative : Bool) {n : Nat} (signed : negative = true → n ≠ 0)
    (small : n < 18446744073709551616) (written : List Char) :
    ofNumber negative (Nat.toDigits 10 n) [] none written =
      .integer (if negative then -n else n) := by
  have value := digitsValue_toDigits n
  have range : (Scaled.ofDigits (Nat.toDigits 10 n) [] 0).inRange := inRange_of_lt (by rwa [value])
  have proper : ¬ (negative = true ∧ n = 0) := fun both => signed both.1 both.2
  simp [ofNumber, range, value, proper]

theorem number?_negative {n : Nat} (nonzero : n ≠ 0) (small : n < 18446744073709551616)
    {rest : List Char} (ends : NumberEnds rest) :
    number? ('-' :: Nat.toDigits 10 n ++ rest) = some (.integer (-n), rest) := by
  simp only [number?, List.cons_append, whole?_toDigits n ends, fraction?_of_numberEnds ends,
    exponent?_of_numberEnds ends, Option.bind_eq_bind, Option.bind_some, Option.pure_def,
    ofNumber_toDigits true (fun _ => nonzero) small, if_true]

theorem number?_natural {n : Nat} (small : n < 18446744073709551616) {rest : List Char}
    (ends : NumberEnds rest) :
    number? (Nat.toDigits 10 n ++ rest) = some (.integer n, rest) := by
  have unsigned : ∀ others, Nat.toDigits 10 n ++ rest ≠ '-' :: others := by
    intro others starts
    have head := head?_toDigits_append n rest
    rw [starts] at head
    have digit := isDigit_of_mem_toDigits (List.mem_of_mem_head? head.symm)
    exact absurd digit (by decide)
  unfold number?
  split
  next signed =>
    split at signed
    · next others starts => exact absurd starts (unsigned others)
    · cases signed
      simp only [whole?_toDigits n ends, fraction?_of_numberEnds ends,
        exponent?_of_numberEnds ends, Option.bind_eq_bind, Option.bind_some, Option.pure_def,
        ofNumber_toDigits false (by simp) small]
      rfl

/-- A machine integer is read from its digits. -/
theorem number?_integer (n : Int64) {rest : List Char} (ends : NumberEnds rest) :
    number? ((toString n.toInt).toList ++ rest) = some (.integer n.toInt, rest) := by
  have low := n.le_toInt
  have high := n.toInt_lt
  rw [Int.toString_eq_repr, Int.repr_eq_if]
  split
  · next natural =>
      rw [Nat.toList_repr, number?_natural (by omega) ends, Int.toNat_of_nonneg natural]
  · next negative =>
      have back : -(((-n.toInt).toNat : Nat) : Int) = n.toInt := by omega
      rw [String.toList_append, Nat.toList_repr]
      have read := number?_negative (n := (-n.toInt).toNat) (by omega) (by omega) ends
      rwa [back] at read

/-- What is read where a character has been written. -/
def itemOf (c : Char) : Item := if c.toNat < 0x20 then .unit c.toNat else .char c

theorem hexValue?_hexDigit : ∀ d < 16, hexValue? (Percent.hexDigit d) = some d := by decide

theorem items?_escapeChar (c : Char) (rest : List Char) :
    items? (escapeChar c ++ rest) =
      (items? rest).map fun read => (itemOf c :: read.1, read.2) := by
  rw [escapeChar]
  split
  · next special =>
      rcases special with rfl | rfl
      · cases read : items? rest <;> simp [items?, escape?, read, itemOf]
      · cases read : items? rest <;> simp [items?, escape?, read, itemOf]
  · next plain =>
      split
      · next control =>
          have high := hexValue?_hexDigit (c.toNat / 16) (by omega)
          have low := hexValue?_hexDigit (c.toNat % 16) (by omega)
          have zero : hexValue? '0' = some 0 := by decide
          have code : 16 * (c.toNat / 16) + c.toNat % 16 = c.toNat := Nat.div_add_mod _ _
          cases read : items? rest <;>
            simp [items?, unit?, read, itemOf, control, high, low, zero, code]
      · next visible =>
          simp only [not_or] at plain
          rw [List.singleton_append, items?]
          · simp [visible, plain, itemOf]
          · exact plain.1
          · rintro _ _ _ _ _ rfl
            exact absurd rfl plain.2
          · rintro _ _ rfl
            exact absurd rfl plain.2

theorem items?_quote (text : List Char) (rest : List Char) :
    items? (text.flatMap escapeChar ++ '"' :: rest) = some (text.map itemOf, rest) := by
  induction text with
  | nil => simp [items?]
  | cons c text ih =>
      rw [List.flatMap_cons, List.append_assoc, items?_escapeChar, ih]
      rfl

/-- The code of a control character is half of no pair. -/
theorem decode?_unit {code : Nat} (control : code < 0x20) (items : List Item) :
    decode? (.unit code :: items) = (decode? items).map (Char.ofNat code :: ·) := by
  have valid : code.isValidChar := Or.inl (by omega)
  cases items with
  | nil => simp [decode?, valid]
  | cons item rest =>
      cases item with
      | char c => simp [decode?, valid]
      | unit low =>
          have single : ¬ (0xD800 ≤ code ∧ code < 0xDC00 ∧ 0xDC00 ≤ low ∧ low < 0xE000) := by omega
          rw [decode?, if_neg single, if_pos valid]

theorem decode?_itemOf (text : List Char) : decode? (text.map itemOf) = some text := by
  induction text with
  | nil => rfl
  | cons c rest ih =>
      rw [List.map_cons, itemOf]
      split
      · next control => rw [decode?_unit control, ih, Option.map_some, Char.ofNat_toNat]
      · rw [decode?, ih, Option.map_some]

theorem toList_quote (text : String) :
    (quote text).toList = '"' :: (text.toList.flatMap escapeChar ++ ['"']) := by
  simp [quote]

theorem string??_quote (text : String) (rest : List Char) :
    string?? (text.toList.flatMap escapeChar ++ '"' :: rest) = some (some text, rest) := by
  simp [string??, items?_quote, decode?_itemOf]

theorem toList_renderAll_cons (item : Json) {others : List Json} (nonempty : others ≠ []) :
    (String.intercalate "," (renderAll (item :: others))).toList =
      item.render.toList ++ ',' :: (String.intercalate "," (renderAll others)).toList := by
  cases others with
  | nil => exact absurd rfl nonempty
  | cons next rest => simp [renderAll, String.toList_intercalate, List.intercalate]

theorem toList_renderMember (name : String) (value : Json) :
    (String.intercalate "," (renderMembers [(name, value)])).toList =
      (quote name).toList ++ ':' :: value.render.toList := by
  simp [renderMembers]

theorem toList_renderMembers_cons (name : String) (value : Json) {others : List (String × Json)}
    (nonempty : others ≠ []) :
    (String.intercalate "," (renderMembers ((name, value) :: others))).toList =
      (quote name).toList ++ ':' :: (value.render.toList ++
        ',' :: (String.intercalate "," (renderMembers others)).toList) := by
  cases others with
  | nil => exact absurd rfl nonempty
  | cons next rest => simp [renderMembers, String.toList_intercalate, List.intercalate]

theorem toList_render_array (items : List Json) : (render (.array items)).toList =
    '[' :: ((String.intercalate "," (renderAll items)).toList ++ [']']) := by
  simp [render, -String.toList_intercalate]

theorem toList_render_object (members : List (String × Json)) :
    (render (.object members)).toList =
      '\x7b' :: ((String.intercalate "," (renderMembers members)).toList ++ ['\x7d']) := by
  simp [render, -String.toList_intercalate]

/-- An integer begins with a sign or a digit. -/
theorem exists_toString_eq_cons (n : Int) :
    ∃ c text, (toString n).toList = c :: text ∧ (c = '-' ∨ c.isDigit) := by
  rw [Int.toString_eq_repr, Int.repr_eq_if]
  split
  · rw [Nat.toList_repr]
    cases written : Nat.toDigits 10 n.toNat with
    | nil => exact absurd written Nat.toDigits_ne_nil
    | cons c text =>
        have member : c ∈ Nat.toDigits 10 n.toNat := by simp [written]
        exact ⟨c, text, rfl, .inr (isDigit_of_mem_toDigits member)⟩
  · exact ⟨'-', _, String.toList_append, .inl rfl⟩

theorem ne_of_sign {c d : Char} (sign : c = '-' ∨ c.isDigit) (other : d ≠ '-' ∧ ¬ d.isDigit) :
    c ≠ d := by
  rintro rfl
  exact sign.elim other.1 other.2

/-- A value begins with no space, and with no closing bracket. -/
theorem exists_render_eq_cons {json : Json} (h : json.Writable) :
    ∃ c text, json.render.toList = c :: text ∧ isSpace c = false ∧ c ≠ ']' := by
  cases json with
  | null => exact ⟨'n', _, rfl, by decide, by decide⟩
  | boolean b =>
      cases b with
      | true => exact ⟨'t', _, rfl, by decide, by decide⟩
      | false => exact ⟨'f', _, rfl, by decide, by decide⟩
  | integer n =>
      obtain ⟨c, text, written, sign⟩ := exists_toString_eq_cons n
      have dense : isSpace c = false := by
        have noSpace := ne_of_sign (d := ' ') sign (by decide)
        have noTab := ne_of_sign (d := '\t') sign (by decide)
        have noLine := ne_of_sign (d := '\n') sign (by decide)
        have noReturn := ne_of_sign (d := '\r') sign (by decide)
        simp [isSpace, noSpace, noTab, noLine, noReturn]
      exact ⟨c, text, written, dense, ne_of_sign sign (by decide)⟩
  | string text => exact ⟨'"', _, toList_quote text, by decide, by decide⟩
  | array items => exact ⟨'[', _, toList_render_array items, by decide, by decide⟩
  | object members => exact ⟨'\x7b', _, toList_render_object members, by decide, by decide⟩
  | decimal _ | unreadable => exact h.elim

theorem skipSpace_cons {c : Char} (dense : isSpace c = false) (rest : List Char) :
    skipSpace (c :: rest) = c :: rest := by
  simp [skipSpace, dense]

theorem skipSpace_render {json : Json} (h : json.Writable) (rest : List Char) :
    skipSpace (json.render.toList ++ rest) = json.render.toList ++ rest := by
  obtain ⟨c, text, written, dense, -⟩ := exists_render_eq_cons h
  rw [written, List.cons_append, skipSpace_cons dense]

theorem value?_sign {c : Char} (sign : c = '-' ∨ c.isDigit) (fuel levels : Nat)
    (rest : List Char) : value? (fuel + 1) levels (c :: rest) = number? (c :: rest) := by
  rw [value?]
  all_goals
    intro others starts
    exact absurd (List.cons.inj starts).1 (ne_of_sign sign (by decide))

theorem value?_array {fuel levels : Nat} {items : List Json} {c : Char} {text rest : List Char}
    (dense : isSpace c = false) (opens : c ≠ ']')
    (read : elements? fuel levels (c :: text) = some (items, rest)) :
    value? (fuel + 1) (levels + 1) ('[' :: c :: text) = some (.array items, rest) := by
  rw [value?, skipSpace_cons dense]
  split
  · next starts => exact absurd (List.cons.inj starts).1 opens
  · simp [read, nested]

theorem value?_object {fuel levels : Nat} {members : List (Option String × Json)}
    {text rest : List Char}
    (read : pairs? fuel levels ('"' :: text) = some (members, rest)) :
    value? (fuel + 1) (levels + 1) ('\x7b' :: '"' :: text) = some (ofMembers members, rest) := by
  have dense : isSpace '"' = false := by decide
  rw [value?, skipSpace_cons dense]
  simp [read, nested]

theorem numberEnds_cons {c : Char} (ends : ¬ c.isDigit ∧ c ≠ '.' ∧ c ≠ 'e' ∧ c ≠ 'E')
    (rest : List Char) : NumberEnds (c :: rest) := by
  rintro _ ⟨⟩
  simpa using ends

theorem exists_renderAll_eq_cons {items : List Json} (nonempty : items ≠ [])
    (h : AllWritable items) :
    ∃ c text, (String.intercalate "," (renderAll items)).toList = c :: text ∧
      isSpace c = false ∧ c ≠ ']' := by
  cases items with
  | nil => exact absurd rfl nonempty
  | cons item others =>
      obtain ⟨c, text, written, plain⟩ := exists_render_eq_cons h.1
      by_cases last : others = []
      · subst last
        exact ⟨c, text, by simpa [renderAll] using written, plain⟩
      · rw [toList_renderAll_cons item last, written]
        exact ⟨c, _, rfl, plain⟩

theorem exists_renderMembers_eq_cons {members : List (String × Json)} (nonempty : members ≠ []) :
    ∃ text, (String.intercalate "," (renderMembers members)).toList = '"' :: text := by
  cases members with
  | nil => exact absurd rfl nonempty
  | cons member others =>
      by_cases last : others = []
      · subst last
        rw [toList_renderMember, toList_quote]
        exact ⟨_, rfl⟩
      · rw [toList_renderMembers_cons _ _ last, toList_quote]
        exact ⟨_, rfl⟩

/-- The members as they are read, with readable names. -/
def named (members : List (String × Json)) : List (Option String × Json) :=
  members.map fun member => (some member.1, member.2)

theorem ofMembers_named (members : List (String × Json)) :
    ofMembers (named members) = .object members := by
  have read : (named members).mapM (fun member => member.1.map fun name => (name, member.2)) =
      some members := by
    induction members with
    | nil => rfl
    | cons member rest ih =>
        rw [named] at ih
        simp [named, ih]
  rw [ofMembers, read]

theorem elements?_last {fuel levels : Nat} {item : Json} {text rest : List Char}
    (read : value? fuel levels text = some (item, ']' :: rest)) :
    elements? (fuel + 1) levels text = some ([item], rest) := by
  rw [elements?, read]
  simp [skipSpace_cons (c := ']') (by decide)]

theorem elements?_more {fuel levels : Nat} {item : Json} {items : List Json}
    {text others rest : List Char} (read : value? fuel levels text = some (item, ',' :: others))
    (dense : skipSpace others = others)
    (behind : elements? fuel levels others = some (items, rest)) :
    elements? (fuel + 1) levels text = some (item :: items, rest) := by
  rw [elements?, read]
  simp [skipSpace_cons (c := ',') (by decide), dense, behind]

theorem pairs?_last {fuel levels : Nat} (name : String) {value : Json} {text rest : List Char}
    (dense : skipSpace text = text)
    (read : value? fuel levels text = some (value, '\x7d' :: rest)) :
    pairs? (fuel + 1) levels ((quote name).toList ++ ':' :: text) =
      some ([(some name, value)], rest) := by
  rw [pairs?, toList_quote, List.cons_append, List.append_assoc, List.singleton_append]
  simp [expect?, string??_quote, skipSpace_cons (c := ':') (by decide), dense, read,
    skipSpace_cons (c := '\x7d') (by decide)]

theorem pairs?_more {fuel levels : Nat} (name : String) {value : Json}
    {members : List (Option String × Json)} {text others rest : List Char}
    (dense : skipSpace text = text)
    (read : value? fuel levels text = some (value, ',' :: others))
    (dense' : skipSpace others = others)
    (behind : pairs? fuel levels others = some (members, rest)) :
    pairs? (fuel + 1) levels ((quote name).toList ++ ':' :: text) =
      some ((some name, value) :: members, rest) := by
  rw [pairs?, toList_quote, List.cons_append, List.append_assoc, List.singleton_append]
  simp [expect?, string??_quote, skipSpace_cons (c := ':') (by decide), dense, read,
    skipSpace_cons (c := ',') (by decide), dense', behind]

mutual

/-- A value is read from its text, whatever follows that is no part of a number. -/
theorem value?_render (json : Json) (writable : json.Writable) (fuel : Nat) {levels : Nat}
    (fueled : 2 * json.render.toList.length ≤ fuel + 1) (shallow : json.depth ≤ levels)
    {rest : List Char} (ends : NumberEnds rest) :
    value? fuel levels (json.render.toList ++ rest) = some (json, rest) := by
  obtain ⟨c, text, written, -⟩ := exists_render_eq_cons writable
  have positive : 1 ≤ fuel := by
    rw [written, List.length_cons] at fueled
    omega
  obtain ⟨fuel, rfl⟩ := Nat.exists_eq_add_of_le' positive
  cases json with
  | null => simp [render, value?, expectWord?, expect?]
  | boolean b => cases b <;> simp [render, value?, expectWord?, expect?]
  | integer n =>
      obtain ⟨m, rfl⟩ := writable
      obtain ⟨c, text, written, sign⟩ := exists_toString_eq_cons m.toInt
      have read := number?_integer m ends
      rw [render, written, List.cons_append, value?_sign sign]
      rwa [written] at read
  | string text =>
      rw [render, toList_quote, List.cons_append, List.append_assoc, List.singleton_append, value?,
        string??_quote]
      rfl
  | array items =>
      obtain ⟨levels, rfl⟩ := Nat.exists_eq_add_of_le' (Nat.le_of_add_left_le shallow)
      rw [toList_render_array] at fueled ⊢
      by_cases empty : items = []
      · subst empty
        simp [renderAll, value?, skipSpace, isSpace, nested]
      · rw [List.length_cons, List.length_append] at fueled
        have inside : depthAll items ≤ levels := Nat.le_of_succ_le_succ shallow
        have read := elements?_render items empty writable fuel (by omega) inside rest
        obtain ⟨c, text, written, dense, opens⟩ := exists_renderAll_eq_cons empty writable
        rw [written] at read ⊢
        rw [List.cons_append, List.append_assoc, List.singleton_append]
        exact value?_array dense opens read
  | object members =>
      obtain ⟨levels, rfl⟩ := Nat.exists_eq_add_of_le' (Nat.le_of_add_left_le shallow)
      rw [toList_render_object] at fueled ⊢
      by_cases empty : members = []
      · subst empty
        simp [renderMembers, value?, skipSpace, isSpace, nested]
      · rw [List.length_cons, List.length_append] at fueled
        have inside : depthMembers members ≤ levels := Nat.le_of_succ_le_succ shallow
        have read := pairs?_render members empty writable fuel (by omega) inside rest
        obtain ⟨text, written⟩ := exists_renderMembers_eq_cons empty
        rw [written] at read ⊢
        rw [List.cons_append, List.append_assoc, List.singleton_append, ← ofMembers_named]
        exact value?_object read
  | decimal _ | unreadable => exact writable.elim

theorem elements?_render (items : List Json) (nonempty : items ≠ []) (writable : AllWritable items)
    (fuel : Nat) {levels : Nat}
    (fueled : 2 * (String.intercalate "," (renderAll items)).toList.length ≤ fuel)
    (shallow : depthAll items ≤ levels) (rest : List Char) :
    elements? fuel levels ((String.intercalate "," (renderAll items)).toList ++ ']' :: rest) =
      some (items, rest) := by
  obtain ⟨c, text, written, -⟩ := exists_renderAll_eq_cons nonempty writable
  have positive : 1 ≤ fuel := by
    rw [written, List.length_cons] at fueled
    omega
  obtain ⟨fuel, rfl⟩ := Nat.exists_eq_add_of_le' positive
  match items with
  | [] => exact absurd rfl nonempty
  | item :: others =>
      obtain ⟨here, inside⟩ := Nat.max_le.mp shallow
      by_cases last : others = []
      · subst last
        exact elements?_last (value?_render item writable.1 _ fueled here
          (numberEnds_cons (c := ']') (by decide) rest))
      · rw [toList_renderAll_cons item last, List.length_append, List.length_cons] at fueled
        have behind := elements?_render others last writable.2 fuel (by omega) inside rest
        obtain ⟨c, text, written, dense, -⟩ := exists_renderAll_eq_cons last writable.2
        rw [toList_renderAll_cons item last, List.append_assoc, List.cons_append]
        have first := value?_render item writable.1 fuel (by omega) here
          (numberEnds_cons (c := ',') (by decide)
            ((String.intercalate "," (renderAll others)).toList ++ ']' :: rest))
        refine elements?_more first ?_ behind
        rw [written, List.cons_append, skipSpace_cons dense]

theorem pairs?_render (members : List (String × Json)) (nonempty : members ≠ [])
    (writable : MembersWritable members) (fuel : Nat) {levels : Nat}
    (fueled : 2 * (String.intercalate "," (renderMembers members)).toList.length ≤ fuel)
    (shallow : depthMembers members ≤ levels) (rest : List Char) :
    pairs? fuel levels ((String.intercalate "," (renderMembers members)).toList ++ '\x7d' :: rest) =
      some (named members, rest) := by
  obtain ⟨text, written⟩ := exists_renderMembers_eq_cons nonempty
  have positive : 1 ≤ fuel := by
    rw [written, List.length_cons] at fueled
    omega
  obtain ⟨fuel, rfl⟩ := Nat.exists_eq_add_of_le' positive
  match members with
  | [] => exact absurd rfl nonempty
  | (name, value) :: others =>
      obtain ⟨here, inside⟩ := Nat.max_le.mp shallow
      by_cases last : others = []
      · subst last
        rw [toList_renderMember, List.length_append, List.length_cons] at fueled
        rw [toList_renderMember, List.append_assoc, List.cons_append]
        exact pairs?_last name (skipSpace_render writable.1 _)
          (value?_render value writable.1 _ (by omega) here (numberEnds_cons (by decide) rest))
      · rw [toList_renderMembers_cons name value last, List.length_append, List.length_cons,
          List.length_append, List.length_cons] at fueled
        have behind := pairs?_render others last writable.2 fuel (by omega) inside rest
        obtain ⟨text, written⟩ := exists_renderMembers_eq_cons last
        rw [toList_renderMembers_cons name value last, List.append_assoc, List.cons_append,
          List.append_assoc, List.cons_append]
        have first := value?_render value writable.1 fuel (by omega) here
          (numberEnds_cons (c := ',') (by decide)
            ((String.intercalate "," (renderMembers others)).toList ++ '\x7d' :: rest))
        refine pairs?_more name (skipSpace_render writable.1 _) first ?_ behind
        rw [written, List.cons_append, skipSpace_cons (by decide)]

end

/-- A document comes back from its text. -/
theorem parse?_render {json : Json} (writable : json.Writable)
    (shallow : json.depth ≤ nestingLimit) : parse? json.render = some json := by
  have ends : NumberEnds [] := by simp [NumberEnds]
  have read := value?_render json writable (2 * json.render.toList.length + 2) (by omega) shallow
    ends
  have dense := skipSpace_render writable []
  rw [List.append_nil] at read dense
  simp only [parse?, dense, read]
  rfl

end EndpointResolution.Json
