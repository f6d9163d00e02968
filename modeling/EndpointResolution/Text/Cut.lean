/-!
Texts taken apart at the first or at the last occurrence of a separator, at all of them, or behind a
number of bytes, and pieces of ASCII texts by position.
-/

namespace EndpointResolution.Text

/-- The text before the first separator and the text after it. -/
def cut? (separator : Char) : List Char → Option (List Char × List Char)
  | [] => none
  | c :: rest =>
      if c = separator then some ([], rest)
      else (cut? separator rest).map fun parts => (c :: parts.1, parts.2)

theorem cut?_eq_none_iff {separator : Char} {text : List Char} :
    cut? separator text = none ↔ separator ∉ text := by
  induction text with
  | nil => simp [cut?]
  | cons c rest ih =>
      rw [cut?]
      split
      · next eq => simp [eq]
      · next ne => simp [ih, Ne.symm ne]

theorem cut?_append {separator : Char} {front : List Char} (whole : separator ∉ front)
    (rest : List Char) : cut? separator (front ++ separator :: rest) = some (front, rest) := by
  induction front with
  | nil => simp [cut?]
  | cons c front ih =>
      simp only [List.mem_cons, not_or] at whole
      rw [List.cons_append, cut?, if_neg (Ne.symm whole.1), ih whole.2]
      rfl

theorem cut?_eq_some_iff {separator : Char} {text front rest : List Char} :
    cut? separator text = some (front, rest) ↔
      text = front ++ separator :: rest ∧ separator ∉ front := by
  constructor
  · intro read
    by_cases present : separator ∈ text
    · obtain ⟨before, behind, rfl, whole⟩ := List.eq_append_cons_of_mem present
      rw [cut?_append whole] at read
      cases read
      exact ⟨rfl, whole⟩
    · rw [cut?_eq_none_iff.mpr present] at read
      cases read
  · rintro ⟨rfl, whole⟩
    exact cut?_append whole rest

/-- The text behind the last separator, or the whole text if there is none. -/
def afterLast (separator : Char) (chars : List Char) : List Char :=
  (chars.reverse.takeWhile (· ≠ separator)).reverse

theorem not_mem_afterLast (separator : Char) (chars : List Char) :
    separator ∉ afterLast separator chars := by
  rw [afterLast, List.mem_reverse]
  intro inside
  simpa using List.all_eq_true.mp List.all_takeWhile separator inside

/-- What has no separator in it is kept. -/
theorem afterLast_append {separator : Char} {back : List Char} (whole : separator ∉ back)
    (front : List Char) :
    afterLast separator (front ++ back) = afterLast separator front ++ back := by
  have all : ∀ c ∈ back.reverse, (decide (c ≠ separator)) = true := by
    intro c inside
    rw [decide_eq_true_eq]
    rintro rfl
    exact whole (List.mem_reverse.mp inside)
  rw [afterLast, List.reverse_append, List.takeWhile_append_of_pos all, List.reverse_append,
    List.reverse_reverse, afterLast]

theorem afterLast_separator (separator : Char) (front : List Char) :
    afterLast separator (front ++ [separator]) = [] := by
  simp [afterLast]

/-- What comes in front of it is nothing, or ends in the separator. -/
theorem exists_append_afterLast (separator : Char) (chars : List Char) :
    ∃ front, chars = front ++ afterLast separator chars ∧
      (front = [] ∨ ∃ before, front = before ++ [separator]) := by
  refine ⟨(chars.reverse.dropWhile (· ≠ separator)).reverse, ?_, ?_⟩
  · rw [afterLast, ← List.reverse_append, List.takeWhile_append_dropWhile, List.reverse_reverse]
  · cases left : chars.reverse.dropWhile (· ≠ separator) with
    | nil => exact .inl rfl
    | cons c before =>
        have last := List.head?_dropWhile_not (· ≠ separator) chars.reverse
        rw [left] at last
        have eq : c = separator := by simpa using last
        exact .inr ⟨before.reverse, by rw [eq, List.reverse_cons]⟩

theorem not_mem_of_mem_splitOn {separator : Char} {text part : List Char}
    (h : part ∈ text.splitOn separator) : separator ∉ part := by
  rw [List.splitOn_eq_splitOnP] at h
  induction text generalizing part with
  | nil => simp_all
  | cons c rest ih =>
      rw [List.splitOnP_cons_eq_if_modifyHead] at h
      split at h
      · rcases List.mem_cons.mp h with rfl | behind
        · simp
        · exact ih behind
      · next other =>
          -- The character belongs to the first of the parts of the rest.
          cases parts : rest.splitOnP (· == separator) with
          | nil => simp [parts] at h
          | cons front others =>
              rw [parts, List.modifyHead_cons] at h
              rcases List.mem_cons.mp h with rfl | behind
              · have inside : separator ∉ front := ih (by simp [parts])
                simp_all [Ne.symm]
              · exact ih (by simp [parts, behind])

/-- What comes in front without a separator belongs to the first part. -/
theorem splitOn_append_of_not_mem {separator : Char} {front rest part : List Char}
    {parts : List (List Char)} (whole : separator ∉ front)
    (split : rest.splitOn separator = part :: parts) :
    (front ++ rest).splitOn separator = (front ++ part) :: parts := by
  have inside : ∀ other ∈ part :: parts, separator ∉ other := by
    rw [← split]
    exact fun _ => not_mem_of_mem_splitOn
  have behind : List.intercalate [separator] (part :: parts) = rest :=
    split ▸ List.intercalate_splitOn separator
  have joined : front ++ rest = List.intercalate [separator] ((front ++ part) :: parts) := by
    rw [← behind]
    cases parts <;> simp [List.intercalate_cons_cons]
  rw [joined]
  refine List.splitOn_intercalate separator ?_ (List.cons_ne_nil _ _)
  simp_all

/-- What is joined has the characters of its parts, and the separator if there is something to
separate. -/
theorem mem_intercalate_iff {separator c : Char} {parts : List (List Char)} :
    c ∈ List.intercalate [separator] parts ↔
      (∃ part ∈ parts, c ∈ part) ∨ (c = separator ∧ 2 ≤ parts.length) := by
  induction parts with
  | nil => simp
  | cons part rest ih =>
      cases rest with
      | nil => simp
      | cons other rest =>
          rw [List.intercalate_cons_cons, List.mem_append, List.mem_append, ih]
          by_cases own : c = separator
          · simp [own]
          · simp [own]

theorem intercalate_append {separator : Char} {parts others : List (List Char)}
    (some : parts ≠ []) (more : others ≠ []) : List.intercalate [separator] (parts ++ others) =
      List.intercalate [separator] parts ++ separator :: List.intercalate [separator] others := by
  induction parts with
  | nil => exact absurd rfl some
  | cons part rest ih =>
      cases rest with
      | nil =>
          obtain ⟨other, others, rfl⟩ := List.exists_cons_of_ne_nil more
          simp [List.intercalate_cons_cons]
      | cons next rest =>
          rw [List.cons_append, List.cons_append, List.intercalate_cons_cons, ← List.cons_append,
            ih (by simp), List.intercalate_cons_cons]
          simp

def byteCount : List Char → Nat
  | [] => 0
  | c :: rest => c.utf8Size + byteCount rest

/-- The text behind so many bytes, if that is where a character begins. -/
def dropBytes? : Nat → List Char → Option (List Char)
  | 0, text => some text
  | _ + 1, [] => none
  | n + 1, c :: rest => if c.utf8Size ≤ n + 1 then dropBytes? (n + 1 - c.utf8Size) rest else none

theorem dropBytes?_zero (text : List Char) : dropBytes? 0 text = some text := by
  cases text <;> rw [dropBytes?]

/-- Every character has a byte at least. -/
theorem length_le_byteCount (text : List Char) : text.length ≤ byteCount text := by
  induction text with
  | nil => exact Nat.zero_le _
  | cons c rest ih =>
      have some := c.utf8Size_pos
      rw [List.length_cons, byteCount]
      omega

theorem dropBytes?_byteCount (front rest : List Char) :
    dropBytes? (byteCount front) (front ++ rest) = some rest := by
  induction front with
  | nil => exact dropBytes?_zero rest
  | cons c front ih =>
      have some := c.utf8Size_pos
      obtain ⟨n, count⟩ : ∃ n, c.utf8Size + byteCount front = n + 1 :=
        Nat.exists_eq_add_one.mpr (by omega)
      have behind : n + 1 - c.utf8Size = byteCount front := by omega
      rw [byteCount, count, List.cons_append, dropBytes?, if_pos (by omega), behind, ih]

theorem dropBytes?_eq_some_iff {n : Nat} {text rest : List Char} :
    dropBytes? n text = some rest ↔ ∃ front, text = front ++ rest ∧ byteCount front = n := by
  constructor
  · intro read
    induction text generalizing n with
    | nil =>
        cases n with
        | zero => exact ⟨[], by simpa [dropBytes?_zero] using read, rfl⟩
        | succ n => cases read
    | cons c text ih =>
        cases n with
        | zero => exact ⟨[], by simpa [dropBytes?_zero] using read, rfl⟩
        | succ n =>
            rw [dropBytes?] at read
            split at read
            · next fits =>
                obtain ⟨front, rfl, count⟩ := ih read
                refine ⟨c :: front, rfl, ?_⟩
                rw [byteCount]
                omega
            · cases read
  · rintro ⟨front, rfl, rfl⟩
    exact dropBytes?_byteCount front rest

/-- The value of a run of decimal digits. -/
def digitsValue (digits : List Char) : Nat :=
  digits.foldl (fun n c => 10 * n + (c.toNat - '0'.toNat)) 0

def isAscii (chars : List Char) : Bool := chars.all fun c => c.toNat < 128

/-- The characters from position `start` up to, not including, position `stop`, counted from either
end. Counting backwards, position `0` lies behind the last character. -/
def slice (chars : List Char) (start stop : Nat) (backwards : Bool) : List Char :=
  if backwards then (chars.drop (chars.length - stop)).take (stop - start)
  else (chars.drop start).take (stop - start)

/-- Only a non-empty range inside an ASCII text denotes a piece. -/
def substring? (text : String) (start stop : Int64) (backwards : Bool) : Option String :=
  let chars := text.toList
  if isAscii chars ∧ 0 ≤ start.toInt ∧ start.toInt < stop.toInt ∧ stop.toInt ≤ chars.length then
    some (String.ofList (slice chars start.toInt.toNat stop.toInt.toNat backwards))
  else none

end EndpointResolution.Text
