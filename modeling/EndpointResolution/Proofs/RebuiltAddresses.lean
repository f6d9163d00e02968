import EndpointResolution.Proofs.AddressParts

/-!
Service addresses put together again. The parts of an address, with the path completed, are read as
the same address, but for one case: a blank that ends the authority is cleaned away where it ends
the text, and refused as part of the port where a path follows.
-/

namespace EndpointResolution

namespace Url

theorem isBlank_of_isDigit {c : Char} (digit : c.isDigit = true) : isBlank c = false := by
  simp only [Char.isDigit, Bool.and_eq_true, decide_eq_true_eq, ge_iff_le,
    UInt32.le_iff_toNat_le] at digit
  have first : 48 ≤ c.val.toNat := digit.1
  simp only [isBlank, Char.toNat, decide_eq_false_iff_not]
  omega

/-- What is behind the host is nothing, or begins with a colon. -/
theorem drop_hostLength (inBrackets : Bool) (text : List Char) :
    text.drop (hostLength inBrackets text) = [] ∨
      ∃ port, text.drop (hostLength inBrackets text) = ':' :: port := by
  induction text generalizing inBrackets with
  | nil => exact .inl rfl
  | cons c rest ih =>
      rw [hostLength]
      split
      · next colon => exact .inr ⟨rest, by rw [colon.1, List.drop_zero]⟩
      · exact ih _

end Url

namespace Host

theorem solid_last_of_parse? {front : List Char} {c : Char} {host : Host}
    (read : parse? (front ++ [c]) = some host) : Url.isBlank c = false := by
  rcases parse?_cases read with ⟨inner, _, whole, closed, -⟩ | ⟨-, _, named, -⟩
  · have last : (front ++ [c]).getLast? = some ']' := by
      rw [whole, List.getLast?_cons, closed, Option.getD_some]
    obtain rfl : c = ']' := by simpa using last
    decide
  · exact (solid_of_domain? named).2 c (by simp)

end Host

namespace Url

/-- The last character is part of the host or of the port, and neither ends in a blank. -/
theorem ofAuthority?_blank {c : Char} (blank : isBlank c = true) (scheme : Scheme)
    (front tail : List Char) : ofAuthority? scheme (front ++ [c]) tail = none := by
  have other : '@' ∉ [c] := by
    intro own
    rw [← List.mem_singleton.mp own] at blank
    cases blank
  rw [Option.eq_none_iff_forall_ne_some]
  intro url read
  simp only [ofAuthority?, Text.afterLast_append other, bind, Option.bind_eq_some_iff,
    Option.guard_eq_some'] at read
  obtain ⟨host, hosted, -, port, -⟩ := read
  have whole := List.take_append_drop
    (hostLength false (Text.afterLast '@' front ++ [c])) (Text.afterLast '@' front ++ [c])
  rcases drop_hostLength false (Text.afterLast '@' front ++ [c]) with none | ⟨digits, behind⟩
  · rw [none, List.append_nil] at whole
    rw [whole] at hosted
    rw [Host.solid_last_of_parse? hosted] at blank
    cases blank
  · rw [behind] at whole port
    have last : (':' :: digits).getLast? = some c := by
      simpa [List.getLast?_append] using congrArg List.getLast? whole
    rcases List.mem_cons.mp (List.mem_of_getLast? last) with rfl | inside
    · cases blank
    · rw [isBlank_of_isDigit
        (List.all_eq_true.mp (Bool.and_eq_true_iff.mp port).1 c inside)] at blank
      cases blank

theorem splitMark_of_not_mem {mark : Char} {text : List Char} (plain : mark ∉ text) :
    splitMark mark text = (text, none) := by
  rw [splitMark, Text.cut?_eq_none_iff.mpr plain]

theorem not_mem_of_splitMark {mark : Char} {text : List Char}
    (plain : (splitMark mark text).2 = none) : mark ∉ text := by
  rw [← Text.cut?_eq_none_iff]
  cases cut : Text.cut? mark text with
  | none => rfl
  | some parts => simp [splitMark, cut] at plain

/-- Nothing begins a query or a fragment. -/
def Unmarked (text : List Char) : Prop := '?' ∉ text ∧ '#' ∉ text

/-- Marks are neither blanks nor slashes. -/
theorem Unmarked.of_kept {text other : List Char} (plain : Unmarked text)
    (kept : ∀ c ∈ other, isBlank c = false → c ≠ '/' → c ∈ text) : Unmarked other :=
  ⟨fun inside => plain.1 (kept '?' inside (by decide) (by decide)),
    fun inside => plain.2 (kept '#' inside (by decide) (by decide))⟩

theorem unmarked_append {front back : List Char} (first : Unmarked front) (last : Unmarked back) :
    Unmarked (front ++ back) := by
  simp only [Unmarked, List.mem_append, not_or]
  exact ⟨⟨first.1, last.1⟩, first.2, last.2⟩

theorem unmarked_takeWhile (text : List Char) : Unmarked (text.takeWhile (!endsAuthority ·)) := by
  have plain (c : Char) (inside : c ∈ text.takeWhile (!endsAuthority ·)) :
      (!endsAuthority c) = true := List.all_eq_true.mp List.all_takeWhile c inside
  exact ⟨fun inside => absurd (plain '?' inside) (by decide),
    fun inside => absurd (plain '#' inside) (by decide)⟩

theorem unmarked_of_ofAuthority? {scheme : Scheme} {authority tail : List Char} {url : Url}
    (read : ofAuthority? scheme authority tail = some url)
    (unmarked : url.query = none ∧ url.fragment = none) : Unmarked tail := by
  simp only [ofAuthority?, bind, Option.bind_eq_some_iff, pure, Option.some.injEq] at read
  obtain ⟨_, -, -, -, rfl⟩ := read
  have plain : '#' ∉ tail := not_mem_of_splitMark unmarked.2
  have before := not_mem_of_splitMark unmarked.1
  rw [splitMark_of_not_mem plain] at before
  exact ⟨before, plain⟩

theorem ofAuthority?_of_unmarked {tail : List Char} (plain : Unmarked tail) (scheme : Scheme)
    (authority : List Char) :
    ofAuthority? scheme authority tail = ofAuthority? scheme authority [] := by
  simp only [ofAuthority?, splitMark_of_not_mem plain.1, splitMark_of_not_mem plain.2,
    splitMark_of_not_mem List.not_mem_nil]

theorem withoutBreaks_append (front back : List Char) :
    withoutBreaks (front ++ back) = withoutBreaks front ++ withoutBreaks back :=
  List.filter_append ..

/-- What is not blank is kept. -/
theorem mem_cleaned_of_solid {c : Char} (solid : isBlank c = false) {text : List Char}
    (inside : c ∈ text) : c ∈ withoutBreaks (trimEnd text) := by
  obtain ⟨front, back, rfl⟩ := List.append_of_mem inside
  rw [trimEnd_append_solid solid]
  exact List.mem_filter.mpr ⟨by simp, by simp [isLineBreak_of_solid solid]⟩

/-- What is cleaned away from the end are blanks. -/
theorem exists_append_trimEnd (text : List Char) :
    ∃ blanks, text = trimEnd text ++ blanks ∧ ∀ c ∈ blanks, isBlank c = true := by
  refine ⟨(text.reverse.takeWhile isBlank).reverse, ?_, ?_⟩
  · rw [trimEnd, ← List.reverse_append, List.takeWhile_append_dropWhile, List.reverse_reverse]
  · intro c inside
    exact List.all_eq_true.mp List.all_takeWhile c (List.mem_reverse.mp inside)

theorem mem_of_mem_cleaned {c : Char} {text : List Char}
    (inside : c ∈ withoutBreaks (trimEnd text)) : c ∈ text := by
  obtain ⟨blanks, whole, -⟩ := exists_append_trimEnd text
  rw [whole]
  exact List.mem_append_left _ (List.mem_filter.mp inside).1

/-- Line breaks apart, the text ends in a blank. -/
def endsInBlank (text : List Char) : Bool := (withoutBreaks text).getLast?.any isBlank

theorem exists_blank_of_endsInBlank {text : List Char} (ends : endsInBlank text = true) :
    ∃ front c, withoutBreaks text = front ++ [c] ∧ isBlank c = true := by
  rw [endsInBlank] at ends
  cases last : (withoutBreaks text).getLast? with
  | none => simp [last] at ends
  | some c =>
      obtain ⟨front, whole⟩ := List.getLast?_eq_some_iff.mp last
      exact ⟨front, c, whole, by simpa [last] using ends⟩

theorem withoutBreaks_trimEnd {text : List Char} (ends : endsInBlank text = false) :
    withoutBreaks (trimEnd text) = withoutBreaks text := by
  obtain ⟨blanks, whole, all⟩ := exists_append_trimEnd text
  have parts := congrArg withoutBreaks whole
  rw [withoutBreaks_append] at parts
  cases last : (withoutBreaks blanks).getLast? with
  | none => rw [parts, List.getLast?_eq_none_iff.mp last, List.append_nil]
  | some c =>
      have blank := all c (List.mem_filter.mp (List.mem_of_getLast? last)).1
      rw [endsInBlank, parts, List.getLast?_append, last, Option.some_or, Option.any_some,
        blank] at ends
      cases ends

end Url

namespace Address

/-- The text is the address written out, with the scheme in any letter case. -/
structure SpelledBy (address : Address) (text : List Char) : Prop where
  whole : ∃ front, text = front ++ [':', '/', '/'] ++ address.authority ++ address.path ∧
    front.map Char.toLower = address.scheme.text
  authority : '/' ∉ address.authority ∧ '\\' ∉ address.authority
  path : Rooted address.path
  solid : ∃ c ∈ address.authority, Url.isBlank c = false

variable {address : Address} {text : List Char}

/-- What the reader of web addresses has in front of it behind the slashes. -/
def remains (address : Address) : List Char :=
  Url.withoutBreaks (Url.trimEnd (address.authority ++ address.path))

/-- The authority as it is left by cleaning. -/
def seenAuthority (address : Address) : List Char :=
  Url.withoutBreaks
    (if address.path = [] then Url.trimEnd address.authority else address.authority)

theorem remains_eq (rooted : Rooted address.path) :
    ∃ tail, address.remains = address.seenAuthority ++ tail ∧ Rooted tail := by
  rcases rooted with empty | ⟨rest, path⟩
  · exact ⟨[], by simp [remains, seenAuthority, empty], .inl rfl⟩
  · refine ⟨'/' :: Url.withoutBreaks (Url.trimEnd rest), ?_, .inr ⟨_, rfl⟩⟩
    rw [remains, seenAuthority, path, Url.trimEnd_append_solid (by decide),
      Url.withoutBreaks_append, if_neg (List.cons_ne_nil _ _)]
    rfl

/-- The letters of a scheme are kept by cleaning. -/
theorem solid_of_scheme {front : List Char} {scheme : Url.Scheme}
    (spelled : front.map Char.toLower = scheme.text) {c : Char} (inside : c ∈ front) :
    Url.isBlank c = false ∧ c ≠ ':' := by
  have letters : scheme.text.all (fun d => !Url.isBlank d && d ≠ ':') = true := by
    cases scheme <;> decide
  have own : c.toLower ∈ scheme.text := by
    rw [← spelled]
    exact List.mem_map_of_mem inside
  have letter := Bool.and_eq_true_iff.mp (List.all_eq_true.mp letters _ own)
  refine ⟨?_, ?_⟩
  · simpa [Url.isBlank_toLower] using letter.1
  · rintro rfl
    exact of_decide_eq_true letter.2 rfl

theorem SpelledBy.clean_eq (spelled : address.SpelledBy text) : ∃ front,
    Url.clean text = front ++ ':' :: '/' :: '/' :: address.remains ∧ ':' ∉ front ∧
      front.map Char.toLower = address.scheme.text := by
  obtain ⟨front, rfl, scheme⟩ := spelled.whole
  refine ⟨front, ?_, fun inside => (solid_of_scheme scheme inside).2 rfl, scheme⟩
  have kept : Url.withoutBreaks (front.dropWhile Url.isBlank) = front := by
    have none : front.dropWhile Url.isBlank = front := by
      cases front with
      | nil => rfl
      | cons c rest => rw [List.dropWhile_cons, (solid_of_scheme scheme (.head _)).1]; rfl
    rw [none]
    refine List.filter_eq_self.mpr fun c inside => ?_
    rw [Url.isLineBreak_of_solid (solid_of_scheme scheme inside).1]
    rfl
  have slashes : Url.trimEnd ('/' :: '/' :: (address.authority ++ address.path)) =
      '/' :: '/' :: Url.trimEnd (address.authority ++ address.path) :=
    Url.trimEnd_append_solid (by decide) ['/'] (address.authority ++ address.path)
  have text : front ++ [':', '/', '/'] ++ address.authority ++ address.path =
      front ++ ':' :: '/' :: '/' :: (address.authority ++ address.path) := by simp
  rw [text, Url.clean_append (by decide), kept, slashes]
  rfl

theorem SpelledBy.remains_eq_cons (spelled : address.SpelledBy text) :
    ∃ c rest, address.remains = c :: rest ∧ c ∈ address.authority := by
  obtain ⟨c, inside, solid⟩ := spelled.solid
  obtain ⟨front, back, whole⟩ := List.append_of_mem inside
  have parts : address.remains = Url.withoutBreaks front ++
      c :: Url.withoutBreaks (Url.trimEnd (back ++ address.path)) := by
    rw [remains, whole, List.append_assoc, List.cons_append, Url.trimEnd_append_solid solid,
      Url.withoutBreaks, List.filter_append,
      List.filter_cons_of_pos (by simp [Url.isLineBreak_of_solid solid])]
    rfl
  cases before : Url.withoutBreaks front with
  | nil => exact ⟨c, _, by rw [parts, before, List.nil_append], inside⟩
  | cons d rest =>
      have own : d ∈ Url.withoutBreaks front := by simp [before]
      refine ⟨d, _, by rw [parts, before, List.cons_append], ?_⟩
      rw [whole]
      exact List.mem_append_left _ (List.mem_filter.mp own).1

/-- The slashes in front of the authority are the two that are spelled. -/
theorem SpelledBy.remains_dropWhile (spelled : address.SpelledBy text) :
    address.remains.dropWhile Url.isSlash = address.remains := by
  obtain ⟨c, rest, parts, inside⟩ := spelled.remains_eq_cons
  have plain : Url.isSlash c = false := by
    rw [Url.isSlash, Bool.or_eq_false_iff, decide_eq_false_iff_not, decide_eq_false_iff_not]
    constructor <;> rintro rfl
    · exact spelled.authority.1 inside
    · exact spelled.authority.2 inside
  rw [parts, List.dropWhile_cons, plain]
  rfl

theorem SpelledBy.parse?_eq {text : String} (spelled : address.SpelledBy text.toList) :
    Url.parse? text = Url.ofAuthority? address.scheme
      (address.remains.takeWhile (!Url.endsAuthority ·))
      (address.remains.dropWhile (!Url.endsAuthority ·)) := by
  obtain ⟨front, cleaned, colonless, scheme⟩ := spelled.clean_eq
  have slashes : ('/' :: '/' :: address.remains).dropWhile Url.isSlash = address.remains :=
    spelled.remains_dropWhile
  rw [Url.parse?, cleaned, Text.cut?_append colonless]
  simp only [bind, Option.bind_some, Url.Scheme.ofText?_eq_some_iff.mpr scheme, slashes]

/-- Neither authority nor path has a mark if no query and no fragment is reported. -/
theorem SpelledBy.unmarked {text : String} (spelled : address.SpelledBy text.toList) {url : Url}
    (read : Url.parse? text = some url) (unmarked : url.query = none ∧ url.fragment = none) :
    Url.Unmarked (address.authority ++ address.path) := by
  rw [spelled.parse?_eq] at read
  have parts : address.remains.takeWhile (!Url.endsAuthority ·) ++
      address.remains.dropWhile (!Url.endsAuthority ·) = address.remains :=
    List.takeWhile_append_dropWhile
  have plain := Url.unmarked_append (Url.unmarked_takeWhile address.remains)
    (Url.unmarked_of_ofAuthority? read unmarked)
  rw [parts] at plain
  exact plain.of_kept fun c inside solid _ => Url.mem_cleaned_of_solid solid inside

theorem mem_of_mem_seenAuthority {c : Char} (inside : c ∈ address.seenAuthority) :
    c ∈ address.authority := by
  rw [seenAuthority] at inside
  split at inside
  · exact Url.mem_of_mem_cleaned inside
  · exact (List.mem_filter.mp inside).1

/-- Without marks, the authority that is read reaches to the path. -/
theorem SpelledBy.parse?_unmarked {text : String} (spelled : address.SpelledBy text.toList)
    (plain : Url.Unmarked (address.authority ++ address.path)) :
    Url.parse? text = Url.ofAuthority? address.scheme address.seenAuthority [] := by
  obtain ⟨tail, parts, rooted⟩ := remains_eq spelled.path
  have inner : ∀ c ∈ address.seenAuthority, (!Url.endsAuthority c) = true := by
    intro c inside
    have own := mem_of_mem_seenAuthority inside
    have whole := List.mem_append_left address.path own
    rw [Bool.not_eq_true', ← Bool.not_eq_true]
    simp only [Url.endsAuthority, Url.isSlash, Bool.or_eq_true, decide_eq_true_eq]
    rintro (((rfl | rfl) | rfl) | rfl)
    · exact spelled.authority.1 own
    · exact spelled.authority.2 own
    · exact plain.1 whole
    · exact plain.2 whole
  have unmarked : Url.Unmarked tail := by
    refine plain.of_kept fun c inside _ _ => ?_
    have behind := List.mem_append_right address.seenAuthority inside
    rw [← parts] at behind
    exact Url.mem_of_mem_cleaned behind
  have first : tail.takeWhile (!Url.endsAuthority ·) = [] ∧
      tail.dropWhile (!Url.endsAuthority ·) = tail := by
    rcases rooted with rfl | ⟨more, rfl⟩
    · exact ⟨rfl, rfl⟩
    · exact ⟨rfl, rfl⟩
  rw [spelled.parse?_eq, parts, List.takeWhile_append_of_pos inner,
    List.dropWhile_append_of_pos inner, first.1, first.2, List.append_nil]
  exact Url.ofAuthority?_of_unmarked unmarked address.scheme address.seenAuthority

/-- The text of the address with its path completed. -/
def rebuilt (address : Address) : String :=
  String.ofList (address.scheme.text ++ [':', '/', '/'] ++ address.authority ++
    address.normalizedPath)

/-- The address with its path completed. -/
def normalized (address : Address) : Address := { address with path := address.normalizedPath }

theorem SpellsHost.exists_solid {authority : List Char} {host : Host}
    (spells : SpellsHost authority host) (solid : ∃ c ∈ host.text, Url.isBlank c = false) :
    ∃ c ∈ authority, Url.isBlank c = false := by
  obtain ⟨user, spelled, port, rfl, -, -, same, -⟩ := spells
  obtain ⟨c, inside, kept⟩ := solid
  have lower : c.toLower ∈ spelled.map Char.toLower := by
    rw [same]
    exact List.mem_map_of_mem inside
  obtain ⟨d, own, eq⟩ := List.mem_map.mp lower
  refine ⟨d, List.mem_append_left _ (List.mem_append_right _ own), ?_⟩
  rw [← Url.isBlank_toLower, eq, Url.isBlank_toLower, kept]

theorem SpelledBy.of_cutFrom {text : String} {url : Url} (cut : CutFrom url text.toList address)
    (read : Url.parse? text = some url) : address.SpelledBy text.toList := by
  obtain ⟨host, known, spells, -⟩ := cut.host
  exact ⟨cut.exists_scheme Url.reportsScheme_parse? read, cut.authority, cut.path.2,
    spells.exists_solid (Url.exists_solid_of_parse? read known)⟩

theorem rooted_normalized (rooted : Rooted address.path) : Rooted address.normalized.path :=
  .inr (List.head?_eq_some_iff.mp (normalizedPath_spec rooted).1)

theorem normalizedPath_normalized (rooted : Rooted address.path) :
    address.normalized.normalizedPath = address.normalizedPath := by
  obtain ⟨first, last, -, -⟩ := normalizedPath_spec rooted
  exact (normalizedPath_spec (rooted_normalized rooted)).2.2.1 ⟨first, last⟩

/-- Completing a path adds slashes only. -/
theorem mem_path_of_mem_normalizedPath (rooted : Rooted address.path) {c : Char}
    (inside : c ∈ address.normalizedPath) : c ∈ address.path ∨ c = '/' := by
  rw [normalizedPath_eq rooted] at inside
  split at inside
  · exact .inl inside
  · simpa using inside

theorem CutFrom.rebuilt {url : Url} (cut : CutFrom url text address) :
    CutFrom url address.rebuilt.toList address.normalized := by
  refine ⟨cut.unmarked, cut.scheme, ⟨address.scheme.text, String.toList_ofList, rfl⟩, cut.authority,
    ⟨fun inside => ?_, rooted_normalized cut.path.2⟩, cut.host⟩
  rcases mem_path_of_mem_normalizedPath cut.path.2 inside with kept | other
  · exact cut.path.1 kept
  · cases other

theorem SpelledBy.rebuilt (spelled : address.SpelledBy text) :
    address.normalized.SpelledBy address.rebuilt.toList := by
  have lower : address.scheme.text.map Char.toLower = address.scheme.text := by
    cases address.scheme <;> decide
  exact ⟨⟨address.scheme.text, String.toList_ofList, lower⟩, spelled.authority,
    rooted_normalized spelled.path, spelled.solid⟩

theorem unmarked_normalized (rooted : Rooted address.path)
    (plain : Url.Unmarked (address.authority ++ address.path)) :
    Url.Unmarked (address.normalized.authority ++ address.normalized.path) := by
  refine plain.of_kept fun c inside _ other => ?_
  rcases List.mem_append.mp inside with own | behind
  · exact List.mem_append_left _ own
  · rcases mem_path_of_mem_normalizedPath rooted behind with kept | slash
    · exact List.mem_append_right _ kept
    · exact absurd slash other

theorem seenAuthority_of_path (some : address.path ≠ []) :
    address.seenAuthority = Url.withoutBreaks address.authority := by
  rw [seenAuthority, if_neg some]

theorem seenAuthority_of_solid (solid : Url.endsInBlank address.authority = false) :
    address.seenAuthority = Url.withoutBreaks address.authority := by
  rw [seenAuthority]
  split
  · exact Url.withoutBreaks_trimEnd solid
  · rfl

/-- The reader makes the same of both texts, or it refuses the rebuilt one for a blank that it
cleans away from the other. -/
theorem SpelledBy.parse?_rebuilt {text : String} (spelled : address.SpelledBy text.toList)
    {url : Url} (read : Url.parse? text = some url)
    (unmarked : url.query = none ∧ url.fragment = none) :
    Url.parse? address.rebuilt =
        (if Url.endsInBlank address.authority then none else some url) ∧
      (Url.endsInBlank address.authority = true → address.path = []) := by
  have plain := spelled.unmarked read unmarked
  rw [spelled.parse?_unmarked plain] at read
  have completed : address.normalized.path ≠ [] := by
    intro empty
    have first : address.normalized.path.head? = some '/' := (normalizedPath_spec spelled.path).1
    simp [empty] at first
  rw [spelled.rebuilt.parse?_unmarked (unmarked_normalized spelled.path plain),
    seenAuthority_of_path completed]
  cases ends : Url.endsInBlank address.authority with
  | true =>
      obtain ⟨front, c, last, blank⟩ := Url.exists_blank_of_endsInBlank ends
      have refused (scheme : Url.Scheme) :
          Url.ofAuthority? scheme (Url.withoutBreaks address.authority) [] = none := by
        rw [last]
        exact Url.ofAuthority?_blank blank scheme front []
      refine ⟨refused _, fun _ => ?_⟩
      by_contra some
      rw [seenAuthority_of_path some, refused] at read
      cases read
  | false =>
      rw [seenAuthority_of_solid ends] at read
      exact ⟨read, fun blank => nomatch blank⟩

/-- An address that is read is read again from the text of its parts, and its path is then the
completed one. The exception are addresses without a path whose authority ends in a blank. -/
theorem apply_parseURL_rebuilt {text : String} {fields : List (String × Value)}
    (read : Function.apply .parseURL [.string text] = .ok (.record fields)) :
    ∃ address : Address, address.toValue = .record fields ∧
      Function.apply .parseURL [.string address.rebuilt] =
        .ok (if Url.endsInBlank address.authority then .none else address.normalized.toValue) ∧
      address.normalized.normalizedPath = address.normalizedPath ∧
      (Url.endsInBlank address.authority = true → address.path = []) := by
  rw [apply_parseURL] at read
  obtain ⟨url, address, known, cut, made⟩ := valueWith_eq_record_iff.mp (Except.ok.inj read)
  obtain ⟨again, empty⟩ := (SpelledBy.of_cutFrom cut known).parse?_rebuilt known cut.unmarked
  have completed : ofUrl? url address.rebuilt.toList = some address.normalized :=
    ofUrl?_eq_some_iff.mpr cut.rebuilt
  refine ⟨address, made, ?_, normalizedPath_normalized cut.path.2, empty⟩
  rw [apply_parseURL, valueWith, parseWith?, again]
  split
  · rfl
  · simp only [bind, Option.bind_some, completed, Value.ofOption]

theorem apply_parseURL_rebuilt_of_port :
    ∃ fields, Function.apply .parseURL [.string "http://me@[::1]:80"] = .ok (.record fields) ∧
      ∃ address : Address, address.toValue = .record fields ∧
        Function.apply .parseURL [.string address.rebuilt] =
          .ok (if Url.endsInBlank address.authority then .none else address.normalized.toValue) ∧
        address.normalized.normalizedPath = address.normalizedPath ∧
        (Url.endsInBlank address.authority = true → address.path = []) := by
  have found : parse? "http://me@[::1]:80" = some ⟨.http, "me@[::1]:80".toList, [], true⟩ := by
    decide
  have read : Function.apply .parseURL [.string "http://me@[::1]:80"] =
      .ok (toValue ⟨.http, "me@[::1]:80".toList, [], true⟩) := by
    rw [apply_parseURL, valueWith_parse?, found]
    rfl
  exact ⟨_, read, apply_parseURL_rebuilt read⟩

/-- The blank is cleaned away at the end of the text, and it is not part of a port. -/
theorem refused_rebuilt_of_blank : ∃ address : Address,
    Function.apply .parseURL [.string "http://[::1]:80 "] = .ok address.toValue ∧
      address.rebuilt = "http://[::1]:80 /" ∧
      Function.apply .parseURL [.string address.rebuilt] = .ok .none := by
  have found : parse? "http://[::1]:80 " = some ⟨.http, "[::1]:80 ".toList, [], true⟩ := by decide
  have refused : parse? "http://[::1]:80 /" = none := by decide
  have text : rebuilt ⟨.http, "[::1]:80 ".toList, [], true⟩ = "http://[::1]:80 /" := by decide
  refine ⟨⟨.http, "[::1]:80 ".toList, [], true⟩, ?_, text, ?_⟩
  · rw [apply_parseURL, valueWith_parse?, found]
    rfl
  · rw [text, apply_parseURL, valueWith_parse?, refused]
    rfl

end Address

end EndpointResolution
