import Mathlib.Data.Option.Basic
import EndpointResolution.Function.Apply

/-!
How a service address is cut out of its text. A reader of web addresses says what the scheme and the
host are; whatever it says, an address is read just if its text is made up of a scheme of that
length, of an authority that spells the host, and of a path. Nothing of the text is lost.
-/

namespace EndpointResolution

namespace Url

/-- The scheme that is reported is what comes before the first colon, in lower case. -/
def ReportsScheme (read : String → Option Url) : Prop :=
  ∀ text url, read text = some url → ∃ front rest,
    Text.cut? ':' (clean text.toList) = some (front, rest) ∧ url.scheme = front.map Char.toLower

end Url

namespace Address

/-- Behind its last at sign, if there is one, the authority is the host as it would be written, up
to letter case, and a colon and further text may follow. -/
def SpellsHost (authority : List Char) (host : Host) : Prop :=
  ∃ user spelled port, authority = user ++ spelled ++ port ∧
    (user = [] ∨ ∃ name, user = name ++ ['@']) ∧ '@' ∉ spelled ++ port ∧
    spelled.map Char.toLower = host.text.map Char.toLower ∧
    (port = [] ∨ ∃ more, port = ':' :: more)

/-- A path is empty, or begins with a slash. -/
def Rooted (path : List Char) : Prop := path = [] ∨ ∃ rest, path = '/' :: rest

/-- The parts of an address make up its text, by what is reported of it. -/
structure CutFrom (url : Url) (text : List Char) (address : Address) : Prop where
  unmarked : url.query = none ∧ url.fragment = none
  scheme : url.scheme = address.scheme.text
  whole : ∃ front, text = front ++ [':', '/', '/'] ++ address.authority ++ address.path ∧
    Text.byteCount front = Text.byteCount address.scheme.text
  authority : '/' ∉ address.authority ∧ '\\' ∉ address.authority
  path : '\\' ∉ address.path ∧ Rooted address.path
  host : ∃ host, url.host = some host ∧ SpellsHost address.authority host ∧
    address.isIp = host.isAddress

theorem spellsHost_iff {authority : List Char} {host : Host} :
    spellsHost authority host = true ↔ SpellsHost authority host := by
  simp only [spellsHost, Bool.and_eq_true, decide_eq_true_eq]
  constructor
  · rintro ⟨spells, port⟩
    obtain ⟨user, cut, before⟩ := Text.exists_append_afterLast '@' authority
    refine ⟨user, (Text.afterLast '@' authority).take host.text.length,
      (Text.afterLast '@' authority).drop host.text.length, ?_, before, ?_, spells, ?_⟩
    · rw [List.append_assoc, List.take_append_drop, ← cut]
    · rw [List.take_append_drop]
      exact Text.not_mem_afterLast '@' authority
    · cases rest : (Text.afterLast '@' authority).drop host.text.length with
      | nil => exact .inl rfl
      | cons c more =>
          rw [rest] at port
          exact .inr ⟨more, by simpa using port⟩
  · rintro ⟨user, spelled, port, rfl, before, behind, spells, separated⟩
    have own : Text.afterLast '@' (user ++ spelled ++ port) = spelled ++ port := by
      rw [List.append_assoc, Text.afterLast_append behind]
      rcases before with rfl | ⟨name, rfl⟩
      · rfl
      · rw [Text.afterLast_separator, List.nil_append]
    have length : spelled.length = host.text.length := by
      simpa using congrArg List.length spells
    rw [own, List.take_left' length, List.drop_left' length]
    refine ⟨spells, ?_⟩
    rcases separated with rfl | ⟨more, rfl⟩ <;> simp

/-- The text behind the scheme falls apart at its first slash. -/
theorem slash_parts (rest : List Char) :
    '/' ∉ rest.takeWhile (· ≠ '/') ∧ Rooted (rest.dropWhile (· ≠ '/')) := by
  constructor
  · intro inside
    simpa using List.all_eq_true.mp List.all_takeWhile '/' inside
  · have first := List.head?_dropWhile_not (· ≠ '/') rest
    cases left : rest.dropWhile (· ≠ '/') with
    | nil => exact .inl rfl
    | cons c more =>
        rw [left] at first
        exact .inr ⟨more, by simpa using first⟩

theorem slash_parts_append {authority path : List Char} (whole : '/' ∉ authority)
    (rooted : Rooted path) :
    (authority ++ path).takeWhile (· ≠ '/') = authority ∧
      (authority ++ path).dropWhile (· ≠ '/') = path := by
  have all : ∀ c ∈ authority, decide (c ≠ '/') = true := by
    intro c inside
    rw [decide_eq_true_eq]
    rintro rfl
    exact whole inside
  rw [List.takeWhile_append_of_pos all, List.dropWhile_append_of_pos all]
  rcases rooted with rfl | ⟨more, rfl⟩ <;> simp

/-- Whatever a reader reports, an address is read just if it is cut out of the text. -/
theorem ofUrl?_eq_some_iff {url : Url} {text : List Char} {address : Address} :
    ofUrl? url text = some address ↔ CutFrom url text address := by
  simp only [ofUrl?, bind, Option.bind_eq_some_iff, Option.guard_eq_some',
    Url.Scheme.ofText?_eq_some_iff, Text.dropBytes?_eq_some_iff, spellsHost_iff, pure,
    Option.some.injEq]
  constructor
  · rintro ⟨-, unmarked, scheme, spelled, behind, ⟨front, rfl, length⟩, -, separated, -, clear,
      host, known, -, spells, rfl⟩
    obtain ⟨whole, rooted⟩ := slash_parts (behind.drop 3)
    have rest : (behind.drop 3).takeWhile (· ≠ '/') ++ (behind.drop 3).dropWhile (· ≠ '/') =
        behind.drop 3 := List.takeWhile_append_dropWhile
    rw [← rest, List.mem_append, not_or] at clear
    refine ⟨unmarked, spelled, ⟨front, ?_, ?_⟩, ⟨whole, clear.1⟩, ⟨clear.2, rooted⟩,
      host, known, spells, rfl⟩
    · rw [List.append_assoc, rest, List.append_assoc, ← separated, List.take_append_drop]
    · rw [length, Url.Scheme.byteCount_text]
  · rintro ⟨unmarked, spelled, ⟨front, rfl, length⟩, authority, path, host, known, spells, isIp⟩
    obtain ⟨own, behind⟩ := slash_parts_append authority.1 path.2
    have rest : ([':', '/', '/'] ++ (address.authority ++ address.path)).drop 3 =
        address.authority ++ address.path := rfl
    refine ⟨(), unmarked, address.scheme, spelled,
      [':', '/', '/'] ++ (address.authority ++ address.path), ⟨front, by simp, ?_⟩, (), rfl, (), ?_,
      host, known, (), ?_, ?_⟩
    · rw [length, Url.Scheme.byteCount_text]
    · rw [rest, List.mem_append, not_or]
      exact ⟨authority.2, path.1⟩
    · rw [rest, own]
      exact spells
    · rw [rest, own, behind, ← isIp]

end Address

namespace Url

def trimEnd (text : List Char) : List Char := (text.reverse.dropWhile isBlank).reverse

def withoutBreaks (text : List Char) : List Char := text.filter (!isLineBreak ·)

theorem isLineBreak_of_solid {c : Char} (solid : isBlank c = false) : isLineBreak c = false := by
  by_contra breaks
  simp only [isLineBreak, Bool.or_eq_true, decide_eq_true_eq, Bool.not_eq_false] at breaks
  rcases breaks with (rfl | rfl) | rfl <;> cases solid

theorem dropWhile_append_solid {c : Char} (solid : isBlank c = false) (front back : List Char) :
    (front ++ c :: back).dropWhile isBlank = front.dropWhile isBlank ++ c :: back := by
  rw [List.dropWhile_append]
  cases left : front.dropWhile isBlank with
  | nil => simp [solid]
  | cons d rest => rfl

theorem trimEnd_append_solid {c : Char} (solid : isBlank c = false) (front back : List Char) :
    trimEnd (front ++ c :: back) = front ++ c :: trimEnd back := by
  have reversed : (front ++ c :: back).reverse = back.reverse ++ c :: front.reverse := by simp
  rw [trimEnd, reversed, dropWhile_append_solid solid, trimEnd]
  simp

/-- What is cleaned away lies on one side of a character that is kept. -/
theorem clean_append {c : Char} (solid : isBlank c = false) (front back : List Char) :
    clean (front ++ c :: back) =
      withoutBreaks (front.dropWhile isBlank) ++ c :: withoutBreaks (trimEnd back) := by
  have kept := isLineBreak_of_solid solid
  change withoutBreaks (trimEnd ((front ++ c :: back).dropWhile isBlank)) = _
  rw [dropWhile_append_solid solid, trimEnd_append_solid solid, withoutBreaks, List.filter_append,
    List.filter_cons_of_pos (by simp [kept])]
  rfl

/-- The text before the first colon of a cleaned text is what is left of the text before any. -/
theorem sublist_of_cut? {front back reported rest : List Char}
    (cut : Text.cut? ':' (clean (front ++ ':' :: back)) = some (reported, rest)) :
    reported.Sublist front := by
  obtain ⟨whole, colonless⟩ := Text.cut?_eq_some_iff.mp cut
  rw [clean_append (by decide)] at whole
  have inside : reported <+: withoutBreaks (front.dropWhile isBlank) := by
    rcases List.append_eq_append_iff.mp whole with ⟨more, rfl, behind⟩ | ⟨more, same, -⟩
    · cases more with
      | nil => simp
      | cons c more =>
          obtain ⟨rfl, -⟩ := List.cons.inj behind
          exact absurd (List.mem_append_right _ (.head _)) colonless
    · exact ⟨more, same.symm⟩
  exact inside.sublist.trans (List.filter_sublist.trans (List.dropWhile_sublist isBlank))

theorem isBlank_toLower (c : Char) : isBlank c.toLower = isBlank c := by
  by_cases upper : c.val ≥ 'A'.val ∧ c.val ≤ 'Z'.val
  · -- Letters are solid in either case.
    have first : 65 ≤ c.toNat := upper.1
    have last : c.toNat ≤ 90 := upper.2
    have own : c.toLower.val = c.val + ('a'.val - 'A'.val) := congrArg Char.val (dif_pos upper)
    have lower : c.toLower.toNat = c.toNat + 32 := by
      rw [Char.toNat, own, UInt32.toNat_add]
      exact Nat.mod_eq_of_lt (by change c.toNat + 32 < 2 ^ 32; omega)
    rw [isBlank, isBlank, decide_eq_decide]
    omega
  · have own : c.toLower = c := dif_neg upper
    rw [own]

end Url

namespace Host

/-- A host is an address in brackets, or else it is a name, or the address that a name spells. -/
theorem parse?_cases {text : List Char} {host : Host} (read : parse? text = some host) :
    (∃ inner ip, text = '[' :: inner ∧ inner.getLast? = some ']' ∧ host = .ipv6 ip) ∨
      text ≠ [] ∧ ∃ name, domain? text = some name ∧
        (host = .domain name ∨ ∃ ip, host = .ipv4 ip) := by
  unfold parse? at read
  split at read
  · cases read
  · next inner =>
      split at read
      · next closed =>
          obtain ⟨ip, -, rfl⟩ := Option.map_eq_some_iff.mp read
          exact .inl ⟨inner, ip, rfl, closed, rfl⟩
      · cases read
  · next text empty _ =>
      split at read
      · next name named =>
          refine .inr ⟨empty, name, named, ?_⟩
          split at read
          · obtain ⟨ip, -, rfl⟩ := Option.map_eq_some_iff.mp read
            exact .inr ⟨ip, rfl⟩
          · cases read
            exact .inl rfl
      · cases read

theorem solid_of_domain? {text name : List Char} (named : domain? text = some name) :
    name = text.map Char.toLower ∧ ∀ c ∈ text, Url.isBlank c = false := by
  rw [domain?] at named
  split at named
  · next accepted =>
      cases named
      refine ⟨rfl, fun c inside => ?_⟩
      have allowed := List.all_eq_true.mp (Bool.and_eq_true_iff.mp accepted).1 c inside
      simp only [Label.isForbidden, Bool.not_eq_true', Bool.or_eq_false_iff] at allowed
      exact allowed.1.1
  · cases named

/-- A host as it is written has a character that no reader cleans away. -/
theorem exists_solid_of_parse? {text : List Char} {host : Host} (read : parse? text = some host) :
    ∃ c ∈ host.text, Url.isBlank c = false := by
  rcases parse?_cases read with ⟨_, ip, -, -, rfl⟩ | ⟨some, name, named, rfl | ⟨ip, rfl⟩⟩
  · exact ⟨'[', .head _, by decide⟩
  · obtain ⟨rfl, solid⟩ := solid_of_domain? named
    obtain ⟨c, rest, rfl⟩ := List.exists_cons_of_ne_nil some
    exact ⟨c.toLower, .head _, (Url.isBlank_toLower c).trans (solid c (.head _))⟩
  · exact ⟨'.', Text.mem_intercalate_iff.mpr (.inr ⟨rfl, by simp [Ipv4.octets]⟩), by decide⟩

end Host

namespace Url

theorem ofAuthority?_eq_some {scheme : Scheme} {authority tail : List Char} {url : Url}
    (read : ofAuthority? scheme authority tail = some url) :
    url.scheme = scheme.text ∧
      ∃ text host, Host.parse? text = some host ∧ url.host = some host := by
  simp only [ofAuthority?, bind, Option.bind_eq_some_iff, pure, Option.some.injEq] at read
  obtain ⟨host, known, -, -, rfl⟩ := read
  exact ⟨rfl, _, host, known, rfl⟩

theorem parse?_eq_some {text : String} {url : Url} (read : parse? text = some url) :
    ∃ front rest, Text.cut? ':' (clean text.toList) = some (front, rest) ∧
      ∃ scheme authority tail, scheme.text = front.map Char.toLower ∧
        ofAuthority? scheme authority tail = some url := by
  simp only [parse?, bind, Option.bind_eq_some_iff, Prod.exists,
    Scheme.ofText?_eq_some_iff] at read
  obtain ⟨front, rest, cut, scheme, known, read⟩ := read
  exact ⟨front, rest, cut, scheme, _, _, known.symm, read⟩

theorem reportsScheme_parse? : ReportsScheme parse? := by
  intro text url read
  obtain ⟨front, rest, cut, scheme, _, _, known, read⟩ := parse?_eq_some read
  exact ⟨front, rest, cut, (ofAuthority?_eq_some read).1.trans known⟩

theorem exists_solid_of_parse? {text : String} {url : Url} (read : parse? text = some url)
    {host : Host} (known : url.host = some host) : ∃ c ∈ host.text, isBlank c = false := by
  obtain ⟨_, _, _, _, _, _, _, made⟩ := parse?_eq_some read
  obtain ⟨-, _, host', parsed, own⟩ := ofAuthority?_eq_some made
  obtain rfl : host' = host := Option.some.inj (own.symm.trans known)
  exact Host.exists_solid_of_parse? parsed

end Url

namespace Address

theorem normalizedPath_eq {address : Address} (rooted : Rooted address.path) :
    address.normalizedPath =
      if address.path.head? = some '/' ∧ address.path.getLast? = some '/' then address.path
      else address.path ++ ['/'] := by
  rcases rooted with empty | ⟨rest, path⟩
  · simp [normalizedPath, empty]
  · simp [normalizedPath, path]

/-- A path gets the slash at either end that it lacks, and no other character. -/
theorem normalizedPath_spec {address : Address} (rooted : Rooted address.path) :
    address.normalizedPath.head? = some '/' ∧ address.normalizedPath.getLast? = some '/' ∧
      (address.path.head? = some '/' ∧ address.path.getLast? = some '/' →
        address.normalizedPath = address.path) ∧
      (¬ (address.path.head? = some '/' ∧ address.path.getLast? = some '/') →
        address.normalizedPath = address.path ++ ['/']) := by
  rw [normalizedPath_eq rooted]
  split
  · next whole => exact ⟨whole.1, whole.2, fun _ => rfl, fun lacks => absurd whole lacks⟩
  · next lacks =>
      refine ⟨?_, by simp, fun whole => absurd whole lacks, fun _ => rfl⟩
      rcases rooted with empty | ⟨rest, path⟩
      · simp [empty]
      · simp [path]

/-- The scheme that stands in the text is the one reported, up to letter case. -/
theorem map_toLower_of_reported {read : String → Option Url} (reports : Url.ReportsScheme read)
    {text : String} {url : Url} (known : read text = some url) {scheme : Url.Scheme}
    (own : url.scheme = scheme.text) {front back : List Char}
    (whole : text.toList = front ++ ':' :: back)
    (length : Text.byteCount front = Text.byteCount scheme.text) :
    front.map Char.toLower = scheme.text := by
  obtain ⟨reported, rest, cut, lower⟩ := reports text url known
  rw [whole] at cut
  have size : reported.length = scheme.text.length := by
    rw [← own, lower, List.length_map]
  have long : front.length ≤ reported.length := by
    rw [size, ← Url.Scheme.byteCount_text, ← length]
    exact Text.length_le_byteCount front
  rw [← (Url.sublist_of_cut? cut).eq_of_length_le long, ← lower, own]

theorem CutFrom.exists_scheme {read : String → Option Url} (reports : Url.ReportsScheme read)
    {text : String} {url : Url} (known : read text = some url) {address : Address}
    (cut : CutFrom url text.toList address) : ∃ front,
    text.toList = front ++ [':', '/', '/'] ++ address.authority ++ address.path ∧
      front.map Char.toLower = address.scheme.text := by
  obtain ⟨front, whole, length⟩ := cut.whole
  have atColon : text.toList =
      front ++ ':' :: ('/' :: '/' :: address.authority ++ address.path) := by
    simpa using whole
  exact ⟨front, whole, map_toLower_of_reported reports known cut.scheme atColon length⟩

/-- What is made of a text, by what a reader of web addresses reports. -/
def valueWith (read : String → Option Url) (text : String) : Value :=
  .ofOption toValue (parseWith? read text)

theorem valueWith_eq_record_iff {read : String → Option Url} {text : String}
    {fields : List (String × Value)} : valueWith read text = .record fields ↔
      ∃ url address, read text = some url ∧ CutFrom url text.toList address ∧
        address.toValue = .record fields := by
  have parsed (address : Address) : parseWith? read text = some address ↔
      ∃ url, read text = some url ∧ CutFrom url text.toList address := by
    simp only [parseWith?, bind, Option.bind_eq_some_iff, ofUrl?_eq_some_iff]
  rw [valueWith]
  constructor
  · intro made
    cases found : parseWith? read text with
    | none => simp [found, Value.ofOption] at made
    | some address =>
        obtain ⟨url, known, cut⟩ := (parsed address).mp found
        rw [found] at made
        exact ⟨url, address, known, cut, made⟩
  · rintro ⟨url, address, known, cut, made⟩
    rw [(parsed address).mpr ⟨url, known, cut⟩]
    exact made

theorem apply_parseURL (text : String) :
    Function.apply .parseURL [.string text] = .ok (valueWith Url.parse? text) := rfl

theorem valueWith_parse? (text : String) :
    valueWith Url.parse? text = .ofOption toValue (parse? text) := rfl

end Address

end EndpointResolution
