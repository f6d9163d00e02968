import EndpointResolution.Function.Apply
import EndpointResolution.Proofs.PercentEncoding

/-!
Host labels and bucket names. The two modes of a validator differ on texts with dots alone, a name
with dots is valid just if what is on both sides of a dot is, and bucket names are made of host
labels. Digits of every script are taken for digits: what is let through can stand in a host name as
it is just if its digits are those of ASCII.
-/

namespace EndpointResolution

section Labels

variable {text : String}

theorem labelsOf_of_not_mem (whole : '.' ∉ text.toList) : labelsOf text = [text.toList] :=
  List.splitOn_eq_singleton whole

theorem labelsOf_append (front back : String) :
    labelsOf (front ++ "." ++ back) = labelsOf front ++ labelsOf back := by
  have joined : (front ++ "." ++ back).toList = front.toList ++ '.' :: back.toList := by simp
  rw [labelsOf, joined, List.splitOn_append_cons_self]
  rfl

/-- A text has the characters of its labels, and dots between them. -/
theorem mem_iff_mem_label {c : Char} : c ∈ text.toList ↔
    (∃ label ∈ labelsOf text, c ∈ label) ∨ (c = '.' ∧ 2 ≤ (labelsOf text).length) := by
  have joined : List.intercalate ['.'] (labelsOf text) = text.toList := List.intercalate_splitOn '.'
  rw [← Text.mem_intercalate_iff, joined]

/-- Where labels have no dots, a text is a label just if it has no dot and its labels are labels. -/
theorem isLabel_iff_all {isLabel : List Char → Bool}
    (whole : ∀ {label}, isLabel label = true → '.' ∉ label) (text : String) :
    isLabel text.toList = true ↔ (labelsOf text).all isLabel = true ∧ '.' ∉ text.toList := by
  constructor
  · intro valid
    refine ⟨?_, whole valid⟩
    rw [labelsOf_of_not_mem (whole valid), List.all_cons, valid, List.all_nil, Bool.and_true]
  · rintro ⟨valid, dotless⟩
    rw [labelsOf_of_not_mem dotless, List.all_cons, List.all_nil, Bool.and_true] at valid
    exact valid

end Labels

namespace HostLabel

variable {label : List Char}

theorem isLabel_iff : isLabel label = true ↔
    label.length ≤ 63 ∧ (∀ c ∈ label, isInner c = true) ∧
      ∃ c rest, label = c :: rest ∧ isAlphanumeric c = true := by
  cases label with
  | nil => simp [isLabel]
  | cons c rest =>
      simp only [isLabel, Bool.and_eq_true, List.all_eq_true, decide_eq_true_eq, List.length_cons,
        List.forall_mem_cons, List.cons.injEq]
      constructor
      · rintro ⟨⟨first, inner⟩, length⟩
        exact ⟨by omega, ⟨by simp [isInner, first], inner⟩, c, rest, ⟨rfl, rfl⟩, first⟩
      · rintro ⟨length, ⟨-, inner⟩, _, _, ⟨rfl, rfl⟩, first⟩
        exact ⟨⟨first, inner⟩, by omega⟩

theorem dot_not_mem (h : isLabel label = true) : '.' ∉ label := by
  intro inside
  have inner := (isLabel_iff.mp h).2.1 '.' inside
  exact absurd inner (by decide)

/-- Letters of ASCII, digits and hyphens, with no hyphen in front, up to a size of sixty-three. -/
structure MadeOf (isDigit : Char → Bool) (size : List Char → Nat) (label : List Char) : Prop where
  inner : ∀ c ∈ label, c.isAlpha = true ∨ isDigit c = true ∨ c = '-'
  first : ∃ c rest, label = c :: rest ∧ (c.isAlpha = true ∨ isDigit c = true)
  size : size label ≤ 63

theorem isLabel_iff_madeOf :
    isLabel label = true ↔ MadeOf Character.isDecimalDigit List.length label := by
  have inner (c : Char) : isInner c = true ↔
      c.isAlpha = true ∨ Character.isDecimalDigit c = true ∨ c = '-' := by
    simp [isInner, isAlphanumeric, or_assoc]
  have first (c : Char) : isAlphanumeric c = true ↔
      c.isAlpha = true ∨ Character.isDecimalDigit c = true := by
    simp [isAlphanumeric]
  simp only [isLabel_iff, inner, first]
  exact ⟨fun ⟨size, inner, first⟩ => ⟨inner, first, size⟩,
    fun ⟨inner, first, size⟩ => ⟨size, inner, first⟩⟩

end HostLabel

namespace Bucket

variable {label : List Char}

theorem isLabel_iff : isLabel label = true ↔
    3 ≤ label.length ∧ label.length ≤ 63 ∧ (∀ c ∈ label, isInner c = true) ∧
      (∀ c, label.head? = some c → isAlphanumeric c = true) ∧
      ∀ c, label.getLast? = some c → isAlphanumeric c = true := by
  simp only [isLabel, Bool.and_eq_true, decide_eq_true_eq, List.all_eq_true, Option.all_eq_true,
    and_assoc]

theorem dot_not_mem (h : isLabel label = true) : '.' ∉ label := by
  intro inside
  have inner := (isLabel_iff.mp h).2.2.1 '.' inside
  exact absurd inner (by decide)

theorem isAlphanumeric_hostLabel {c : Char} (h : isAlphanumeric c = true) :
    HostLabel.isAlphanumeric c = true := by
  rw [isAlphanumeric, Bool.or_eq_true] at h
  have letter : c.isAlpha = (c.isUpper || c.isLower) := rfl
  rw [HostLabel.isAlphanumeric, letter, Bool.or_eq_true, Bool.or_eq_true]
  exact h.imp_left .inr

theorem isInner_hostLabel {c : Char} (h : isInner c = true) : HostLabel.isInner c = true := by
  rw [isInner, Bool.or_eq_true] at h
  rw [HostLabel.isInner, Bool.or_eq_true]
  exact h.imp_left isAlphanumeric_hostLabel

/-- A bucket name without dots is a host label. -/
theorem isLabel_hostLabel (h : isLabel label = true) : HostLabel.isLabel label = true := by
  obtain ⟨shortest, longest, inner, first, -⟩ := isLabel_iff.mp h
  refine HostLabel.isLabel_iff.mpr ⟨longest, fun c inside => isInner_hostLabel (inner c inside), ?_⟩
  cases label with
  | nil => simp at shortest
  | cons c rest => exact ⟨c, rest, rfl, isAlphanumeric_hostLabel (first c rfl)⟩

/-- What looks like an address has dots. -/
theorem dot_mem_of_isAddressLike {text : String} (h : isAddressLike text = true) :
    '.' ∈ text.toList := by
  by_contra whole
  simp [isAddressLike, labelsOf_of_not_mem whole] at h

theorem isVirtualHostable_true_iff {text : String} : isVirtualHostable text true = true ↔
    isAddressLike text = false ∧ (labelsOf text).all isLabel = true := by
  simp [isVirtualHostable]

end Bucket

/-- A validator of names says yes. -/
def Function.Admits (f : Function) (text : String) (subdomains : Bool) : Prop :=
  f.apply [.string text, .boolean subdomains] = .ok (.boolean true)

namespace Function

theorem admits_isValidHostLabel_iff {text : String} {subdomains : Bool} :
    Admits .isValidHostLabel text subdomains ↔ HostLabel.isValid text subdomains = true := by
  have computed : apply .isValidHostLabel [.string text, .boolean subdomains] =
      .ok (.boolean (HostLabel.isValid text subdomains)) := rfl
  simp [Admits, computed]

theorem admits_isVirtualHostableS3Bucket_iff {text : String} {subdomains : Bool} :
    Admits .isVirtualHostableS3Bucket text subdomains ↔
      Bucket.isVirtualHostable text subdomains = true := by
  have computed : apply .isVirtualHostableS3Bucket [.string text, .boolean subdomains] =
      .ok (.boolean (Bucket.isVirtualHostable text subdomains)) := rfl
  simp [Admits, computed]

theorem admits_label_false_iff (text : String) : Admits .isValidHostLabel text false ↔
    Admits .isValidHostLabel text true ∧ '.' ∉ text.toList := by
  simp only [admits_isValidHostLabel_iff]
  exact isLabel_iff_all HostLabel.dot_not_mem text

theorem admits_bucket_false_iff (text : String) : Admits .isVirtualHostableS3Bucket text false ↔
    Admits .isVirtualHostableS3Bucket text true ∧ '.' ∉ text.toList := by
  simp only [admits_isVirtualHostableS3Bucket_iff, Bucket.isVirtualHostable_true_iff, and_assoc]
  rw [← isLabel_iff_all Bucket.dot_not_mem text]
  refine ⟨fun valid => ⟨?_, valid⟩, And.right⟩
  by_contra addressLike
  exact Bucket.dot_not_mem valid (Bucket.dot_mem_of_isAddressLike (by simpa using addressLike))

theorem admits_label_append_iff (front back : String) :
    Admits .isValidHostLabel (front ++ "." ++ back) true ↔
      Admits .isValidHostLabel front true ∧ Admits .isValidHostLabel back true := by
  simp only [admits_isValidHostLabel_iff, HostLabel.isValid, if_true, labelsOf_append,
    List.all_append, Bool.and_eq_true]

/-- All labels of a bucket name are host labels. -/
theorem admits_label_of_bucket {text : String} {subdomains : Bool}
    (h : Admits .isVirtualHostableS3Bucket text subdomains) :
    Admits .isValidHostLabel text subdomains := by
  rw [admits_isVirtualHostableS3Bucket_iff] at h
  rw [admits_isValidHostLabel_iff]
  cases subdomains with
  | false => exact Bucket.isLabel_hostLabel h
  | true =>
      have labels := List.all_eq_true.mp (Bucket.isVirtualHostable_true_iff.mp h).2
      exact List.all_eq_true.mpr fun label part => Bucket.isLabel_hostLabel (labels label part)

/-- Without dots a validator admits what it admits with them, but for the texts that have one. A
text of two sides is valid just if both of them are, and bucket names are host labels in either
mode. -/
theorem validators_consistent (text front back : String) (subdomains : Bool) :
    (Admits .isValidHostLabel text false ↔
      Admits .isValidHostLabel text true ∧ '.' ∉ text.toList) ∧
    (Admits .isVirtualHostableS3Bucket text false ↔
      Admits .isVirtualHostableS3Bucket text true ∧ '.' ∉ text.toList) ∧
    (Admits .isValidHostLabel (front ++ "." ++ back) true ↔
      Admits .isValidHostLabel front true ∧ Admits .isValidHostLabel back true) ∧
    (Admits .isVirtualHostableS3Bucket text subdomains →
      Admits .isValidHostLabel text subdomains) :=
  ⟨admits_label_false_iff text, admits_bucket_false_iff text, admits_label_append_iff front back,
    admits_label_of_bucket⟩

-- A bucket name has no address inside: two of its sides may be bucket names, and the whole is none.
example : Admits .isVirtualHostableS3Bucket "100.100" true ∧
    ¬ Admits .isVirtualHostableS3Bucket "100.100.100.100" true := by
  simp only [admits_isVirtualHostableS3Bucket_iff]
  decide

end Function

theorem Text.byteCount_of_ascii {text : List Char} (ascii : ∀ c ∈ text, c.toNat < 128) :
    byteCount text = text.length := by
  induction text with
  | nil => rfl
  | cons c rest ih =>
      rw [List.forall_mem_cons] at ascii
      have low : c.val ≤ 0x7F := Nat.le_of_lt_succ ascii.1
      have one : c.utf8Size = 1 := if_pos low
      rw [byteCount, one, ih ascii.2, List.length_cons, Nat.add_comm]

namespace HostLabel

variable {label : List Char} {size : List Char → Nat}

theorem MadeOf.unreserved (h : MadeOf Char.isDigit size label) :
    ∀ c ∈ label, Percent.isUnreserved c = true := by
  intro c inside
  rcases h.inner c inside with letter | digit | rfl
  · simp [Percent.isUnreserved, Char.isAlphanum, letter]
  · simp [Percent.isUnreserved, Char.isAlphanum, digit]
  · decide

theorem MadeOf.ascii (h : MadeOf Character.isDecimalDigit List.length label)
    (digits : ∀ c ∈ label, Character.isDecimalDigit c = true → c.isDigit = true) :
    MadeOf Char.isDigit Text.byteCount label := by
  have inner (c : Char) (inside : c ∈ label) : c.isAlpha = true ∨ c.isDigit = true ∨ c = '-' :=
    (h.inner c inside).imp_right (Or.imp_left (digits c inside))
  have first : ∃ c rest, label = c :: rest ∧ (c.isAlpha = true ∨ c.isDigit = true) := by
    obtain ⟨c, rest, rfl, first⟩ := h.first
    exact ⟨c, rest, rfl, first.imp_right (digits c (.head _))⟩
  have short : MadeOf Char.isDigit List.length label := ⟨inner, first, h.size⟩
  refine ⟨inner, first, ?_⟩
  rw [Text.byteCount_of_ascii fun c inside =>
    Percent.toNat_lt_of_isUnreserved (short.unreserved c inside)]
  exact h.size

end HostLabel

namespace Function

theorem apply_uriEncode_eq_self_iff {text : String} :
    apply .uriEncode [.string text] = .ok (.string text) ↔
      ∀ c ∈ text.toList, Percent.isUnreserved c = true := by
  have computed : apply .uriEncode [.string text] = .ok (.string (Percent.encode text)) := rfl
  rw [← Percent.encode_eq_self_iff, computed]
  simp

/-- What a validator admits has labels of ASCII letters, digits of any script and hyphens, of
sixty-three characters at most. It is made for a host name, and stays as it is when it is encoded,
just if its digits are those of ASCII. -/
theorem admitted_plain_iff_digits {f : Function} {text : String}
    (validator : f = .isValidHostLabel ∨ f = .isVirtualHostableS3Bucket)
    (admitted : f.Admits text true) :
    (∀ label ∈ labelsOf text, HostLabel.MadeOf Character.isDecimalDigit List.length label) ∧
    ((∀ label ∈ labelsOf text, HostLabel.MadeOf Char.isDigit Text.byteCount label) ∧
        apply .uriEncode [.string text] = .ok (.string text) ↔
      ∀ c ∈ text.toList, Character.isDecimalDigit c = true → c.isDigit = true) := by
  have admitted : Admits .isValidHostLabel text true := by
    rcases validator with rfl | rfl
    · exact admitted
    · exact admits_label_of_bucket admitted
  have made : ∀ label ∈ labelsOf text,
      HostLabel.MadeOf Character.isDecimalDigit List.length label := fun label part =>
    HostLabel.isLabel_iff_madeOf.mp
      (List.all_eq_true.mp (admits_isValidHostLabel_iff.mp admitted) label part)
  rw [apply_uriEncode_eq_self_iff]
  refine ⟨made, ?_, fun digits => ?_⟩
  · rintro ⟨-, free⟩ c inside digit
    have ascii := Percent.toNat_lt_of_isUnreserved (free c inside)
    rwa [Character.isDecimalDigit, if_pos ascii] at digit
  · have plain : ∀ label ∈ labelsOf text, HostLabel.MadeOf Char.isDigit Text.byteCount label :=
      fun label part => (made label part).ascii fun c inside =>
        digits c (mem_iff_mem_label.mpr (.inl ⟨label, part, inside⟩))
    refine ⟨plain, fun c inside => ?_⟩
    rcases mem_iff_mem_label.mp inside with ⟨label, part, within⟩ | ⟨rfl, -⟩
    · exact (plain label part).unreserved c within
    · decide

theorem admitted_plain_iff_digits_of_bucket :
    Admits .isVirtualHostableS3Bucket "my-bucket.2a1" true ∧
    (∀ label ∈ labelsOf "my-bucket.2a1", HostLabel.MadeOf Char.isDigit Text.byteCount label) ∧
    apply .uriEncode [.string "my-bucket.2a1"] = .ok (.string "my-bucket.2a1") := by
  have admitted : Admits .isVirtualHostableS3Bucket "my-bucket.2a1" true :=
    admits_isVirtualHostableS3Bucket_iff.mpr (by decide)
  have digits : "my-bucket.2a1".toList.all
      (fun c => !Character.isDecimalDigit c || c.isDigit) = true := by decide
  refine ⟨admitted, (admitted_plain_iff_digits (.inr rfl) admitted).2.mpr fun c inside digit => ?_⟩
  simpa [digit] using List.all_eq_true.mp digits c inside

set_option maxRecDepth 4000 in
theorem isDecimalDigit_arabicIndic : Character.isDecimalDigit '٣' = true := by
  rw [Character.isDecimalDigit, if_neg (by decide)]
  exact Ranges.contains_ofText_ofList (by decide +kernel) (by decide +kernel)

/-- A digit of another script is a label, but none that can stand in a host name as it is. -/
theorem not_plain_of_admitted :
    Admits .isValidHostLabel "٣" true ∧
    ¬ HostLabel.MadeOf Char.isDigit Text.byteCount "٣".toList ∧
    apply .uriEncode [.string "٣"] = .ok (.string "%D9%A3") := by
  have label : HostLabel.isLabel "٣".toList = true := by
    simp [HostLabel.isLabel, HostLabel.isAlphanumeric, isDecimalDigit_arabicIndic]
  have valid : HostLabel.isValid "٣" true = true := by
    rw [HostLabel.isValid, if_pos rfl, labelsOf_of_not_mem (by decide), List.all_cons, label]
    rfl
  refine ⟨admits_isValidHostLabel_iff.mpr valid, fun made => ?_, rfl⟩
  exact absurd (made.unreserved '٣' (by decide)) (by decide)

end Function

end EndpointResolution
