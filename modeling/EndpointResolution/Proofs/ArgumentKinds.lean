import Mathlib.Data.List.Forall2
import Mathlib.Data.Nat.Find
import EndpointResolution.Function.Apply

/-!
Arguments of a kind that their position does not take. They are looked for from left to right, and
the first one is reported. Arguments fit a function if there is none and their number is right.
-/

namespace EndpointResolution.Function

/-- The argument at the position is of a kind that the position does not take. -/
def Refused (signature : List (List Kind)) (arguments : List Value) (position : Nat)
    (accepted : List Kind) (found : Kind) : Prop :=
  signature[position]? = some accepted ∧ arguments[position]?.map Value.kind = some found ∧
    found ∉ accepted

/-- The same, and the arguments in front of it are all of kinds that their positions take. -/
def FirstRefused (signature : List (List Kind)) (arguments : List Value) (position : Nat)
    (accepted : List Kind) (found : Kind) : Prop :=
  Refused signature arguments position accepted found ∧
    ∀ earlier < position, ∀ taken other, ¬ Refused signature arguments earlier taken other

section Refused

variable {signature : List (List Kind)} {arguments : List Value} {accepted taken : List Kind}
  {argument : Value} {found : Kind} {position : Nat}

/-- If an argument is refused, there is a first one. -/
theorem exists_firstRefused
    (h : ∃ position accepted found, Refused signature arguments position accepted found) :
    ∃ position accepted found, FirstRefused signature arguments position accepted found := by
  classical
  obtain ⟨accepted, found, refused⟩ := Nat.find_spec h
  refine ⟨Nat.find h, accepted, found, refused, ?_⟩
  intro earlier before taken other here
  exact Nat.find_min h before ⟨taken, other, here⟩

theorem refused_zero_iff : Refused (accepted :: signature) (argument :: arguments) 0 taken found ↔
    accepted = taken ∧ argument.kind = found ∧ found ∉ taken := by
  simp [Refused]

theorem refused_succ_iff :
    Refused (accepted :: signature) (argument :: arguments) (position + 1) taken found ↔
      Refused signature arguments position taken found := by
  simp [Refused]

theorem firstRefused_zero_iff :
    FirstRefused (accepted :: signature) (argument :: arguments) 0 taken found ↔
      accepted = taken ∧ argument.kind = found ∧ found ∉ taken := by
  simp [FirstRefused, refused_zero_iff]

/-- Behind an argument that is taken, the search goes on. -/
theorem firstRefused_succ_iff :
    FirstRefused (accepted :: signature) (argument :: arguments) (position + 1) taken found ↔
      argument.kind ∈ accepted ∧ FirstRefused signature arguments position taken found := by
  constructor
  · rintro ⟨refused, first⟩
    refine ⟨?_, refused_succ_iff.mp refused, fun earlier before taken other here => ?_⟩
    · by_contra foreign
      exact first 0 position.succ_pos accepted argument.kind
        (refused_zero_iff.mpr ⟨rfl, rfl, foreign⟩)
    · exact first (earlier + 1) (Nat.succ_lt_succ before) taken other (refused_succ_iff.mpr here)
  · rintro ⟨own, refused, first⟩
    refine ⟨refused_succ_iff.mpr refused, fun earlier before taken other here => ?_⟩
    cases earlier with
    | zero =>
        obtain ⟨rfl, rfl, foreign⟩ := refused_zero_iff.mp here
        exact foreign own
    | succ earlier =>
        exact first earlier (Nat.lt_of_succ_lt_succ before) taken other (refused_succ_iff.mp here)

end Refused

/-- Arguments are checked from left to right, and the first one refused is reported. -/
theorem checkKinds_eq_error_iff {signature : List (List Kind)} {arguments : List Value}
    {e : Error} : checkKinds signature arguments = .error e ↔ ∃ position accepted found,
      FirstRefused signature arguments position accepted found ∧
        e = .typeMismatch accepted found := by
  induction signature generalizing arguments with
  | nil => simp [checkKinds, FirstRefused, Refused]
  | cons accepted signature ih =>
      cases arguments with
      | nil => simp [checkKinds, FirstRefused, Refused]
      | cons argument arguments =>
          -- The first position is looked at by the check itself, the others by its recursion.
          rw [checkKinds, ← Nat.or_exists_add_one]
          simp only [firstRefused_zero_iff, firstRefused_succ_iff]
          split
          · next own => simp [own, ih]
          · next foreign => simp [foreign, eq_comm]

theorem checkKinds_eq_ok_iff {signature : List (List Kind)} {arguments : List Value} :
    checkKinds signature arguments = .ok () ↔
      ¬ ∃ position accepted found, Refused signature arguments position accepted found := by
  constructor
  · intro kinds refused
    obtain ⟨position, accepted, found, first⟩ := exists_firstRefused refused
    have fails := checkKinds_eq_error_iff.mpr ⟨position, accepted, found, first, rfl⟩
    rw [fails] at kinds
    cases kinds
  · intro taken
    cases kinds : checkKinds signature arguments with
    | ok _ => rfl
    | error e =>
        obtain ⟨position, accepted, found, first, -⟩ := checkKinds_eq_error_iff.mp kinds
        exact absurd ⟨position, accepted, found, first.1⟩ taken

/-- As many arguments as there are positions, each of a kind that its position takes. -/
def Fits (signature : List (List Kind)) (arguments : List Value) : Prop :=
  List.Forall₂ (fun accepted argument => argument.kind ∈ accepted) signature arguments

theorem fits_iff {signature : List (List Kind)} {arguments : List Value} :
    Fits signature arguments ↔ arguments.length = signature.length ∧
      ¬ ∃ position accepted found, Refused signature arguments position accepted found := by
  rw [Fits, List.forall₂_iff_get]
  constructor
  · rintro ⟨counted, own⟩
    refine ⟨counted.symm, ?_⟩
    rintro ⟨position, accepted, found, takes, given, foreign⟩
    obtain ⟨argument, here, rfl⟩ := Option.map_eq_some_iff.mp given
    obtain ⟨within, rfl⟩ := List.getElem?_eq_some_iff.mp takes
    obtain ⟨inside, rfl⟩ := List.getElem?_eq_some_iff.mp here
    exact foreign (own position within inside)
  · rintro ⟨counted, taken⟩
    refine ⟨counted.symm, fun position within inside => ?_⟩
    by_contra foreign
    refine taken ⟨position, signature[position], arguments[position].kind, ?_, ?_, foreign⟩
    · exact List.getElem?_eq_getElem within
    · rw [List.getElem?_eq_getElem inside, Option.map_some]

end EndpointResolution.Function
