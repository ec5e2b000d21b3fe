import Introspect.Decimal.Integer
import Introspect.Text.Blank

/-!
# `Introspect.Proofs.Decimal.Printing`: numbers in decimal are read back

`ofInt` writes a whole number with digits and at most a minus in front. None of these characters is
a blank, so trimming leaves the text alone (`trimList_ofInt`), and reading it gives the number again
(`integer?_ofInt`), also with the range checks for 32 and 64 bits.
-/

set_option autoImplicit false

namespace Introspect

/-- Trimming leaves a list without blanks alone. -/
theorem Text.trimList_of_no_blank {cs : List Char} (h : ∀ c ∈ cs, isBlank c = false) :
    trimList cs = cs := by
  have hkeep : ∀ cs : List Char, (∀ c ∈ cs, isBlank c = false) → cs.dropWhile isBlank = cs := by
    intro cs hcs
    cases cs with
    | nil => rfl
    | cons c rest => simp [hcs c List.mem_cons_self]
  have hreverse : ∀ c ∈ cs.reverse, isBlank c = false := fun c hc => h c (List.mem_reverse.mp hc)
  rw [trimList, hkeep cs h, hkeep cs.reverse hreverse, List.reverse_reverse]

namespace Decimal

/-! ### The characters of a number -/

/-- The digits are the ASCII characters from 0 to 9. -/
theorem isDigit_iff {c : Char} : isDigit c = true ↔ 48 ≤ c.toNat ∧ c.toNat ≤ 57 := by
  simp only [isDigit, Bool.and_eq_true, decide_eq_true_eq, Char.le_def, UInt32.le_iff_toNat_le]
  rfl

/-- A natural number is written with digits. -/
theorem isDigit_of_mem_toDigits {k : Nat} {c : Char} (h : c ∈ Nat.toDigits 10 k) :
    isDigit c = true :=
  Nat.isDigit_of_mem_toDigits (by decide) (by decide) h

/-- A whole number is written with digits and a minus. -/
theorem mem_ofInt {n : Int} {c : Char} (h : c ∈ (ofInt n).toList) : isDigit c = true ∨ c = '-' := by
  cases n with
  | ofNat k =>
      rw [ofInt, String.toList_ofList] at h
      exact .inl (isDigit_of_mem_toDigits h)
  | negSucc k =>
      rw [ofInt, String.toList_ofList] at h
      rcases List.mem_cons.mp h with hminus | hrest
      · exact .inr hminus
      · exact .inl (isDigit_of_mem_toDigits hrest)

/-- A digit is no blank, no comma and no point. -/
theorem ne_of_isDigit {c : Char} (h : isDigit c = true) :
    Text.isBlank c = false ∧ c ≠ ',' ∧ c ≠ '.' := by
  obtain ⟨hlow, hhigh⟩ := isDigit_iff.mp h
  refine ⟨?_, ?_, ?_⟩
  · simp only [Text.isBlank, Bool.or_eq_false_iff, Bool.and_eq_false_iff, decide_eq_false_iff_not,
      beq_eq_false_iff_ne]
    omega
  · rintro rfl
    exact absurd hlow (by decide)
  · rintro rfl
    exact absurd hlow (by decide)

/-- There is no blank, no comma and no point in a number. -/
theorem ne_of_mem_ofInt {n : Int} {c : Char} (h : c ∈ (ofInt n).toList) :
    Text.isBlank c = false ∧ c ≠ ',' ∧ c ≠ '.' := by
  rcases mem_ofInt h with hdigit | rfl
  · exact ne_of_isDigit hdigit
  · decide

/-- Trimming leaves a number alone. -/
theorem trimList_ofInt (n : Int) : Text.trimList (ofInt n).toList = (ofInt n).toList :=
  Text.trimList_of_no_blank fun _ hc => (ne_of_mem_ofInt hc).1

/-- A number is not empty. -/
theorem ofInt_ne_nil (n : Int) : (ofInt n).toList ≠ [] := by
  cases n with
  | ofNat k =>
      rw [ofInt, String.toList_ofList]
      exact Nat.toDigits_ne_nil
  | negSucc k =>
      rw [ofInt, String.toList_ofList]
      exact List.cons_ne_nil _ _

/-! ### Reading -/

/-- The digits of a natural number are read back. -/
theorem natural?_toDigits (k : Nat) : natural? (Nat.toDigits 10 k) = some k := by
  have hdigits : (Nat.toDigits 10 k).all isDigit = true :=
    List.all_eq_true.mpr fun _ hc => isDigit_of_mem_toDigits hc
  rw [natural?, if_pos ⟨Nat.toDigits_ne_nil, hdigits⟩]
  exact congrArg some (Nat.ofDigitChars_toDigits (by decide) (by decide))

/-- Digits have no sign in front. -/
theorem splitSign_toDigits (k : Nat) :
    splitSign (Nat.toDigits 10 k) = (false, Nat.toDigits 10 k) := by
  unfold splitSign
  split
  · next rest hdigits =>
      have hminus : isDigit '-' = true := isDigit_of_mem_toDigits (k := k) (by simp [hdigits])
      exact absurd hminus (by decide)
  · next rest hdigits =>
      have hplus : isDigit '+' = true := isDigit_of_mem_toDigits (k := k) (by simp [hdigits])
      exact absurd hplus (by decide)
  · rfl

/-- A whole number is read back. -/
theorem integer?_ofInt (n : Int) : integer? (ofInt n).toList = some n := by
  cases n with
  | ofNat k =>
      rw [ofInt, String.toList_ofList, integer?, splitSign_toDigits]
      dsimp only
      rw [natural?_toDigits]
      rfl
  | negSucc k =>
      rw [ofInt, String.toList_ofList, integer?, splitSign]
      dsimp only
      rw [natural?_toDigits]
      rfl

/-- So is one of 32 bits. -/
theorem int32?_ofInt (n : Int32) : int32? (ofInt n.toInt).toList = some n := by
  rw [int32?, integer?_ofInt, Option.bind_some, if_pos ⟨n.minValue_le_toInt, n.toInt_le⟩,
    Int32.ofInt_toInt]

/-- And one of 64 bits. -/
theorem int64?_ofInt (n : Int64) : int64? (ofInt n.toInt).toList = some n := by
  rw [int64?, integer?_ofInt, Option.bind_some, if_pos ⟨n.minValue_le_toInt, n.toInt_le⟩,
    Int64.ofInt_toInt]

end Decimal

end Introspect
