import Introspect.Proofs.Decimal.Printing
import Mathlib.Data.List.Induction

/-!
# `Introspect.Proofs.Decimal.Literals`: which texts are whole numbers

`Numeral` says what a row of digits stands for, digit by digit, and `Denotes` adds the sign.
`integer?_eq_some_iff` states that these texts are read as what they denote, and that no other text
is read at all; `int64?_eq_some_iff` is the same for numbers of 64 bits.
-/

set_option autoImplicit false

namespace Introspect.Decimal

variable {cs : List Char} {k : Nat} {m : Int} {c : Char}

/-- At least one digit. Each further one makes ten times as much of those before it. -/
inductive Numeral : List Char → Nat → Prop
  | digit {c : Char} : isDigit c = true → Numeral [c] (digitValue c)
  | snoc {cs : List Char} {k : Nat} {c : Char} :
      Numeral cs k → isDigit c = true → Numeral (cs ++ [c]) (10 * k + digitValue c)

/-- A whole number in decimal: a numeral, with a plus, a minus or nothing in front. -/
inductive Denotes : List Char → Int → Prop
  | bare {cs : List Char} {k : Nat} : Numeral cs k → Denotes cs k
  | plus {cs : List Char} {k : Nat} : Numeral cs k → Denotes ('+' :: cs) k
  | minus {cs : List Char} {k : Nat} : Numeral cs k → Denotes ('-' :: cs) (-k)

/-- A numeral has digits only, and at least one. -/
theorem Numeral.digits (h : Numeral cs k) : cs ≠ [] ∧ ∀ c ∈ cs, isDigit c = true := by
  induction h with
  | digit hdigit => simpa using hdigit
  | snoc _ hdigit ih =>
      refine ⟨by simp, fun c hc => ?_⟩
      rcases List.mem_append.mp hc with hc | hc
      · exact ih.2 c hc
      · exact List.mem_singleton.mp hc ▸ hdigit

/-- Every row of digits is a numeral, for the number that is read. -/
theorem numeral_of_digits (hne : cs ≠ []) (hdigits : ∀ c ∈ cs, isDigit c = true) :
    Numeral cs (ofDigits cs) := by
  induction cs using List.reverseRecOn with
  | nil => exact absurd rfl hne
  | append_singleton cs c ih =>
      have hlast : isDigit c = true := hdigits c (by simp)
      have hvalue : ofDigits (cs ++ [c]) = 10 * ofDigits cs + digitValue c := by
        simp [ofDigits, List.foldl_append]
      rw [hvalue]
      by_cases hnil : cs = []
      · subst hnil
        have honly : Numeral [c] (digitValue c) := .digit hlast
        simpa [ofDigits] using honly
      · exact .snoc (ih hnil fun c hc => hdigits c (List.mem_append_left _ hc)) hlast

/-- A numeral stands for the number that is read. -/
theorem Numeral.ofDigits_eq (h : Numeral cs k) : ofDigits cs = k := by
  induction h with
  | digit => simp [ofDigits]
  | snoc _ _ ih =>
      rw [ofDigits] at ih ⊢
      rw [List.foldl_append, ih]
      rfl

/-- Numerals are read, and nothing else is. -/
theorem natural?_eq_some_iff : natural? cs = some k ↔ Numeral cs k := by
  unfold natural?
  constructor
  · intro h
    split at h
    · next hdigits =>
        obtain rfl := Option.some.inj h
        exact numeral_of_digits hdigits.1 (List.all_eq_true.mp hdigits.2)
    · cases h
  · intro h
    obtain ⟨hne, hdigits⟩ := h.digits
    rw [if_pos ⟨hne, List.all_eq_true.mpr hdigits⟩, h.ofDigits_eq]

/-- No numeral starts with a sign, so there is none to split off. -/
theorem Numeral.splitSign_eq (h : Numeral cs k) : splitSign cs = (false, cs) := by
  obtain ⟨-, hdigits⟩ := h.digits
  unfold splitSign
  split
  · exact absurd (hdigits '-' List.mem_cons_self) (by decide)
  · exact absurd (hdigits '+' List.mem_cons_self) (by decide)
  · rfl

/-- A minus or a plus is split off, and anything else stays whole. -/
theorem splitSign_cases (cs : List Char) :
    (∃ rest, cs = '-' :: rest ∧ splitSign cs = (true, rest)) ∨
      (∃ rest, cs = '+' :: rest ∧ splitSign cs = (false, rest)) ∨ splitSign cs = (false, cs) := by
  unfold splitSign
  split
  · next rest => exact .inl ⟨rest, rfl, rfl⟩
  · next rest => exact .inr (.inl ⟨rest, rfl, rfl⟩)
  · exact .inr (.inr rfl)

/-- A text is read when a numeral follows its sign, and a minus makes the number negative. -/
theorem integer?_eq_some_iff_numeral : integer? cs = some m ↔
    ∃ k : Nat, Numeral (splitSign cs).2 k ∧ (if (splitSign cs).1 then -(k : Int) else k) = m := by
  simp [integer?, Option.bind_eq_some_iff, natural?_eq_some_iff]

/-- Whole numbers in decimal are read, and nothing else is. -/
theorem integer?_eq_some_iff : integer? cs = some m ↔ Denotes cs m := by
  rw [integer?_eq_some_iff_numeral]
  constructor
  · rintro ⟨k, hnumeral, rfl⟩
    rcases splitSign_cases cs with ⟨rest, rfl, -⟩ | ⟨rest, rfl, -⟩ | hbare
    · exact .minus hnumeral
    · exact .plus hnumeral
    · rw [hbare] at hnumeral ⊢
      exact .bare hnumeral
  · intro h
    cases h with
    | @bare _ k hnumeral =>
        rw [hnumeral.splitSign_eq]
        exact ⟨k, hnumeral, rfl⟩
    | @plus _ k hnumeral => exact ⟨k, hnumeral, rfl⟩
    | @minus _ k hnumeral => exact ⟨k, hnumeral, rfl⟩

/-- So are those of 64 bits. -/
theorem int64?_eq_some_iff {n : Int64} : int64? cs = some n ↔ Denotes cs n.toInt := by
  rw [← integer?_eq_some_iff, int64?, Option.bind_eq_some_iff]
  constructor
  · rintro ⟨m, hm, h⟩
    split at h
    · next hrange =>
        obtain rfl := Option.some.inj h
        rw [hm, Int64.toInt_ofInt_of_le hrange.1 (Int.lt_add_one_of_le hrange.2)]
    · cases h
  · intro h
    exact ⟨n.toInt, h, by rw [if_pos ⟨n.minValue_le_toInt, n.toInt_le⟩, Int64.ofInt_toInt]⟩

/-- A whole number in decimal has a digit or a sign at every place. -/
theorem Denotes.mem (h : Denotes cs m) (hc : c ∈ cs) : isDigit c = true ∨ c = '+' ∨ c = '-' := by
  cases h with
  | bare hnumeral => exact .inl (hnumeral.digits.2 c hc)
  | plus hnumeral =>
      rcases List.mem_cons.mp hc with hsign | hrest
      · exact .inr (.inl hsign)
      · exact .inl (hnumeral.digits.2 c hrest)
  | minus hnumeral =>
      rcases List.mem_cons.mp hc with hsign | hrest
      · exact .inr (.inr hsign)
      · exact .inl (hnumeral.digits.2 c hrest)

/-- There is no point in it. -/
theorem Denotes.point_not_mem (h : Denotes cs m) : '.' ∉ cs := fun hpoint =>
  absurd (h.mem hpoint) (by decide)

/-- Two numbers that one text denotes are the same. -/
theorem Denotes.unique {m' : Int} (h : Denotes cs m) (h' : Denotes cs m') : m = m' :=
  Option.some.inj ((integer?_eq_some_iff.mpr h).symm.trans (integer?_eq_some_iff.mpr h'))

end Introspect.Decimal
