import Introspect.Text.CaseTable

/-!
# `Introspect.Text.Lowercase`: full Unicode lower case and search inside a text

`lowercase` replaces each character by its lower case. Two characters need more than the table: the
capital I with a dot becomes two characters, and the capital sigma takes its final form at the end
of a word. `isWithin` looks for one text inside another.

`lowerAfter_of_no_sigma` says that without a capital sigma each character has its own lower
case, and `isWithin_iff` that the search finds exactly the contiguous parts.
-/

set_option autoImplicit false

namespace Introspect.Text

/-- Whether a code point lies in one of the ranges. -/
def inRanges (ranges : List (Nat × Nat)) (n : Nat) : Bool :=
  ranges.any fun r => r.1 ≤ n && n ≤ r.2

/-- The property *Cased*. -/
def isCased (c : Char) : Bool :=
  inRanges casedRanges c.toNat

/-- The property *Case_Ignorable*. -/
def isCaseIgnorable (c : Char) : Bool :=
  inRanges ignorableRanges c.toNat

/-- The capital sigma. -/
def capitalSigma : Char := 'Σ'

/-- The lower case of a character that does not depend on its neighbours. -/
def lowerChar (c : Char) : List Char :=
  -- The one character whose lower case has two characters.
  if c.toNat = 0x130 then ['i', '\u0307'] else
  match lowerRanges.find? fun (first, last, step, _) =>
      first ≤ c.toNat && c.toNat ≤ last && (c.toNat - first) % step == 0 with
  | some (_, _, _, distance) => [Char.ofNat (c.toNat + distance).toNat]
  | none => [c]

/-- Whether the first character that cannot be ignored is a cased letter. -/
def cased? (cs : List Char) : Bool :=
  match cs.dropWhile isCaseIgnorable with
  | [] => false
  | c :: _ => isCased c

/-- The lower case of `cs`, where `before` holds the characters in front of it, nearest first. A
capital sigma is final when a cased letter comes before it and none after it. -/
def lowerAfter (before : List Char) : List Char → List Char
  | [] => []
  | c :: rest =>
    (if c = capitalSigma then [if cased? before && !cased? rest then 'ς' else 'σ']
     else lowerChar c) ++ lowerAfter (c :: before) rest

/-- Full Unicode lower case. -/
def lowercase (s : String) : String :=
  String.ofList (lowerAfter [] s.toList)

/-- Whether `needle` is a contiguous part of the characters. -/
def isWithin (needle : List Char) : List Char → Bool
  | [] => needle.isEmpty
  | c :: rest => needle.isPrefixOf (c :: rest) || isWithin needle rest

/-- Whether `part` occurs in `whole`. -/
def contains (whole part : String) : Bool :=
  isWithin part.toList whole.toList

/-- The search finds exactly the contiguous parts. -/
theorem isWithin_iff (needle hay : List Char) :
    isWithin needle hay = true ↔ ∃ front back, hay = front ++ needle ++ back := by
  induction hay with
  | nil =>
    simp only [isWithin, List.isEmpty_iff]
    constructor
    · rintro rfl; exact ⟨[], [], rfl⟩
    · rintro ⟨front, back, h⟩
      have := h.symm
      simp only [List.append_eq_nil_iff] at this
      exact this.1.2
  | cons c rest ih =>
    simp only [isWithin, Bool.or_eq_true, ih, List.isPrefixOf_iff_prefix]
    constructor
    · rintro (⟨back, h⟩ | ⟨front, back, h⟩)
      · exact ⟨[], back, by simpa using h.symm⟩
      · exact ⟨c :: front, back, by simp [h]⟩
    · rintro ⟨front, back, h⟩
      cases front with
      | nil => exact Or.inl ⟨back, by simpa using h.symm⟩
      | cons d front =>
        simp only [List.cons_append, List.cons.injEq] at h
        exact Or.inr ⟨front, back, by simpa using h.2⟩

/-- A text without a capital sigma has the lower case of its characters, one after another. -/
theorem lowerAfter_of_no_sigma (cs before : List Char) (h : ∀ c ∈ cs, c ≠ capitalSigma) :
    lowerAfter before cs = cs.flatMap lowerChar := by
  induction cs generalizing before with
  | nil => rfl
  | cons c rest ih =>
    have hc : c ≠ capitalSigma := h c (by simp)
    simp [lowerAfter, hc, ih _ fun d hd => h d (by simp [hd])]

end Introspect.Text
