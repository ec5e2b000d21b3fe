import Introspect.Flags

/-!
# `Introspect.Proofs.Text.Ascii`: two ways to compare names without regard to case

Names of ASCII characters only are compared character by character, all other names by their lower
case. On ASCII characters the table of lower-case letters says the same as the short cut
(`lowerChar_of_ascii`): its first range is that of the letters from A to Z, and all others lie
beyond. So both ways have one outcome, and names are equal without regard to case exactly when their
lower case is the same, whichever characters the two names have (`namesEqual_ignoring_case`).
Whether the short cut is taken depends on both names. That is why transitivity is worth a statement:
a Kelvin sign has the lower case of an ASCII letter.
-/

set_option autoImplicit false

namespace Introspect

namespace Text

/-- Beyond the letters from A to Z, capitals are no ASCII characters. -/
theorem lowerRanges_eq : ∃ rest, lowerRanges = (0x41, 0x5a, 1, 32) :: rest ∧
    ∀ range ∈ rest, 128 ≤ range.1 :=
  ⟨lowerRanges.tail, rfl, by decide +kernel⟩

/-- The lower case of an ASCII character is that of the short cut. -/
theorem lowerChar_of_ascii {c : Char} (hc : c.toNat < 128) : lowerChar c = [c.toLower] := by
  obtain ⟨rest, hranges, hbeyond⟩ := lowerRanges_eq
  -- No range but the first starts low enough.
  have hnone : ∀ test : Nat × Nat × Nat × Int → Bool,
      (∀ range, test range = true → range.1 ≤ c.toNat) → rest.find? test = none := by
    intro test htest
    rw [List.find?_eq_none]
    intro range hrange hyes
    have hfirst := hbeyond range hrange
    have hstart := htest range hyes
    omega
  have hdot : c.toNat ≠ 0x130 := by omega
  rw [lowerChar, if_neg hdot, hranges, List.find?_cons, hnone]
  rotate_left
  · intro range hyes
    simp only [Bool.and_eq_true, decide_eq_true_eq] at hyes
    exact hyes.1.1
  by_cases hletter : 0x41 ≤ c.toNat ∧ c.toNat ≤ 0x5a
  · have hlower : ((c.toNat : Int) + 32).toNat = c.toLower.toNat := by
      have hcapital : c.toLower.toNat = (c.val + 32).toNat := congrArg Char.toNat (dif_pos hletter)
      have hval : c.val.toNat = c.toNat := rfl
      rw [hcapital, UInt32.toNat_add, hval]
      show _ = (c.toNat + 32) % 2 ^ 32
      omega
    simp only [hletter, Nat.mod_one, decide_true, Bool.and_true, beq_self_eq_true]
    rw [hlower, Char.ofNat_toNat]
  · have hother : c.toLower = c := dif_neg hletter
    rw [hother]
    rcases Nat.lt_or_ge c.toNat 0x41 with hless | hmore
    · have htest : ¬ 0x41 ≤ c.toNat := by omega
      simp [htest]
    · have htest : ¬ c.toNat ≤ 0x5a := fun hle => hletter ⟨hmore, hle⟩
      simp [htest]

/-- The lower case of ASCII characters is that of the short cut, whatever stands before them. -/
theorem lowerAfter_of_ascii {cs : List Char} (hcs : ∀ c ∈ cs, c.toNat < 128)
    (before : List Char) : lowerAfter before cs = cs.map Char.toLower := by
  have hsigma : ∀ c ∈ cs, c ≠ capitalSigma := by
    rintro c hc rfl
    have hless := hcs capitalSigma hc
    exact absurd hless (by decide)
  rw [lowerAfter_of_no_sigma cs before hsigma]
  induction cs with
  | nil => rfl
  | cons c rest ih =>
      have hrest := ih (fun d hd => hcs d (.tail _ hd)) (fun d hd => hsigma d (.tail _ hd))
      rw [List.flatMap_cons, hrest, lowerChar_of_ascii (hcs c List.mem_cons_self), List.map_cons]
      rfl

/-- Texts have one lower case when their characters have. -/
theorem lowercase_eq_iff (a b : String) :
    lowercase a = lowercase b ↔ lowerAfter [] a.toList = lowerAfter [] b.toList :=
  String.ofList_inj

end Text

/-- On ASCII names the short cut decides whether the lower case is the same. -/
theorem asciiEqual_iff {a b : String} (ha : isAscii a = true) (hb : isAscii b = true) :
    asciiEqual a b = true ↔ Text.lowercase a = Text.lowercase b := by
  simp only [isAscii, List.all_eq_true, decide_eq_true_eq] at ha hb
  rw [Text.lowercase_eq_iff, Text.lowerAfter_of_ascii ha, Text.lowerAfter_of_ascii hb, asciiEqual,
    beq_iff_eq]

/-- Names are equal without regard to case exactly when they have the same lower case. -/
theorem namesEqual_iff_lowercase (a b : String) :
    namesEqual a b true = true ↔ Text.lowercase a = Text.lowercase b := by
  cases hboth : isAscii a && isAscii b with
  | true =>
      obtain ⟨ha, hb⟩ := Bool.and_eq_true_iff.mp hboth
      rw [← asciiEqual_iff ha hb]
      simp [namesEqual, ha, hb]
  | false => simp [namesEqual, hboth]

/-- Names are equal without regard to case exactly when their full lower case is the same, whether
they are ASCII names or not. So this is an equivalence of names. -/
theorem namesEqual_ignoring_case :
    (∀ a b, namesEqual a b true = true ↔ Text.lowercase a = Text.lowercase b) ∧
      Equivalence fun a b => namesEqual a b true = true := by
  refine ⟨namesEqual_iff_lowercase, ?_, ?_, ?_⟩
  · intro a
    rw [namesEqual_iff_lowercase]
  · intro a b hab
    rw [namesEqual_iff_lowercase] at hab ⊢
    exact hab.symm
  · intro a b c hab hbc
    rw [namesEqual_iff_lowercase] at hab hbc ⊢
    exact hab.trans hbc

/-- The Kelvin sign and the two ASCII letters. -/
example : namesEqual "\u212a" "k" true = true ∧ namesEqual "k" "K" true = true ∧
    namesEqual "\u212a" "K" true = true := by
  decide +kernel

end Introspect
