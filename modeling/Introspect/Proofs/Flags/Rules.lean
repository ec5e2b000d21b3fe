import Introspect.Flags

/-!
# `Introspect.Proofs.Flags.Rules`: adding a rule to a set of rules

A rule that is added is there afterwards (`contains_union_self`). All others are there exactly if
they were before: single rules have different bits, so that adding one says nothing about another
(`contains_union_of_apart`). What reads only rules apart from the added ones has the same outcome.
`matchesName` reads two rules, and `matchesBinding` reads four.
-/

set_option autoImplicit false

namespace Introspect.Flags

variable {flags extra rule : Flags}

/-- Sets of rules that have none in common. -/
def Apart (a b : Flags) : Prop :=
  a.bits &&& b.bits = 0

instance (a b : Flags) : Decidable (a.Apart b) :=
  inferInstanceAs (Decidable (a.bits &&& b.bits = 0))

/-- What is apart from a set is apart from every rule in it. -/
theorem Apart.of_contains {set : Flags} (h : extra.Apart set) (rule : Flags)
    (hrule : set.contains rule = true) : extra.Apart rule := by
  have hpart : set.bits &&& rule.bits = rule.bits := beq_iff_eq.mp hrule
  show extra.bits &&& rule.bits = 0
  rw [← hpart, ← UInt64.and_assoc, show extra.bits &&& set.bits = 0 from h, UInt64.zero_and]

/-- What is added is there. -/
theorem contains_union_self (flags rule : Flags) : (flags ∪ rule).contains rule = true := by
  show ((flags.bits ||| rule.bits) &&& rule.bits == rule.bits) = true
  rw [beq_iff_eq, ← UInt64.toBitVec_inj, UInt64.toBitVec_and, UInt64.toBitVec_or]
  ext i hi
  simp only [BitVec.getElem_and, BitVec.getElem_or]
  cases rule.bits.toBitVec[i] <;> simp

/-- A rule apart from those that are added is there exactly if it was there before. -/
theorem contains_union_of_apart (flags : Flags) (h : extra.Apart rule) :
    (flags ∪ extra).contains rule = flags.contains rule := by
  have hbits : (flags.bits ||| extra.bits) &&& rule.bits = flags.bits &&& rule.bits := by
    rw [Apart, ← UInt64.toBitVec_inj, UInt64.toBitVec_and] at h
    rw [← UInt64.toBitVec_inj, UInt64.toBitVec_and, UInt64.toBitVec_or,
      BitVec.and_or_distrib_right, h, UInt64.toBitVec_and]
    exact BitVec.or_zero
  show ((flags.bits ||| extra.bits) &&& rule.bits == rule.bits) =
    (flags.bits &&& rule.bits == rule.bits)
  rw [hbits]

/-- Names are compared as before when no rule about names is added. -/
theorem matchesName_union (flags : Flags) (hcase : extra.Apart ignoreCase)
    (hpartial : extra.Apart partialNameMatch) (member name : String) :
    (flags ∪ extra).matchesName member name = flags.matchesName member name := by
  rw [matchesName, matchesName, contains_union_of_apart flags hcase,
    contains_union_of_apart flags hpartial]

/-- Visibility and storage are judged as before when no rule about them is added. -/
theorem matchesBinding_union (flags : Flags) (h : extra.Apart staticInstanceAnyVisibility)
    (visibility : Visibility) (isStatic : Bool) :
    (flags ∪ extra).matchesBinding visibility isStatic =
      flags.matchesBinding visibility isStatic := by
  have hpublic := contains_union_of_apart flags (h.of_contains publicMembers rfl)
  have hnonPublic := contains_union_of_apart flags (h.of_contains nonPublicMembers rfl)
  have hstatic := contains_union_of_apart flags (h.of_contains staticMembers rfl)
  have hinstance := contains_union_of_apart flags (h.of_contains instanceMembers rfl)
  cases visibility with
  | isPublic => rw [matchesBinding, matchesBinding, hpublic, hstatic, hinstance]
  | nonPublic => rw [matchesBinding, matchesBinding, hnonPublic, hstatic, hinstance]

end Introspect.Flags
