import Introspect.Proofs.Flags.Rules
import Introspect.Proofs.Text.Ascii
import Introspect.Proofs.Text.FinalSigma

/-!
# `Introspect.Proofs.Flags.NameMatching`: rules that let more names match

A request gives a name and rules to compare it with the names of members. Without regard to case,
the lower case of both is compared, and with partial matches the requested name is looked for inside
the member's. A rule that is added should let more members match.

A partial match does (`matchesName_partial`), for a name that is equal is a part as well. The case
is another matter. The lower case of the whole member is searched for the lower case of the
requested name, and a capital sigma can have one form in the first and another one in the second. So
a member that contains the name may be lost. `matchesName_widens` says for which names this can
happen: exactly for those with a sigma whose form they leave open. `sigma_is_lost` is such a name.
-/

set_option autoImplicit false

namespace Introspect.Flags

variable {flags : Flags} {member name : String}

/-! ### What a match is -/

/-- Without partial matches, names are compared as a whole. -/
theorem matchesName_whole (hpartial : flags.contains partialNameMatch = false) :
    flags.matchesName member name = namesEqual member name (flags.contains ignoreCase) := by
  simp [matchesName, hpartial]

/-- A partial match is a part of the member's name. -/
theorem matchesName_part_iff (hpartial : flags.contains partialNameMatch = true)
    (hcase : flags.contains ignoreCase = false) :
    flags.matchesName member name = true ↔
      ∃ front back, member.toList = front ++ name.toList ++ back := by
  simp only [matchesName, hpartial, hcase, if_true, Bool.false_eq_true, if_false]
  exact Text.isWithin_iff _ _

/-- Without regard to case, a partial match is looked for in the lower case of the member's name. -/
theorem matchesName_lowered (hpartial : flags.contains partialNameMatch = true)
    (hcase : flags.contains ignoreCase = true) :
    flags.matchesName member name =
      Text.isWithin (Text.lowerAfter [] name.toList) (Text.lowerAfter [] member.toList) := by
  simp [matchesName, hpartial, hcase, Text.contains, Text.lowercase]

/-! ### More rules -/

/-- With partial matches, whatever matched as a whole still does. -/
theorem matchesName_partial (h : flags.matchesName member name = true) :
    (flags ∪ partialNameMatch).matchesName member name = true := by
  have hadded := contains_union_self flags partialNameMatch
  have hsame : (flags ∪ partialNameMatch).contains ignoreCase = flags.contains ignoreCase :=
    contains_union_of_apart flags (by decide)
  cases hpartial : flags.contains partialNameMatch with
  | true =>
      rw [matchesName, hpartial] at h
      rwa [matchesName, hadded, hsame]
  | false =>
      rw [matchesName_whole hpartial] at h
      cases hcase : flags.contains ignoreCase with
      | true =>
          rw [hcase, namesEqual_iff_lowercase, Text.lowercase_eq_iff] at h
          -- The whole is a part of itself.
          rw [matchesName_lowered hadded (hsame.trans hcase), Text.isWithin_iff, h]
          exact ⟨[], [], by simp⟩
      | false =>
          rw [hcase, namesEqual_false] at h
          rw [matchesName_part_iff hadded (hsame.trans hcase), h]
          exact ⟨[], [], by simp⟩

/-- A part of a member's name is found without regard to case where its sigmas have the forms that
they have by themselves. -/
theorem matchesName_ignoreCase_of_keepsForms (hpartial : flags.contains partialNameMatch = true)
    {front back : List Char} (hmember : member.toList = front ++ name.toList ++ back)
    (hforms : Text.KeepsForms front.reverse back [] [] name.toList) :
    (flags ∪ ignoreCase).matchesName member name = true := by
  have hstill : (flags ∪ ignoreCase).contains partialNameMatch = true := by
    rw [contains_union_of_apart flags (by decide), hpartial]
  rw [matchesName_lowered hstill (contains_union_self flags ignoreCase), hmember]
  exact hforms.isWithin

/-- Without regard to case, all that matched still does, unless a part is looked for that leaves the
form of a sigma open. -/
theorem matchesName_ignoreCase
    (hsettled : flags.contains partialNameMatch = true → flags.contains ignoreCase = false →
      Text.Settled name.toList)
    (h : flags.matchesName member name = true) :
    (flags ∪ ignoreCase).matchesName member name = true := by
  have hadded := contains_union_self flags ignoreCase
  have hsame : (flags ∪ ignoreCase).contains partialNameMatch = flags.contains partialNameMatch :=
    contains_union_of_apart flags (by decide)
  cases hcase : flags.contains ignoreCase with
  | true =>
      rw [matchesName, hcase] at h
      rwa [matchesName, hadded, hsame]
  | false =>
      cases hpartial : flags.contains partialNameMatch with
      | true =>
          obtain ⟨front, back, hmember⟩ := (matchesName_part_iff hpartial hcase).mp h
          exact matchesName_ignoreCase_of_keepsForms hpartial hmember
            ((hsettled hpartial hcase).keepsForms _ _)
      | false =>
          rw [matchesName_whole hpartial, hcase, namesEqual_false] at h
          rw [matchesName_whole (hsame.trans hpartial), hadded, namesEqual_iff_lowercase, h]

/-- A name that leaves the form of a sigma open is lost in some member that contains it. -/
theorem settled_of_widens (hpartial : flags.contains partialNameMatch = true)
    (hcase : flags.contains ignoreCase = false)
    (h : ∀ member, flags.matchesName member name = true →
      (flags ∪ ignoreCase).matchesName member name = true) : Text.Settled name.toList := by
  have hstill : (flags ∪ ignoreCase).contains partialNameMatch = true := by
    rw [contains_union_of_apart flags (by decide), hpartial]
  rw [Text.settled_iff]
  -- Any surroundings make a member that contains the name.
  intro front back
  have hmatch := h (String.ofList (front ++ name.toList ++ back)) (by
    rw [matchesName_part_iff hpartial hcase, String.toList_ofList]
    exact ⟨front, back, rfl⟩)
  rwa [matchesName_lowered hstill (contains_union_self flags ignoreCase), String.toList_ofList]
    at hmatch

/-- Which rules let more members match. Ignoring case does for all members exactly if no part is
looked for that leaves the form of a sigma open, and in any case for a member where the sigmas of
the part have the forms that they have by themselves. Allowing partial matches always does. -/
theorem matchesName_widens (flags : Flags) (name : String) :
    ((∀ member, flags.matchesName member name = true →
        (flags ∪ ignoreCase).matchesName member name = true) ↔
      (flags.contains partialNameMatch = true → flags.contains ignoreCase = false →
        Text.Settled name.toList)) ∧
    (∀ front back : String, flags.contains partialNameMatch = true →
      Text.KeepsForms front.toList.reverse back.toList [] [] name.toList →
        (flags ∪ ignoreCase).matchesName (front ++ name ++ back) name = true) ∧
    ∀ member, flags.matchesName member name = true →
      (flags ∪ partialNameMatch).matchesName member name = true := by
  refine ⟨⟨?_, ?_⟩, ?_, ?_⟩
  · intro hwidens hpartial hcase
    exact settled_of_widens hpartial hcase hwidens
  · intro hsettled member hmatch
    exact matchesName_ignoreCase hsettled hmatch
  · intro front back hpartial hforms
    exact matchesName_ignoreCase_of_keepsForms hpartial (by simp) hforms
  · intro member hmatch
    exact matchesName_partial hmatch

/-- A sigma between two letters has its form by itself, so this part is found again. One at the end
is found at the end of a member's name. -/
theorem matchesName_widens_settled :
    (Text.Settled "ΑΣΑ".toList ∧ (standard ∪ partialNameMatch).matchesName "ΝΑΣΑΣ" "ΑΣΑ" = true ∧
      (standard ∪ partialNameMatch ∪ ignoreCase).matchesName "ΝΑΣΑΣ" "ΑΣΑ" = true) ∧
    (¬ Text.Settled "ΑΣ".toList ∧
      Text.KeepsForms "Ν".toList.reverse "".toList [] [] "ΑΣ".toList ∧
      (standard ∪ partialNameMatch ∪ ignoreCase).matchesName ("Ν" ++ "ΑΣ" ++ "") "ΑΣ" = true) ∧
    (standard ∪ ignoreCase).matchesName "ΑΣ" "ας" = true ∧
      (standard ∪ ignoreCase ∪ partialNameMatch).matchesName "ΑΣ" "ας" = true := by
  have hsettled : Text.Settled "ΑΣΑ".toList := by decide +kernel
  have hpart : (standard ∪ partialNameMatch).matchesName "ΝΑΣΑΣ" "ΑΣΑ" = true := by decide +kernel
  have hforms : Text.KeepsForms "Ν".toList.reverse "".toList [] [] "ΑΣ".toList := by decide +kernel
  have hwhole : (standard ∪ ignoreCase).matchesName "ΑΣ" "ας" = true := by decide +kernel
  exact ⟨⟨hsettled, hpart, (matchesName_widens _ _).1.mpr (fun _ _ => hsettled) _ hpart⟩,
    ⟨by decide +kernel, hforms, (matchesName_widens _ _).2.1 _ _ (by decide) hforms⟩,
    hwhole, (matchesName_widens _ _).2.2 _ hwhole⟩

/-- A sigma at the end of the requested name is final, and in the middle of the member's name it is
not: the member that contains the name does not match without regard to case. -/
theorem sigma_is_lost :
    (standard ∪ partialNameMatch).matchesName "ΑΣΑ" "ΑΣ" = true ∧
      (standard ∪ partialNameMatch ∪ ignoreCase).matchesName "ΑΣΑ" "ΑΣ" = false := by
  decide +kernel

end Introspect.Flags
