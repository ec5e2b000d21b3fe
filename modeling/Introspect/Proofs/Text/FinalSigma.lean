import Introspect.Text.Blank
import Introspect.Text.Lowercase

/-!
# `Introspect.Proofs.Text.FinalSigma`: the lower case of a part of a text

The lower case of a text is that of its characters, one after another, except for the capital sigma:
its form depends on the nearest characters before it and after it that cannot be ignored. So a part
of a text may have another lower case than it has by itself. `lowerWithin` is the lower case of a
part between what stands in front of it and what follows, and `lowerAfter_append` says that the
lower case of the whole is made of such parts.

A part keeps its lower case when each of its capital sigmas keeps its form (`lowerWithin_congr`).
`Settled` says of a text that it decides the form of all its sigmas by itself. Such a text has the
lower case of its own wherever it stands, and no other text has (`settled_iff`): one letter in front
of it or behind it is enough to change a sigma. The proof counts sigmas. A letter at one end can
only turn sigmas of one form into the other, so it leaves fewer of the first form than the text has
by itself, and the lower case of the text is no part of the whole any more.
-/

set_option autoImplicit false

namespace Introspect.Text

/-- Whether a capital sigma between these characters, each list with the nearest first, has its
final form. -/
def isFinal (before after : List Char) : Bool :=
  cased? before && !cased? after

/-- The form of a capital sigma between these characters. -/
def sigmaForm (before after : List Char) : Char :=
  if isFinal before after then 'ς' else 'σ'

/-- The lower case that characters have between those in `before`, nearest first, and those in
`after`. -/
def lowerWithin (before : List Char) : List Char → List Char → List Char
  | [], _ => []
  | c :: rest, after =>
    (if c = capitalSigma then [sigmaForm before (rest ++ after)] else lowerChar c) ++
      lowerWithin (c :: before) rest after

variable {before before' after after' cs : List Char}

/-- A property of the capital sigmas of a text, each with the characters before it and those after
it, can be tested at one position after another. -/
theorem forall_sigma_iff (P : List Char → List Char → Prop) :
    (∀ xs ys, cs = xs ++ capitalSigma :: ys → P xs ys) ↔
      ∀ i < cs.length, cs[i]? = some capitalSigma → P (cs.take i) (cs.drop (i + 1)) := by
  constructor
  · intro h i hi hget
    have hsigma : cs[i] = capitalSigma := by simpa [hi] using hget
    refine h _ _ ?_
    rw [← hsigma, ← List.drop_eq_getElem_cons hi, List.take_append_drop]
  · rintro h xs ys rfl
    have hposition := h xs.length (by simp) (by simp)
    simpa using hposition

/-! ### Parts -/

/-- The lower case of a text is that of a first part and that of the rest. -/
theorem lowerAfter_append (before cs after : List Char) :
    lowerAfter before (cs ++ after) =
      lowerWithin before cs after ++ lowerAfter (cs.reverse ++ before) after := by
  induction cs generalizing before with
  | nil => rfl
  | cons c rest ih =>
      rw [List.cons_append, lowerAfter, ih, lowerWithin, List.append_assoc, List.reverse_cons,
        List.append_assoc]
      rfl

/-- A part that ends the text. -/
theorem lowerWithin_nil (before cs : List Char) :
    lowerWithin before cs [] = lowerAfter before cs := by
  have hsplit := lowerAfter_append before cs []
  rw [List.append_nil] at hsplit
  rw [hsplit, lowerAfter, List.append_nil]

/-- A part is made of parts itself. -/
theorem lowerWithin_append (before xs ys after : List Char) :
    lowerWithin before (xs ++ ys) after =
      lowerWithin before xs (ys ++ after) ++ lowerWithin (xs.reverse ++ before) ys after := by
  induction xs generalizing before with
  | nil => rfl
  | cons c rest ih =>
      rw [List.cons_append, lowerWithin, ih, lowerWithin, List.append_assoc, List.append_assoc,
        List.reverse_cons, List.append_assoc]
      rfl

/-- Each capital sigma has the same form in both surroundings. -/
def KeepsForms (before after before' after' cs : List Char) : Prop :=
  ∀ xs ys, cs = xs ++ capitalSigma :: ys →
    isFinal (xs.reverse ++ before) (ys ++ after) = isFinal (xs.reverse ++ before') (ys ++ after')

instance (before after before' after' cs : List Char) :
    Decidable (KeepsForms before after before' after' cs) :=
  decidable_of_iff' _ (forall_sigma_iff fun xs ys =>
    isFinal (xs.reverse ++ before) (ys ++ after) = isFinal (xs.reverse ++ before') (ys ++ after'))

/-- What holds of each capital sigma of a text holds of those behind its first character, which
counts as one of those before them. -/
theorem forall_sigma_tail {P : List Char → List Char → Prop} {c : Char} {rest : List Char}
    (h : ∀ xs ys, c :: rest = xs ++ capitalSigma :: ys → P xs ys) (xs ys : List Char)
    (hrest : rest = xs ++ capitalSigma :: ys) : P (c :: xs) ys :=
  h (c :: xs) ys (by rw [hrest]; rfl)

/-- A part whose sigmas keep their forms keeps its lower case. -/
theorem lowerWithin_congr (h : KeepsForms before after before' after' cs) :
    lowerWithin before cs after = lowerWithin before' cs after' := by
  induction cs generalizing before before' with
  | nil => rfl
  | cons c rest ih =>
      have hrest : KeepsForms (c :: before) after (c :: before') after' rest := by
        intro xs ys heq
        have htail := forall_sigma_tail h xs ys heq
        simpa [List.append_assoc] using htail
      rw [lowerWithin, lowerWithin, ih hrest]
      by_cases hc : c = capitalSigma
      · subst hc
        have hfirst := h [] rest rfl
        rw [List.reverse_nil, List.nil_append, List.nil_append] at hfirst
        rw [sigmaForm, sigmaForm, hfirst]
      · rw [if_neg hc, if_neg hc]

/-! ### What lies further out -/

/-- No cased letter comes first when all characters can be ignored. -/
theorem cased?_of_all (h : before.all isCaseIgnorable = true) : cased? before = false := by
  have hnil : before.dropWhile isCaseIgnorable = [] :=
    (dropWhile_eq_nil isCaseIgnorable before).mpr (List.all_eq_true.mp h)
  rw [cased?, hnil]

/-- Characters that can be ignored leave it to those behind them. -/
theorem cased?_append_of_all (h : before.all isCaseIgnorable = true) (more : List Char) :
    cased? (before ++ more) = cased? more := by
  have hdrop : (before ++ more).dropWhile isCaseIgnorable = more.dropWhile isCaseIgnorable :=
    List.dropWhile_append_of_pos (List.all_eq_true.mp h)
  rw [cased?, hdrop, cased?]

/-- A character that cannot be ignored decides. -/
theorem cased?_append_of_not_all (h : before.all isCaseIgnorable = false) (more : List Char) :
    cased? (before ++ more) = cased? before := by
  induction before with
  | nil => cases h
  | cons c rest ih =>
      cases hc : isCaseIgnorable c with
      | true =>
          have hrest : rest.all isCaseIgnorable = false := by simpa [hc] using h
          have hdrop := ih hrest
          simpa [cased?, hc] using hdrop
      | false => simp [cased?, hc]

/-- Whether the form of a capital sigma between these characters can change with what lies further
out: nothing before it counts, and no cased letter follows, or a cased letter is before it, and
nothing that follows counts. -/
def isOpen (before after : List Char) : Bool :=
  (before.all isCaseIgnorable && !cased? after) || (cased? before && after.all isCaseIgnorable)

/-- A sigma that is not open has the same form whatever lies further out. -/
theorem isFinal_append (h : isOpen before after = false) (front back : List Char) :
    isFinal (before ++ front) (after ++ back) = isFinal before after := by
  obtain ⟨hbefore, hafter⟩ := Bool.or_eq_false_iff.mp h
  cases hfront : before.all isCaseIgnorable with
  | true =>
      -- A cased letter follows, so the sigma is not final anyway.
      have hcased : cased? after = true := by simpa [hfront] using hbefore
      have hcounts : after.all isCaseIgnorable = false := by
        cases hall : after.all isCaseIgnorable with
        | true => simp [cased?_of_all hall] at hcased
        | false => rfl
      simp [isFinal, cased?_append_of_not_all hcounts, hcased]
  | false =>
      rw [isFinal, isFinal, cased?_append_of_not_all hfront]
      cases hcased : cased? before with
      | false => rfl
      | true =>
          have hcounts : after.all isCaseIgnorable = false := by simpa [hcased] using hafter
          rw [cased?_append_of_not_all hcounts]

/-- No capital sigma of a text is open: the text decides their forms by itself. -/
def Settled (cs : List Char) : Prop :=
  ∀ xs ys, cs = xs ++ capitalSigma :: ys → isOpen xs.reverse ys = false

instance (cs : List Char) : Decidable (Settled cs) :=
  decidable_of_iff' _ (forall_sigma_iff fun xs ys => isOpen xs.reverse ys = false)

/-- The sigmas of a settled text have the same forms in all surroundings. -/
theorem Settled.keepsForms (h : Settled cs) (before after : List Char) :
    KeepsForms before after [] [] cs := by
  intro xs ys heq
  rw [List.append_nil, List.append_nil, isFinal_append (h xs ys heq)]

/-- A part whose sigmas have the forms that they have by themselves is found in the whole. -/
theorem KeepsForms.isWithin {front back : List Char}
    (h : KeepsForms front.reverse back [] [] cs) :
    isWithin (lowerAfter [] cs) (lowerAfter [] (front ++ cs ++ back)) = true := by
  have hsame : lowerWithin front.reverse cs back = lowerAfter [] cs := by
    rw [lowerWithin_congr h, lowerWithin_nil]
  rw [isWithin_iff, List.append_assoc, lowerAfter_append, List.append_nil, lowerAfter_append, hsame]
  exact ⟨_, _, (List.append_assoc ..).symm⟩

/-! ### Texts with an open sigma -/

section Counting

variable (hfinal : ∀ xs ys, cs = xs ++ capitalSigma :: ys →
  isFinal (xs.reverse ++ before) (ys ++ after) = true →
    isFinal (xs.reverse ++ before') (ys ++ after') = true)

include hfinal

/-- When all final sigmas stay final, there are no fewer of them, and no more of the others. -/
theorem count_lowerWithin_le :
    (lowerWithin before cs after).count 'ς' ≤ (lowerWithin before' cs after').count 'ς' ∧
      (lowerWithin before' cs after').count 'σ' ≤ (lowerWithin before cs after).count 'σ' := by
  induction cs generalizing before before' with
  | nil => exact ⟨Nat.le_refl _, Nat.le_refl _⟩
  | cons c rest ih =>
      -- For the rest of the part, its first character is one of those in front.
      obtain ⟨hmore, hless⟩ := @ih (c :: before) (c :: before') (by
        intro xs ys heq hyes
        have htail := forall_sigma_tail hfinal xs ys heq
        simp only [List.reverse_cons, List.append_assoc, List.singleton_append] at htail
        exact htail hyes)
      simp only [lowerWithin, List.count_append]
      by_cases hc : c = capitalSigma
      · subst hc
        have hfirst := hfinal [] rest rfl
        simp only [List.reverse_nil, List.nil_append] at hfirst
        simp only [if_pos]
        cases hone : isFinal before (rest ++ after) with
        | true =>
            simp only [sigmaForm, hone, hfirst hone]
            omega
        | false =>
            cases htwo : isFinal before' (rest ++ after') with
            | true => simp [sigmaForm, hone, htwo]; omega
            | false => simp [sigmaForm, hone, htwo]; omega
      · simp only [if_neg hc]
        omega

/-- When one more is final, there are more of them, and fewer of the others. -/
theorem count_lowerWithin_lt {xs ys : List Char} (hsplit : cs = xs ++ capitalSigma :: ys)
    (hbefore : isFinal (xs.reverse ++ before) (ys ++ after) = false)
    (hafter : isFinal (xs.reverse ++ before') (ys ++ after') = true) :
    (lowerWithin before cs after).count 'ς' < (lowerWithin before' cs after').count 'ς' ∧
      (lowerWithin before' cs after').count 'σ' < (lowerWithin before cs after).count 'σ' := by
  subst hsplit
  -- The sigmas in front of this one and those behind it are sigmas of the whole.
  have hfront := @count_lowerWithin_le before before' (capitalSigma :: (ys ++ after))
    (capitalSigma :: (ys ++ after')) xs (by
      intro us vs heq hyes
      have hwhole := hfinal us (vs ++ capitalSigma :: ys) (by rw [heq]; simp)
      simp only [List.append_assoc, List.cons_append] at hwhole
      exact hwhole hyes)
  have hback := @count_lowerWithin_le (capitalSigma :: (xs.reverse ++ before))
    (capitalSigma :: (xs.reverse ++ before')) after after' ys (by
      intro us vs heq hyes
      have hwhole := hfinal (xs ++ capitalSigma :: us) vs (by rw [heq]; simp)
      simp only [List.reverse_append, List.reverse_cons, List.append_assoc,
        List.singleton_append] at hwhole hyes ⊢
      exact hwhole hyes)
  simp only [lowerWithin_append, lowerWithin, if_pos, sigmaForm, hbefore, hafter,
    List.cons_append, List.nil_append, List.count_append, List.count_cons]
  simp
  omega

end Counting

/-- What has fewer of some character is no whole. -/
theorem isWithin_of_count_lt {needle hay : List Char} {c : Char}
    (h : hay.count c < needle.count c) : isWithin needle hay = false := by
  cases hwithin : isWithin needle hay with
  | false => rfl
  | true =>
      obtain ⟨front, back, rfl⟩ := (isWithin_iff needle hay).mp hwithin
      rw [List.count_append, List.count_append] at h
      omega

/-- Where a cased letter comes first, it does whatever lies further out. -/
theorem cased?_append_of_cased (h : cased? before = true) (more : List Char) :
    cased? (before ++ more) = true := by
  have hcounts : before.all isCaseIgnorable = false := by
    cases hall : before.all isCaseIgnorable with
    | true => simp [cased?_of_all hall] at h
    | false => rfl
  rw [cased?_append_of_not_all hcounts, h]

/-- An ASCII letter counts as a cased letter. -/
theorem cased?_letter : cased? ['A'] = true := by decide +kernel

/-- A letter in front of a text makes an open sigma final that no cased letter follows. -/
theorem isWithin_of_open_before {xs ys : List Char} (hsplit : cs = xs ++ capitalSigma :: ys)
    (hbefore : xs.reverse.all isCaseIgnorable = true) (hafter : cased? ys = false) :
    isWithin (lowerAfter [] cs) (lowerAfter [] ('A' :: cs)) = false := by
  -- With the letter in front no sigma ceases to be final, and the open one becomes so.
  have hfewer := (@count_lowerWithin_lt [] ['A'] [] [] cs (by
    intro us vs _ hyes
    simp only [isFinal, List.append_nil, Bool.and_eq_true, Bool.not_eq_true'] at hyes ⊢
    exact ⟨cased?_append_of_cased hyes.1 _, hyes.2⟩) xs ys hsplit
    (by simp [isFinal, cased?_of_all hbefore])
    (by simp [isFinal, cased?_append_of_all hbefore, cased?_letter, hafter])).2
  rw [lowerWithin_nil, lowerWithin_nil] at hfewer
  have hwhole : lowerAfter [] ('A' :: cs) = ['a'] ++ lowerAfter ['A'] cs := rfl
  refine isWithin_of_count_lt (c := 'σ') ?_
  rw [hwhole, List.count_append]
  simpa using hfewer

/-- A letter behind a text ends the final form of an open sigma that a cased letter comes before. -/
theorem isWithin_of_open_after {xs ys : List Char} (hsplit : cs = xs ++ capitalSigma :: ys)
    (hbefore : cased? xs.reverse = true) (hafter : ys.all isCaseIgnorable = true) :
    isWithin (lowerAfter [] cs) (lowerAfter [] (cs ++ ['A'])) = false := by
  -- Without the letter behind it no sigma ceases to be final, and the open one becomes so.
  have hfewer := (@count_lowerWithin_lt [] [] ['A'] [] cs (by
    intro us vs _ hyes
    simp only [isFinal, List.append_nil, Bool.and_eq_true, Bool.not_eq_true'] at hyes ⊢
    refine ⟨hyes.1, Bool.eq_false_iff.mpr fun hcased => ?_⟩
    simp [cased?_append_of_cased hcased] at hyes) xs ys hsplit
    (by simp [isFinal, cased?_append_of_all hafter, cased?_letter])
    (by simp [isFinal, hbefore, cased?_of_all hafter])).1
  rw [lowerWithin_nil] at hfewer
  have hletter : lowerAfter (cs.reverse ++ []) ['A'] = ['a'] := rfl
  refine isWithin_of_count_lt (c := 'ς') ?_
  rw [lowerAfter_append, hletter, List.count_append]
  simpa using hfewer

/-- The lower case of a text is a part of the lower case of every text around it exactly if the text
is settled. -/
theorem settled_iff :
    Settled cs ↔ ∀ front back,
      isWithin (lowerAfter [] cs) (lowerAfter [] (front ++ cs ++ back)) = true := by
  constructor
  · intro hsettled front back
    exact (hsettled.keepsForms front.reverse back).isWithin
  · intro hwithin xs ys hsplit
    refine Bool.eq_false_iff.mpr fun hopen => ?_
    -- An open sigma is changed by a letter in front of the text or by one behind it.
    rcases Bool.or_eq_true_iff.mp hopen with hopen | hopen
    · obtain ⟨hbefore, hafter⟩ := Bool.and_eq_true_iff.mp hopen
      have hnot := isWithin_of_open_before hsplit hbefore (by simpa using hafter)
      have hyes := hwithin ['A'] []
      rw [List.append_nil] at hyes
      exact Bool.false_ne_true (hnot.symm.trans hyes)
    · obtain ⟨hbefore, hafter⟩ := Bool.and_eq_true_iff.mp hopen
      have hnot := isWithin_of_open_after hsplit hbefore hafter
      exact Bool.false_ne_true (hnot.symm.trans (hwithin [] ['A']))

end Introspect.Text
