import Introspect.Proofs.Cache.Machine

/-!
# `Introspect.Proofs.Cache.Observable`: one artifact for each key

What callers of a shared cache can observe, whatever their threads do and in whichever order they
take their steps.

`Change.uniform` says that every step leaves a cache uniform, so every cache that can be reached is
(`Machine.Reachable.uniform`). Two facts about one step follow. `Change.find?_of_decision` says that
the answer of a request is what the cache keeps for the requested key from then on. `Change.fate`
says what can become of what is kept for a key: it stays, or a clear takes it out, or a purge of a
temporary cache does so because nobody holds it. Where nothing is kept, something appears by a
publication for that key alone.

While an artifact is held and nothing is cleared, only the first of these can happen
(`Machine.HeldUntil.find?_eq`). So every request for the key is answered with that artifact.
`Machine.Step.observable` says all of it about the steps of a machine.
-/

set_option autoImplicit false

namespace Introspect.Cache

variable {σ κ α β ε : Type} [BEq κ] {facet : Facet α β} {c c' : Cache κ α} {key : κ}
  {event : Event κ β ε}

/-- What becomes of what is kept for a key in one step. -/
inductive Fate (facet : Facet α β) (key : κ) (c : Cache κ α) (event : Event κ β ε)
    (c' : Cache κ α) : Prop
  | stays : c'.find? key = c.find? key → Fate facet key c event c'
  | cleared : event = .cleared → c'.find? key = none → Fate facet key c event c'
  /-- by the purge of a cache `d`, which is the cache before the step or, for a publication, the one
  with the new artifact -/
  | reclaimed {d : Cache κ α} {a : Artifact α} :
      ((∃ reclaimed, event = .purged reclaimed) ∧ d = c ∨
        (∃ other made answer, event = .published other made answer ∧
          d = c.inserted other (facet.wrap made)) ∧ d.overLimit = true) →
      c' = d.purge.2 → d.strategy = .temporary → d.isHeld a.id = false →
      c.find? key = some a → d.find? key = some a → c'.find? key = none →
      Fate facet key c event c'
  | appeared {other : κ} {made : β} {answer : Artifact β} :
      event = .published other made answer → (key == other) = true → answer.content = made →
      c.find? key = none → c'.find? key = some (answer.kept facet) → Fate facet key c event c'

/-! ### One step -/

/-- A publication leaves a cache uniform. -/
theorem Uniform.publish (h : Uniform facet c) (key : κ) (made : β) :
    Uniform facet (c.publish facet key made).2 := by
  cases hfind : c.find? key with
  | some kept =>
      obtain ⟨a, rfl⟩ := h.kept_of_find? hfind
      rw [h.publish_of_kept hfind made]
      exact h.of_sublist (List.Sublist.refl _) (Nat.le_succ _)
  | none =>
      rw [publish_of_missing hfind made]
      have hinserted := h.inserted hfind made
      show Uniform facet (c.inserted key (facet.wrap made)).trim
      rcases trim_cases (c.inserted key (facet.wrap made)) with heq | ⟨-, heq⟩
      · rw [heq]
        exact hinserted
      · rw [heq]
        exact hinserted.of_sublist (entries_purge_sublist _) (Nat.le_of_eq (issued_purge _).symm)

/-- A step leaves a cache uniform. -/
theorem Change.uniform (hchange : Change facet c event c') (h : Uniform facet c) :
    Uniform facet c' := by
  have hlookup : ∀ {key found d}, c.lookup facet key = (found, d) → Uniform facet d := by
    intro key found d heq
    have hentries := entries_lookup c facet key
    have hissued := issued_lookup c facet key
    rw [heq] at hentries hissued
    exact h.of_sublist (hentries ▸ List.Sublist.refl _) (Nat.le_of_eq hissued.symm)
  cases hchange with
  | hit heq => exact hlookup heq
  | missed heq => exact hlookup heq
  | @published c' key made answer heq =>
      have huniform := h.publish key made
      rw [heq] at huniform
      exact huniform
  | failed => exact h
  | purged heq =>
      have huniform : Uniform facet c.purge.2 :=
        h.of_sublist (entries_purge_sublist c) (Nat.le_of_eq (issued_purge c).symm)
      rw [heq] at huniform
      exact huniform
  | cleared => exact h.of_sublist (List.nil_sublist _) (Nat.le_refl _)
  | held => exact h.of_sublist (List.Sublist.refl _) (Nat.le_refl _)
  | released => exact h.of_sublist (List.Sublist.refl _) (Nat.le_refl _)

section
variable [EquivBEq κ]

/-- A publication answers with what is kept for the key from then on, and its caller holds that. -/
theorem Uniform.find?_publish (h : Uniform facet c) (key : κ) (made : β) :
    (c.publish facet key made).2.find? key = some ((c.publish facet key made).1.kept facet) ∧
      (c.publish facet key made).2.isHeld (c.publish facet key made).1.id = true := by
  cases hfind : c.find? key with
  | some kept =>
      obtain ⟨a, rfl⟩ := h.kept_of_find? hfind
      rw [h.publish_of_kept hfind made]
      exact ⟨hfind, isHeld_hold _ _⟩
  | none =>
      rw [publish_of_missing hfind made]
      have hheld : (c.inserted key (facet.wrap made)).isHeld c.issued = true := isHeld_hold _ _
      refine ⟨find?_trim_cons _ key ⟨c.issued, facet.wrap made⟩ c.entries rfl hheld, ?_⟩
      rw [isHeld] at hheld ⊢
      rw [holds_trim]
      exact hheld

/-- The answer of a request is what is kept for its key from then on, and its caller holds that. -/
theorem Change.find?_of_decision (hchange : Change facet c event c') (h : Uniform facet c)
    {answer : Artifact β} (hdecision : event.decision = some (key, answer)) :
    c'.find? key = some (answer.kept facet) ∧ c'.isHeld answer.id = true := by
  cases hchange with
  | @hit c' key' answer' heq =>
      obtain ⟨rfl, rfl⟩ := Prod.mk.inj (Option.some.inj hdecision)
      have hfound : c.findAs? facet key' = some answer' := by
        rw [← fst_lookup, heq]
      rw [lookup_of_found hfound] at heq
      obtain ⟨-, rfl⟩ := Prod.mk.inj heq
      exact ⟨h.findAs?_eq_some_iff.1 hfound, isHeld_hold _ _⟩
  | @published c' key' made answer' heq =>
      obtain ⟨rfl, rfl⟩ := Prod.mk.inj (Option.some.inj hdecision)
      have hkept := h.find?_publish key' made
      rw [heq] at hkept
      exact hkept
  | _ => cases hdecision

/-- A purge takes out for a key what nobody holds, and that only from a temporary cache. -/
theorem Uniform.fate_purge (h : Uniform facet c) (key : κ) {reclaimed : Nat}
    (hevent : event = .purged reclaimed) : Fate facet key c event c.purge.2 := by
  rcases h.find?_purge_cases key with hsame | ⟨a, hfind, hgone, htemp, hfree⟩
  · exact .stays hsame
  · exact .reclaimed (.inl ⟨⟨reclaimed, hevent⟩, rfl⟩) rfl htemp hfree hfind hfind hgone

/-- Where the purge that a publication may cause takes nothing out for a key, the publication
decides. -/
theorem fate_inserted {other : κ} {made : β} (hnone : c.find? other = none)
    (hevent : event = .published other made ⟨c.issued, made⟩)
    (hfind : c'.find? key = (c.inserted other (facet.wrap made)).find? key) :
    Fate facet key c event c' := by
  by_cases hkey : (key == other) = true
  · rw [find?_inserted c (facet.wrap made) hkey] at hfind
    rw [← find?_congr c hkey] at hnone
    exact .appeared hevent hkey rfl hnone hfind
  · have hne : (key == other) = false := by simpa using hkey
    rw [find?_inserted_of_ne c (facet.wrap made) hne] at hfind
    exact .stays hfind

/-- What nobody holds is not the artifact that was just inserted. -/
theorem find?_of_free_inserted {other : κ} {made : α} {a : Artifact α}
    (hfind : (c.inserted other made).find? key = some a)
    (hfree : (c.inserted other made).isHeld a.id = false) : c.find? key = some a := by
  cases hkey : key == other with
  | false => rw [← find?_inserted_of_ne c made hkey, hfind]
  | true =>
      rw [find?_inserted c made hkey] at hfind
      obtain rfl := Option.some.inj hfind
      have hheld : (c.inserted other made).isHeld c.issued = true := isHeld_hold _ _
      rw [hheld] at hfree
      cases hfree

/-- A publication adds what it publishes where nothing was kept, and the purge that it may cause
takes out what nobody holds. -/
theorem Uniform.fate_publish (h : Uniform facet c) (key other : κ) (made : β)
    (hevent : event = .published other made (c.publish facet other made).1) :
    Fate facet key c event (c.publish facet other made).2 := by
  cases hnone : c.find? other with
  | some kept =>
      obtain ⟨a, rfl⟩ := h.kept_of_find? hnone
      rw [h.publish_of_kept hnone made]
      exact .stays rfl
  | none =>
      rw [publish_of_missing hnone made] at hevent ⊢
      show Fate facet key c event (c.inserted other (facet.wrap made)).trim
      rcases trim_cases (c.inserted other (facet.wrap made)) with heq | ⟨hover, heq⟩
      · rw [heq]
        exact fate_inserted hnone hevent rfl
      · rw [heq]
        rcases (h.inserted hnone made).find?_purge_cases key with
          hsame | ⟨a, hfind, hgone, htemp, hfree⟩
        · exact fate_inserted hnone hevent hsame
        · exact .reclaimed (.inr ⟨⟨other, made, _, hevent, rfl⟩, hover⟩) rfl htemp hfree
            (find?_of_free_inserted hfind hfree) hfind hgone

/-- What becomes of what is kept for a key in any step. -/
theorem Change.fate (hchange : Change facet c event c') (h : Uniform facet c) (key : κ) :
    Fate facet key c event c' := by
  have hlookup : ∀ {other found d}, c.lookup facet other = (found, d) →
      d.find? key = c.find? key := by
    intro other found d heq
    have hentries := entries_lookup c facet other
    rw [heq] at hentries
    exact find?_of_entries hentries
  cases hchange with
  | hit heq => exact .stays (hlookup heq)
  | missed heq => exact .stays (hlookup heq)
  | @published c' other made answer heq =>
      have hfate := h.fate_publish (ε := ε) key other made rfl
      rw [heq] at hfate
      exact hfate
  | failed => exact .stays rfl
  | @purged c' reclaimed heq =>
      have hfate := h.fate_purge (ε := ε) (β := β) key (rfl : Event.purged reclaimed = _)
      rw [heq] at hfate
      exact hfate
  | cleared => exact .cleared rfl rfl
  | held => exact .stays rfl
  | released => exact .stays rfl

end

/-- A making that fails leaves the cache alone. -/
theorem Change.eq_of_failed {error : ε} (hchange : Change facet c (.failed key error) c') :
    c' = c := by
  cases hchange with
  | failed => rfl

/-! ### Steps of a machine -/

section
variable {code : σ → Act σ κ β ε → Prop} {m m' n n' : Machine σ κ α β ε}

/-- Every cache that can be reached is uniform. -/
theorem Machine.Reachable.uniform (h : Machine.Reachable code facet m) :
    Uniform facet m.cache := by
  induction h with
  | start strategy softLimit threads => exact uniform_empty facet strategy softLimit
  | step _ hstep ih => exact hstep.change.uniform ih

variable [EquivBEq κ]

/-- What is kept for a key stays while it is held and nothing is cleared. -/
theorem Machine.HeldUntil.find?_eq {id : Nat} (hheld : Machine.HeldUntil code facet id m n)
    (hm : Machine.Reachable code facet m) {a : Artifact α}
    (hfind : m.cache.find? key = some a) (hid : a.id = id) : n.cache.find? key = some a := by
  induction hheld with
  | here _ => exact hfind
  | @step n n' event hbefore hstep hclear hafter ih =>
      have huniform := (hbefore.reachable hm).uniform
      cases hstep.change.fate huniform key with
      | stays hsame => rw [hsame, ih]
      | cleared hevent _ => exact absurd hevent hclear
      | @reclaimed d b _ hpurge _ hfree hkept hd _ =>
          -- A purge changes no hold, so what it takes out is not held afterwards either.
          obtain rfl : b = a := Option.some.inj (hkept.symm.trans ih)
          have hheld : d.isHeld b.id = true := by
            rw [hid, Cache.isHeld, ← holds_purge, ← hpurge]
            exact hafter
          rw [hheld] at hfree
          cases hfree
      | appeared _ _ _ hnone _ =>
          rw [ih] at hnone
          cases hnone

/-- What the callers of a shared cache can observe of any step.

The answer that decides a request is what the cache keeps for the key as requested, and the caller
holds it. As long as somebody does and nothing is cleared, every request for the key has that
answer.

What is kept for a key is never replaced: it appears by a publication for the key and goes by a
clear, or by a purge of a temporary cache if nobody holds it.

A making that fails leaves the cache alone. -/
theorem Machine.Step.observable (hm : Machine.Reachable code facet m)
    (hstep : Machine.Step code facet m event m') :
    (∀ key answer, event.decision = some (key, answer) →
      m'.cache.find? key = some (answer.kept facet) ∧ m'.cache.isHeld answer.id = true ∧
        ∀ n n' later other again, Machine.HeldUntil code facet answer.id m' n →
          Machine.Step code facet n later n' → later.decision = some (other, again) →
          (other == key) = true → again = answer) ∧
      (∀ key, Fate facet key m.cache event m'.cache) ∧
      (∀ key error, event = .failed key error → m'.cache = m.cache) := by
  refine ⟨?_, ?_, ?_⟩
  · intro key answer hdecision
    obtain ⟨hfind, hheld⟩ := hstep.change.find?_of_decision hm.uniform hdecision
    refine ⟨hfind, hheld, ?_⟩
    intro n n' later other again huntil hlater hagain hother
    have hn := huntil.reachable (hm.step hstep)
    -- Before the later step the artifact is still kept, and that step does not clear either.
    have hbefore : n.cache.find? key = some (answer.kept facet) :=
      huntil.find?_eq (hm.step hstep) hfind rfl
    obtain ⟨hafter, -⟩ := hlater.change.find?_of_decision hn.uniform hagain
    rw [find?_congr n'.cache hother] at hafter
    have hsame : n'.cache.find? key = n.cache.find? key := by
      cases hlater.change.fate hn.uniform key with
      | stays hsame => exact hsame
      | cleared hevent _ =>
          rw [hevent] at hagain
          cases hagain
      | reclaimed _ _ _ _ _ _ hgone =>
          rw [hgone] at hafter
          cases hafter
      | appeared _ _ _ hnone _ =>
          rw [hnone] at hbefore
          cases hbefore
    rw [hsame, hbefore] at hafter
    exact (Artifact.kept_inj (Option.some.inj hafter)).symm
  · intro key
    exact hstep.change.fate hm.uniform key
  · intro key error hevent
    have hchange := hstep.change
    rw [hevent] at hchange
    exact hchange.eq_of_failed

/-! ### Two threads that request one key -/

/-- Two ways to make an artifact for the key 7. Each leaves another key in its copy. -/
def rivals : Nat → Act Nat Nat Nat String → Prop
  | 0, act => act = .request 7 (fun _ => 1) fun _ => 4
  | 1, act => act = .finish (.ok 10) 8
  | 2, act => act = .request 7 (fun _ => 3) fun _ => 4
  | 3, act => act = .finish (.ok 20) 9
  | _, _ => False

/-- Both threads have found nothing and are at work. -/
def rivalsAtWork : Machine Nat Nat Nat Nat String :=
  ⟨{ Cache.empty .temporary none with stats := ⟨0, 2, 0, 0, 0⟩ },
    [⟨1, [⟨7, fun _ => 4⟩]⟩, ⟨3, [⟨7, fun _ => 4⟩]⟩]⟩

/-- The first thread has published. -/
def rivalsDecided : Machine Nat Nat Nat Nat String :=
  ⟨(rivalsAtWork.cache.publish .whole 7 10).2, [⟨4, []⟩, ⟨3, [⟨7, fun _ => 4⟩]⟩]⟩

/-- The thread that publishes second is answered with the artifact of the first. -/
theorem observable_rivals :
    Machine.Reachable rivals .whole rivalsAtWork ∧
      Machine.Step rivals .whole rivalsAtWork (.published 7 10 ⟨0, 10⟩) rivalsDecided ∧
      rivalsDecided.cache.find? 7 = some ⟨0, 10⟩ ∧
      ∃ again late, Machine.Step rivals .whole rivalsDecided (.published 7 20 again) late ∧
        again = ⟨0, 10⟩ := by
  have hstart : Machine.Reachable rivals .whole
      (⟨Cache.empty .temporary none, [⟨0, []⟩, ⟨2, []⟩]⟩ : Machine Nat Nat Nat Nat String) :=
    .start _ _ _
  have hone : rivals 0 (.request 7 (fun _ => 1) fun _ => 4) := rfl
  have htwo : rivals 2 (.request 7 (fun _ => 3) fun _ => 4) := rfl
  have hwork : Machine.Reachable rivals .whole rivalsAtWork :=
    (hstart.step (.mk (i := 0) rfl (.missed hone) (.missed rfl))).step
      (.mk (i := 1) rfl (.missed htwo) (.missed rfl))
  have hfirst : Machine.Step rivals .whole rivalsAtWork (.published 7 10 ⟨0, 10⟩) rivalsDecided :=
    .mk (i := 0) rfl (.published rfl) (.published rfl)
  have hdone : rivals 3 (.finish (.ok 20) 9) := rfl
  obtain ⟨again, late, hsecond⟩ : ∃ again late,
      Machine.Step rivals .whole rivalsDecided (.published 7 20 again) late :=
    ⟨_, _, .mk (i := 1) rfl (.published hdone) (.published rfl)⟩
  obtain ⟨hkept, hheld, hthen⟩ := (hfirst.observable hwork).1 7 ⟨0, 10⟩ rfl
  exact ⟨hwork, hfirst, hkept, again, late, hsecond,
    hthen _ _ _ 7 again (.here hheld) hsecond rfl rfl⟩

end

end Introspect.Cache
