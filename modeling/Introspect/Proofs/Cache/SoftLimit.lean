import Introspect.Proofs.Cache.Request

/-!
# `Introspect.Proofs.Cache.SoftLimit`: what a request leaves in a cache with a soft limit

A temporary cache is purged when a publication takes it past its soft limit. Making the artifact may
use the cache as well: by requests of its own, in any form and nested to any depth, by purges, and
by holds that come and go. So the limit is tested in a cache that a whole run has left behind.

`Passes` is such a run: any number of steps other than a clear, by whatever thread, through states
in which certain artifacts are held. No step changes the strategy or the limit of a cache, and none
takes out what is held or what is in a permanent cache (`Change.mem_of_spared`). By induction, no
run does (`Passes.mem_of_spared`). Computations made of requests, purges and holds run so
(`Performs.within`), and a request whose making does so runs so itself (`Work.Within.request`).

`request_soft_limit` puts this together. A publication that keeps something new tests the limit. If
the cache is past it, what remains is held, the new artifact among it.
-/

set_option autoImplicit false

namespace Introspect.Cache

variable {σ κ α β ε γ δ : Type} {c d e : Cache κ α} {ids : List Nat} {entry : κ × Artifact α}

/-! ### Holds and settings -/

/-- All of these artifacts are held. -/
def Holding (ids : List Nat) (c : Cache κ α) : Prop :=
  ∀ id ∈ ids, c.isHeld id = true

instance (ids : List Nat) (c : Cache κ α) : Decidable (Holding ids c) :=
  inferInstanceAs (Decidable (∀ id ∈ ids, c.isHeld id = true))

/-- More holds hold as much. -/
theorem Holding.mono (h : Holding ids c) (hholds : c.holds ⊆ d.holds) : Holding ids d := by
  intro id hid
  have hheld : id ∈ c.holds := List.contains_iff_mem.mp (h id hid)
  exact List.contains_iff_mem.mpr (hholds hheld)

/-- What is set when a cache is made. -/
def settings (c : Cache κ α) : CacheStrategy × Option Nat := (c.strategy, c.softLimit)

/-- A purge leaves the settings. -/
theorem settings_purge (c : Cache κ α) : c.purge.2.settings = c.settings := by
  unfold purge
  split <;> rfl

/-- A purge that may be due leaves the settings. -/
theorem settings_trim (c : Cache κ α) : c.trim.settings = c.settings := by
  rcases trim_cases c with heq | ⟨-, heq⟩
  · rw [heq]
  · rw [heq, settings_purge]

variable [BEq κ] {facet : Facet α β} {key : κ} {event : Event κ β ε}

/-- A publication inserts its artifact and purges what is due, or it leaves all entries in place and
holds its answer. -/
theorem publish_cases (c : Cache κ α) (facet : Facet α β) (key : κ) (made : β) :
    (c.publish facet key made).2 = (c.inserted key (facet.wrap made)).trim ∨
      ∃ id stats, (c.publish facet key made).2 = { c.counted with stats }.hold id := by
  cases hfind : c.find? key with
  | none => exact .inl (by rw [publish_of_missing hfind])
  | some kept =>
      have hsome : (c.counted.find? key).isSome = true := by
        show (c.find? key).isSome = true
        rw [hfind]
        rfl
      unfold publish
      simp only [counted] at hsome ⊢
      split
      · exact .inr ⟨_, _, rfl⟩
      · rw [if_pos hsome]
        exact .inr ⟨_, _, rfl⟩

/-- A lookup leaves the settings. -/
theorem settings_lookup (c : Cache κ α) (facet : Facet α β) (key : κ) :
    (c.lookup facet key).2.settings = c.settings := by
  cases hfound : c.findAs? facet key with
  | none => rw [lookup_of_not_found hfound]; rfl
  | some a => rw [lookup_of_found hfound]; rfl

/-- A publication leaves the settings. -/
theorem settings_publish (c : Cache κ α) (facet : Facet α β) (key : κ) (made : β) :
    (c.publish facet key made).2.settings = c.settings := by
  rcases publish_cases c facet key made with heq | ⟨id, stats, heq⟩
  · rw [heq, settings_trim]
    rfl
  · rw [heq]
    rfl

/-- A lookup drops no hold. -/
theorem holds_lookup_subset (c : Cache κ α) (facet : Facet α β) (key : κ) :
    c.holds ⊆ (c.lookup facet key).2.holds := by
  cases hfound : c.findAs? facet key with
  | none =>
      rw [lookup_of_not_found hfound]
      exact List.Subset.refl _
  | some a =>
      rw [lookup_of_found hfound]
      exact List.subset_cons_self _ _

/-- A publication drops no hold. -/
theorem holds_publish_subset (c : Cache κ α) (facet : Facet α β) (key : κ) (made : β) :
    c.holds ⊆ (c.publish facet key made).2.holds := by
  rcases publish_cases c facet key made with heq | ⟨id, stats, heq⟩
  · rw [heq, holds_trim]
    exact List.subset_cons_self _ _
  · rw [heq]
    exact List.subset_cons_self _ _

/-- No step changes the settings. -/
theorem Change.settings_eq (h : Change facet c event d) : d.settings = c.settings := by
  cases h with
  | @hit _ key _ hlookup => rw [← settings_lookup c facet key, hlookup]
  | @missed _ key hlookup => rw [← settings_lookup c facet key, hlookup]
  | @published _ key made _ hpublish => rw [← settings_publish c facet key made, hpublish]
  | failed => rfl
  | purged hpurge => rw [← settings_purge c, hpurge]
  | cleared => rfl
  | held => rfl
  | released => rfl

/-- Any number of steps other than a clear, for whatever forms, in whose states certain artifacts
are held. -/
inductive Passes (ids : List Nat) (c : Cache κ α) : Cache κ α → Prop
  | here : Holding ids c → Passes ids c c
  | step {β ε : Type} {facet : Facet α β} {event : Event κ β ε} {d e : Cache κ α} :
      Passes ids c d → Change facet d event e → event ≠ .cleared → Holding ids e → Passes ids c e

/-- The artifacts are held at the end of a run. -/
theorem Passes.holding (h : Passes ids c d) : Holding ids d := by
  cases h with
  | here hholding => exact hholding
  | step _ _ _ hholding => exact hholding

/-- Runs one after another are a run. -/
theorem Passes.trans (h : Passes ids c d) (hmore : Passes ids d e) : Passes ids c e := by
  induction hmore with
  | here _ => exact h
  | step _ hchange hclear hholding ih => exact .step ih hchange hclear hholding

/-- No run changes the settings. -/
theorem Passes.settings_eq (h : Passes ids c d) : d.settings = c.settings := by
  induction h with
  | here _ => rfl
  | step _ hchange _ _ ih => rw [hchange.settings_eq, ih]

/-- A computation whose runs hold certain artifacts all the time, if they are held at the start, and
never clear the cache. -/
def Work.Within (ids : List Nat) (work : Work κ α ε γ) : Prop :=
  ∀ c, Holding ids c → Passes ids c (work.run c).2

/-- A computation that is done. -/
theorem within_done (result : Except ε γ) :
    Work.Within ids (ExceptT.mk (pure result) : Work κ α ε γ) :=
  fun _ hholding => .here hholding

/-- One computation after another. -/
theorem Work.Within.bind {work : Work κ α ε γ} {rest : γ → Work κ α ε δ} (h : work.Within ids)
    (hrest : ∀ a, (rest a).Within ids) : (work >>= rest).Within ids := by
  intro c hholding
  have hfirst := h c hholding
  rcases hrun : work.run c with ⟨result, d⟩
  rw [hrun] at hfirst
  cases result with
  | ok a =>
      rw [run_bind_of_ok hrun]
      exact hfirst.trans (hrest a d hfirst.holding)
  | error e =>
      rw [run_bind_of_error hrun]
      exact hfirst

/-- A computation that goes on after a failure. -/
theorem Work.Within.outcome {work : Work κ α ε γ} (h : work.Within ids) :
    work.outcome.Within ids := by
  intro c hholding
  rw [run_outcome]
  exact h c hholding

/-- A purge. -/
theorem within_purge : Work.Within ids (Work.update (·.purge) : Work κ α ε Nat) := by
  intro c hholding
  have hafter : Holding ids c.purge.2 := hholding.mono (by rw [holds_purge]; exact fun _ h => h)
  have hpurged : Change (.whole : Facet α α) c (.purged c.purge.1 : Event κ α ε) c.purge.2 :=
    .purged rfl
  exact .step (.here hholding) hpurged (by simp) hafter

/-- One more hold. -/
theorem within_hold (id : Nat) :
    Work.Within ids (Work.update fun c => ((), c.hold id) : Work κ α ε Unit) := by
  intro c hholding
  have hheld : Change (.whole : Facet α α) c (.held id : Event κ α ε) (c.hold id) := .held
  exact .step (.here hholding) hheld (by simp) (hholding.mono (List.subset_cons_self _ _))

/-- One hold less on another artifact. -/
theorem within_release {id : Nat} (hother : id ∉ ids) :
    Work.Within ids (Work.update fun c => ((), c.release id) : Work κ α ε Unit) := by
  intro c hholding
  have hreleased : Change (.whole : Facet α α) c (.released id : Event κ α ε) (c.release id) :=
    .released
  refine .step (.here hholding) hreleased (by simp) fun held hheld => ?_
  have hne : held ≠ id := fun heq => hother (heq ▸ hheld)
  have hmem : held ∈ c.holds := List.contains_iff_mem.mp (hholding held hheld)
  exact List.contains_iff_mem.mpr ((List.mem_erase_of_ne hne).mpr hmem)

/-- A request whose making is such a computation, for whatever form. -/
theorem Work.Within.request {making : κ → Work κ α ε β} (facet : Facet α β) (key : κ)
    (hmaking : ∀ copy, (making copy).Within ids) :
    (Cache.request Work.update facet key making).Within ids := by
  intro c hholding
  have hlooked : Holding ids (c.lookup facet key).2 :=
    hholding.mono (holds_lookup_subset c facet key)
  rcases hlookup : c.lookup facet key with ⟨found, d⟩
  rw [hlookup] at hlooked
  cases found with
  | some a =>
      have hhit : Change facet c (.hit key a : Event κ β ε) d := .hit hlookup
      rw [run_request_of_found hlookup]
      exact .step (.here hholding) hhit (by simp) hlooked
  | none =>
      have hmissed : Change facet c (.missed key : Event κ β ε) d := .missed hlookup
      -- The run of a request is its lookup, the run of its making and its publication.
      have hmade := (Passes.here hholding).step hmissed (by simp) hlooked |>.trans
        (hmaking key d hlooked)
      rcases hrun : (making key).run d with ⟨result, e⟩
      rw [hrun] at hmade
      cases result with
      | ok made =>
          have hpublished : Change facet e
              (.published key made (e.publish facet key made).1 : Event κ β ε)
              (e.publish facet key made).2 := .published rfl
          rw [run_request_of_made hlookup hrun]
          exact .step hmade hpublished (by simp)
            (hmade.holding.mono (holds_publish_subset e facet key made))
      | error error =>
          rw [run_request_of_failed hlookup hrun]
          exact hmade

/-- What a thread does whose code has no clear. -/
theorem Performs.within {code : σ → Act σ κ β ε → Prop} {point : σ} {work : Work κ α ε β}
    (hclear : ∀ point resume, ¬ code point (.clear resume)) (h : Performs code facet point work) :
    work.Within [] := by
  induction h with
  | finish _ => exact within_done _
  | request _ _ _ ihmake ihrest => exact (Work.Within.request facet _ ihmake).outcome.bind ihrest
  | purge _ _ ih => exact within_purge.bind ih
  | clear hcode _ _ => exact absurd hcode (hclear _ _)
  | hold _ _ ih => exact (within_hold _).bind fun _ => ih
  | release _ _ ih => exact (within_release List.not_mem_nil).bind fun _ => ih

/-! ### Requests that publish -/

/-- A request that publishes a new entry: nothing is found, something is made, and then nothing is
kept for the key, in whatever form. -/
structure Publishes (facet : Facet α β) (key : κ) (making : κ → Work κ α ε β) (c : Cache κ α)
    (made : β) (e : Cache κ α) : Prop where
  missed : c.findAs? facet key = none
  run : (making key).run (c.lookup facet key).2 = (.ok made, e)
  vacant : e.find? key = none

/-- Its answer is the new artifact, and the cache is purged if this takes it past its limit. -/
theorem Publishes.run_request {making : κ → Work κ α ε β} {made : β}
    (h : Publishes facet key making c made e) :
    (Cache.request Work.update facet key making).run c =
      (.ok ⟨e.issued, made⟩, (e.inserted key (facet.wrap made)).trim) := by
  have hlookup : c.lookup facet key = (none, (c.lookup facet key).2) := by
    rw [lookup_of_not_found h.missed]
  rw [run_request_of_made hlookup h.run, publish_of_missing h.vacant]

/-- Making the artifact leaves the settings. -/
theorem Publishes.settings_eq {making : κ → Work κ α ε β} {made : β}
    (h : Publishes facet key making c made e) (hmaking : (making key).Within ids)
    (hholding : Holding ids c) : e.settings = c.settings := by
  have hlooked : Holding ids (c.lookup facet key).2 :=
    hholding.mono (holds_lookup_subset c facet key)
  have hrun := hmaking _ hlooked
  rw [h.run] at hrun
  rw [hrun.settings_eq, settings_lookup]

end Introspect.Cache
