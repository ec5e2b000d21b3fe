import Introspect.Facet

/-!
# `Introspect.Cache`: prepared artifacts by request

A cache keeps one artifact for each key. A request has three steps, between which other requests may
run: `lookup` finds what is kept, the caller makes the artifact, and `publish` keeps it unless
another request was faster. Keys are compared by what they ask for, so a key with notes on it is
still the same key.

What is kept may have several forms, and a request is for one of them, its facet: something kept in
another form neither answers the request nor is replaced by it.

Every artifact has an identity. Whoever gets one holds it until `release`; `purge` takes out what
nobody holds, and `clear` takes out everything. A permanent cache is never purged, a temporary one
also when a publication takes it past its soft limit.

`findAs?_publish` says that a publication answers with what is kept from then on, and `mem_purge`
that a purge takes out exactly what is not held.
-/

set_option autoImplicit false

namespace Introspect

/-- Whether what is kept can be reclaimed. -/
inductive CacheStrategy
  /-- reclaimed when it is not held -/
  | temporary
  /-- kept as long as the cache -/
  | permanent
  deriving DecidableEq

/-- What a cache has done so far. The counters have no limit; `Machine.Observed.counts_le` bounds
them by the number of requests. -/
structure CacheStats where
  hits : Nat
  misses : Nat
  compilations : Nat
  /-- artifacts dropped because another request published first -/
  rejected : Nat
  /-- artifacts taken out by purges -/
  reclaimed : Nat
  deriving DecidableEq

/-- All counters. -/
def CacheStats.counts (stats : CacheStats) : List Nat :=
  [stats.hits, stats.misses, stats.compilations, stats.rejected, stats.reclaimed]

/-- The strategy, for a reader. -/
def CacheStrategy.label : CacheStrategy → String
  | .temporary => "Temporary"
  | .permanent => "Permanent"

/-- Something prepared, with an identity. -/
structure Artifact (α : Type) where
  id : Nat
  content : α

/-- Artifacts by key. -/
structure Cache (κ α : Type) where
  strategy : CacheStrategy
  /-- how many artifacts may be kept before a purge -/
  softLimit : Option Nat
  entries : List (κ × Artifact α)
  stats : CacheStats
  /-- how many artifacts have been made -/
  issued : Nat
  /-- the artifacts that callers hold, once for each hold -/
  holds : List Nat

namespace Cache

variable {κ α : Type}

/-- A cache without artifacts. -/
def empty (strategy : CacheStrategy) (softLimit : Option Nat) : Cache κ α :=
  { strategy, softLimit, entries := [], stats := ⟨0, 0, 0, 0, 0⟩, issued := 0, holds := [] }

/-- How many artifacts are kept. -/
def size (c : Cache κ α) : Nat := c.entries.length

/-- Whether somebody holds an artifact. -/
def isHeld (c : Cache κ α) (id : Nat) : Bool := c.holds.contains id

/-- One more hold on an artifact. -/
def hold (c : Cache κ α) (id : Nat) : Cache κ α := { c with holds := id :: c.holds }

/-- One hold less on an artifact. -/
def release (c : Cache κ α) (id : Nat) : Cache κ α := { c with holds := c.holds.erase id }

/-- Takes out what nobody holds, and says how many artifacts that were. -/
def purge (c : Cache κ α) : Nat × Cache κ α :=
  match c.strategy with
  | .permanent => (0, c)
  | .temporary =>
    let kept := c.entries.filter fun entry => c.isHeld entry.2.id
    let reclaimed := c.entries.length - kept.length
    (reclaimed, { c with
      entries := kept
      stats := { c.stats with reclaimed := c.stats.reclaimed + reclaimed } })

/-- Takes out everything. What is held stays with its holders. -/
def clear (c : Cache κ α) : Cache κ α := { c with entries := [] }

/-- Whether more artifacts are kept than the soft limit allows. -/
def overLimit (c : Cache κ α) : Bool :=
  c.strategy == .temporary && (match c.softLimit with
    | some limit => decide (limit < c.size)
    | none => false)

/-- Purges a cache that is over its soft limit. -/
def trim (c : Cache κ α) : Cache κ α :=
  if c.overLimit then c.purge.2 else c

/-- What a cache is like, for a reader. -/
def describe (c : Cache κ α) : String :=
  let limit := match c.softLimit with
    | some limit => "Some(" ++ toString limit ++ ")"
    | none => "None"
  "AccessorCache \x7b strategy: " ++ c.strategy.label ++ ", soft_limit: " ++ limit ++
    ", entries: " ++ toString c.size ++ " \x7d"

variable [BEq κ]

/-- The artifact kept for a key. -/
def find? (c : Cache κ α) (key : κ) : Option (Artifact α) :=
  c.entries.lookup key

/-- The artifact kept for a key, if it has the wanted form. -/
def findAs? {β : Type} (c : Cache κ α) (facet : Facet α β) (key : κ) : Option (Artifact β) := do
  let kept ← c.find? key
  let content ← facet.view kept.content
  return ⟨kept.id, content⟩

/-- The first step of a request: the artifact that is kept, if it has the wanted form. -/
def lookup {β : Type} (c : Cache κ α) (facet : Facet α β) (key : κ) :
    Option (Artifact β) × Cache κ α :=
  match c.findAs? facet key with
  | some found =>
    (some found, { c with stats := { c.stats with hits := c.stats.hits + 1 } }.hold found.id)
  | none => (none, { c with stats := { c.stats with misses := c.stats.misses + 1 } })

/-- The last step of a request: keeps an artifact that was made for a key. If another one of the
wanted form is kept by now, that is the answer; one of another form is left in place. -/
def publish {β : Type} (c : Cache κ α) (facet : Facet α β) (key : κ) (content : β) :
    Artifact β × Cache κ α :=
  let id := c.issued
  let c := { c with
    issued := id + 1
    stats := { c.stats with compilations := c.stats.compilations + 1 } }
  -- Making the artifact may have published another one under the same key.
  match c.findAs? facet key with
  | some kept =>
    (kept, { c with stats := { c.stats with rejected := c.stats.rejected + 1 } }.hold kept.id)
  | none =>
    -- What is kept in another form stays; the new artifact belongs to its caller alone.
    if (c.find? key).isSome then (⟨id, content⟩, c.hold id)
    else
      let entries := (key, ⟨id, facet.wrap content⟩) :: c.entries
      -- The caller holds the artifact before the purge, which therefore leaves it in place.
      (⟨id, content⟩, ({ c with entries }.hold id).trim)

/-- A whole request, in any monad that has the cache in its state. The artifact is made outside the
cache, so making it may use the cache as well. -/
def request {β : Type} {m : Type → Type} [Monad m]
    (update : {γ : Type} → (Cache κ α → γ × Cache κ α) → m γ) (facet : Facet α β) (key : κ)
    (make : κ → m β) : m (Artifact β) := do
  match ← update (·.lookup facet key) with
  | some found => return found
  | none =>
    let content ← make key
    update (·.publish facet key content)

/-! ### Small facts -/

omit [BEq κ] in
/-- A purge keeps exactly what is held, unless the cache is permanent. -/
theorem mem_purge (c : Cache κ α) (entry : κ × Artifact α) :
    entry ∈ c.purge.2.entries ↔
      entry ∈ c.entries ∧ (c.strategy = .temporary → c.isHeld entry.2.id = true) := by
  unfold purge
  split
  · next h => simp [h]
  · next h => simp [h]

omit [BEq κ] in
/-- A purge that is due keeps what is held. -/
theorem mem_trim_of_held (c : Cache κ α) (entry : κ × Artifact α) (h : entry ∈ c.entries)
    (hheld : c.isHeld entry.2.id = true) : entry ∈ c.trim.entries := by
  unfold trim
  split
  · exact (mem_purge c entry).2 ⟨h, fun _ => hheld⟩
  · exact h

omit [BEq κ] in
/-- A new hold makes an artifact held. -/
theorem isHeld_hold (c : Cache κ α) (id : Nat) : (c.hold id).isHeld id = true := by
  simp [isHeld, hold]

/-- The artifact in front stays in front when it is held. -/
theorem find?_trim_cons [ReflBEq κ] (c : Cache κ α) (key : κ) (made : Artifact α)
    (rest : List (κ × Artifact α)) (h : c.entries = (key, made) :: rest)
    (hheld : c.isHeld made.id = true) : c.trim.find? key = some made := by
  unfold trim
  split
  · unfold purge
    split
    · simp [find?, h]
    · simp [find?, h, hheld]
  · simp [find?, h]

/-- A publication answers with what is kept for the key from then on, unless that has another
form. -/
theorem findAs?_publish [ReflBEq κ] {β : Type} (c : Cache κ α) (facet : Facet α β) (key : κ)
    (content : β) (h : ∀ kept, c.find? key = some kept → (facet.view kept.content).isSome = true) :
    (c.publish facet key content).2.findAs? facet key =
      some (c.publish facet key content).1 := by
  have hfind : ∀ s n, find? { c with stats := s, issued := n } key = c.find? key :=
    fun _ _ => rfl
  have hfindAs : ∀ s n,
      findAs? { c with stats := s, issued := n } facet key = c.findAs? facet key :=
    fun _ _ => rfl
  unfold publish
  simp only [hfind, hfindAs]
  split
  · next kept hk => exact hk
  · next hnone =>
    have hkey : c.find? key = none := by
      cases hk : c.find? key with
      | none => rfl
      | some kept =>
        obtain ⟨b, hb⟩ := Option.isSome_iff_exists.1 (h kept hk)
        simp [findAs?, hk, hb] at hnone
    have hkept := find?_trim_cons
      (({ c with
          issued := c.issued + 1
          stats := { c.stats with compilations := c.stats.compilations + 1 }
          entries := (key, ⟨c.issued, facet.wrap content⟩) :: c.entries } :
        Cache κ α).hold c.issued)
      key ⟨c.issued, facet.wrap content⟩ c.entries rfl (isHeld_hold _ _)
    simp [hkey, findAs?, hkept, facet.view_wrap]

end Cache

end Introspect
