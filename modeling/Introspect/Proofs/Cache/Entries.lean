import Introspect.Cache

/-!
# `Introspect.Proofs.Cache.Entries`: what is kept for a key

A cache keeps a list of entries and answers with the first one whose key is the wanted one.
`Uniform` says what holds of that list when all requests are for one facet: no key is kept twice,
and everything kept has the form of the facet. Then a purge decides for each key alone
(`find?_purge`), and `findAs?_eq_some_iff` says that the answer for a key is what is kept, seen
through the facet.

A publication into such a cache has two outcomes. It answers with what is kept, which stays
(`publish_of_kept`), or nothing is kept, and the new artifact is inserted, held, and the cache
purged when that takes it past its soft limit (`publish_of_missing`).

`find?_purge_cases` describes a purge in the words of a caller: what was kept for a key still is, or
it was an artifact of a temporary cache that nobody holds.
-/

set_option autoImplicit false

namespace Introspect

/-- An artifact as a cache keeps it. -/
def Artifact.kept {α β : Type} (facet : Facet α β) (a : Artifact β) : Artifact α :=
  ⟨a.id, facet.wrap a.content⟩

/-- The kept form tells artifacts apart. -/
theorem Artifact.kept_inj {α β : Type} {facet : Facet α β} {a b : Artifact β}
    (h : a.kept facet = b.kept facet) : a = b := by
  have hid : a.id = b.id := congrArg (fun kept : Artifact α => kept.id) h
  have hwrap : facet.wrap a.content = facet.wrap b.content :=
    congrArg (fun kept : Artifact α => kept.content) h
  have hcontent : a.content = b.content := by
    have hview := congrArg facet.view hwrap
    rw [facet.view_wrap, facet.view_wrap] at hview
    exact Option.some.inj hview
  obtain ⟨id, content⟩ := a
  obtain rfl : id = b.id := hid
  obtain rfl : content = b.content := hcontent
  rfl

/-- In a list without equal keys, a filter on the values decides for each key alone. -/
theorem lookup_filter {κ ν : Type} [BEq κ] [EquivBEq κ] (p : ν → Bool) (key : κ)
    {l : List (κ × ν)} (hkeys : l.Pairwise fun a b => (a.1 == b.1) = false) :
    (l.filter fun entry => p entry.2).lookup key = (l.lookup key).filter p := by
  induction l with
  | nil => rfl
  | cons first rest ih =>
      obtain ⟨k, v⟩ := first
      obtain ⟨hfirst, hrest⟩ := List.pairwise_cons.1 hkeys
      have ih := ih hrest
      by_cases hkey : (key == k) = true
      · -- Only the first entry can answer, so without it there is no answer left.
        have hnone : rest.lookup key = none := by
          rw [List.lookup_eq_none_iff]
          intro entry hentry
          have hother : (k == entry.1) = false := hfirst entry hentry
          rw [bne, BEq.congr_left hkey, hother]
          rfl
        rw [hnone] at ih
        by_cases hp : p v = true
        · simp [List.lookup_cons, hkey, hp, Option.filter]
        · simp [List.lookup_cons, hkey, hp, ih, Option.filter]
      · by_cases hp : p v = true
        · simp [List.lookup_cons, hkey, hp, ih]
        · simp [List.lookup_cons, hkey, hp, ih]

namespace Cache

variable {κ α β : Type} {facet : Facet α β} {c d : Cache κ α} {key key' : κ}

/-! ### Holds and purges -/

/-- A purge changes no hold. -/
theorem holds_purge (c : Cache κ α) : c.purge.2.holds = c.holds := by
  unfold purge
  split <;> rfl

/-- A purge makes nothing. -/
theorem issued_purge (c : Cache κ α) : c.purge.2.issued = c.issued := by
  unfold purge
  split <;> rfl

/-- A purge only takes out. -/
theorem entries_purge_sublist (c : Cache κ α) : c.purge.2.entries.Sublist c.entries := by
  unfold purge
  split
  · exact List.Sublist.refl _
  · exact List.filter_sublist

/-- A cache is purged when it is over its limit, and else left alone. -/
theorem trim_cases (c : Cache κ α) :
    c.trim = c ∨ c.overLimit = true ∧ c.trim = c.purge.2 := by
  unfold trim
  split
  case isTrue hover => exact .inr ⟨hover, rfl⟩
  case isFalse => exact .inl rfl

variable [BEq κ]

/-- What is kept for a key depends on the entries alone. -/
theorem find?_of_entries (h : d.entries = c.entries) : d.find? key = c.find? key := by
  unfold find?
  rw [h]

/-- Equal keys have one answer. -/
theorem find?_congr [EquivBEq κ] (c : Cache κ α) (h : (key == key') = true) :
    c.find? key = c.find? key' := by
  unfold find?
  induction c.entries with
  | nil => rfl
  | cons first rest ih =>
      obtain ⟨k, v⟩ := first
      rw [List.lookup_cons, List.lookup_cons, BEq.congr_left h, ih]

/-- What is kept for a key is that of an entry with an equal key. -/
theorem exists_of_find? {kept : Artifact α} (h : c.find? key = some kept) :
    ∃ entry ∈ c.entries, (key == entry.1) = true ∧ entry.2 = kept := by
  rw [find?, List.lookup_eq_findSome?, List.findSome?_eq_some_iff] at h
  obtain ⟨before, entry, after, hentries, hentry, -⟩ := h
  split at hentry
  · next hkey => exact ⟨entry, by rw [hentries]; simp, hkey, Option.some.inj hentry⟩
  · cases hentry

/-! ### Caches used with one facet -/

/-- What holds of the entries when all requests are for one facet. -/
structure Uniform (facet : Facet α β) (c : Cache κ α) : Prop where
  /-- no key is kept twice -/
  keys : c.entries.Pairwise fun a b => (a.1 == b.1) = false
  /-- no two keys share an artifact -/
  ids : c.entries.Pairwise fun a b => a.2.id ≠ b.2.id
  /-- everything kept has the form of the facet and has been made -/
  made : ∀ entry ∈ c.entries, ∃ a : Artifact β, entry.2 = a.kept facet ∧ a.id < c.issued

/-- Nothing is kept at first. -/
theorem uniform_empty (facet : Facet α β) (strategy : CacheStrategy) (softLimit : Option Nat) :
    Uniform facet (empty strategy softLimit : Cache κ α) where
  keys := .nil
  ids := .nil
  made := by
    intro entry hentry
    cases hentry

/-- Taking out entries keeps a cache uniform. -/
theorem Uniform.of_sublist (h : Uniform facet c) (hsub : d.entries.Sublist c.entries)
    (hissued : c.issued ≤ d.issued) : Uniform facet d where
  keys := h.keys.sublist hsub
  ids := h.ids.sublist hsub
  made := by
    intro entry hentry
    obtain ⟨a, ha, hlt⟩ := h.made entry (hsub.subset hentry)
    exact ⟨a, ha, by omega⟩

/-- What is kept has the form of the facet. -/
theorem Uniform.kept_of_find? (h : Uniform facet c) {kept : Artifact α}
    (hfind : c.find? key = some kept) : ∃ a : Artifact β, kept = a.kept facet := by
  obtain ⟨entry, hentry, -, rfl⟩ := exists_of_find? hfind
  obtain ⟨a, ha, -⟩ := h.made entry hentry
  exact ⟨a, ha⟩

/-- The answer for a key is what is kept for it. -/
theorem Uniform.findAs?_eq_some_iff (h : Uniform facet c) {a : Artifact β} :
    c.findAs? facet key = some a ↔ c.find? key = some (a.kept facet) := by
  constructor
  · intro hfound
    obtain ⟨kept, hkept⟩ : ∃ kept, c.find? key = some kept := by
      cases hfind : c.find? key with
      | none => simp [findAs?, hfind] at hfound
      | some kept => exact ⟨kept, rfl⟩
    obtain ⟨b, rfl⟩ := h.kept_of_find? hkept
    simp only [findAs?, hkept, Artifact.kept, Option.bind_eq_bind, Option.bind_some,
      facet.view_wrap, Option.pure_def, Option.some.injEq] at hfound
    rw [hkept, ← hfound]
  · intro hfind
    simp [findAs?, hfind, Artifact.kept, facet.view_wrap]

/-- A purge of a temporary cache keeps what is held. -/
theorem Uniform.find?_purge [EquivBEq κ] (h : Uniform facet c) (htemp : c.strategy = .temporary) :
    c.purge.2.find? key = (c.find? key).filter fun a => c.isHeld a.id := by
  have hentries : c.purge.2.entries = c.entries.filter fun entry => c.isHeld entry.2.id := by
    simp only [purge, htemp]
  rw [find?, hentries]
  exact lookup_filter (fun a => c.isHeld a.id) key h.keys

/-- What was kept for a key is still kept after a purge, or the cache is temporary and nobody holds
it. -/
theorem Uniform.find?_purge_cases [EquivBEq κ] (h : Uniform facet c) (key : κ) :
    c.purge.2.find? key = c.find? key ∨
      ∃ a, c.find? key = some a ∧ c.purge.2.find? key = none ∧ c.strategy = .temporary ∧
        c.isHeld a.id = false := by
  cases hs : c.strategy with
  | permanent =>
      left
      simp only [purge, hs]
  | temporary =>
      rw [h.find?_purge hs]
      cases hfind : c.find? key with
      | none => exact .inl rfl
      | some a =>
          by_cases hheld : c.isHeld a.id = true
          · exact .inl (by simp [hheld])
          · have hfree : c.isHeld a.id = false := by simpa using hheld
            exact .inr ⟨a, rfl, by simp [hfree], rfl, hfree⟩

/-! ### The steps of a request -/

omit [BEq κ] in
/-- A purge that may be due changes no hold. -/
theorem holds_trim (c : Cache κ α) : c.trim.holds = c.holds := by
  rcases trim_cases c with heq | ⟨-, heq⟩
  · rw [heq]
  · rw [heq, holds_purge]

/-- A request that finds something holds it, and changes nothing else but a count. -/
theorem lookup_of_found {a : Artifact β} (hfound : c.findAs? facet key = some a) :
    c.lookup facet key =
      (some a, { c with stats := { c.stats with hits := c.stats.hits + 1 } }.hold a.id) := by
  simp only [lookup, hfound]

/-- A request that finds nothing changes nothing but a count. -/
theorem lookup_of_not_found (hfound : c.findAs? facet key = none) :
    c.lookup facet key =
      (none, { c with stats := { c.stats with misses := c.stats.misses + 1 } }) := by
  simp only [lookup, hfound]

/-- A request answers with what is kept in the form of the facet. -/
theorem fst_lookup (c : Cache κ α) (facet : Facet α β) (key : κ) :
    (c.lookup facet key).1 = c.findAs? facet key := by
  cases hfound : c.findAs? facet key with
  | none => rw [lookup_of_not_found hfound]
  | some a => rw [lookup_of_found hfound]

/-- A request changes no entry before its artifact is made. -/
theorem entries_lookup (c : Cache κ α) (facet : Facet α β) (key : κ) :
    (c.lookup facet key).2.entries = c.entries := by
  cases hfound : c.findAs? facet key with
  | none => rw [lookup_of_not_found hfound]
  | some a => rw [lookup_of_found hfound]; rfl

/-- A request makes nothing by looking. -/
theorem issued_lookup (c : Cache κ α) (facet : Facet α β) (key : κ) :
    (c.lookup facet key).2.issued = c.issued := by
  cases hfound : c.findAs? facet key with
  | none => rw [lookup_of_not_found hfound]
  | some a => rw [lookup_of_found hfound]; rfl

/-- One more artifact has been made. -/
def counted (c : Cache κ α) : Cache κ α :=
  { c with
    issued := c.issued + 1
    stats := { c.stats with compilations := c.stats.compilations + 1 } }

/-- The cache with a new artifact that its maker holds, before the purge that this may cause. -/
def inserted (c : Cache κ α) (key : κ) (made : α) : Cache κ α :=
  { c.counted with entries := (key, ⟨c.issued, made⟩) :: c.entries }.hold c.issued

/-- A new artifact is what is kept for its key. -/
theorem find?_inserted [EquivBEq κ] (c : Cache κ α) (made : α) (h : (key' == key) = true) :
    (c.inserted key made).find? key' = some ⟨c.issued, made⟩ := by
  show List.lookup key' ((key, ⟨c.issued, made⟩) :: c.entries) = _
  rw [List.lookup_cons, h]

/-- A new artifact changes nothing for other keys. -/
theorem find?_inserted_of_ne (c : Cache κ α) (made : α) (h : (key' == key) = false) :
    (c.inserted key made).find? key' = c.find? key' := by
  show List.lookup key' ((key, ⟨c.issued, made⟩) :: c.entries) = List.lookup key' c.entries
  rw [List.lookup_cons, h]

/-- A new artifact for a key for which nothing is kept leaves a cache uniform. -/
theorem Uniform.inserted (h : Uniform facet c) (hfind : c.find? key = none) (content : β) :
    Uniform facet (c.inserted key (facet.wrap content)) where
  keys := by
    have hother : ∀ entry ∈ c.entries, (key == entry.1) = false := by
      intro entry hentry
      have hne : (!(key == entry.1)) = true := List.lookup_eq_none_iff.1 hfind entry hentry
      rwa [Bool.not_eq_true'] at hne
    exact List.pairwise_cons.2 ⟨hother, h.keys⟩
  ids := by
    have hother : ∀ entry ∈ c.entries, c.issued ≠ entry.2.id := by
      intro entry hentry
      obtain ⟨a, ha, hlt⟩ := h.made entry hentry
      have hid : entry.2.id = a.id := by rw [ha]; rfl
      omega
    exact List.pairwise_cons.2 ⟨hother, h.ids⟩
  made := by
    intro entry hentry
    show ∃ a : Artifact β, entry.2 = a.kept facet ∧ a.id < c.issued + 1
    rcases List.mem_cons.1 hentry with rfl | hentry
    · exact ⟨⟨c.issued, content⟩, rfl, Nat.lt_succ_self _⟩
    · obtain ⟨a, ha, hlt⟩ := h.made entry hentry
      exact ⟨a, ha, by omega⟩

/-- A publication for a key for which something is kept answers with that. -/
theorem Uniform.publish_of_kept (h : Uniform facet c) {a : Artifact β}
    (hfind : c.find? key = some (a.kept facet)) (content : β) :
    c.publish facet key content =
      (a, { c.counted with
        stats := { c.counted.stats with rejected := c.counted.stats.rejected + 1 } }.hold
          a.id) := by
  have hfound : c.counted.findAs? facet key = some a := h.findAs?_eq_some_iff.2 hfind
  unfold publish
  simp only [counted] at hfound ⊢
  rw [hfound]

/-- A publication for a key for which nothing is kept, in no form, answers with the new artifact. -/
theorem publish_of_missing (hfind : c.find? key = none) (content : β) :
    c.publish facet key content =
      (⟨c.issued, content⟩, (c.inserted key (facet.wrap content)).trim) := by
  have hcounted : c.counted.find? key = none := hfind
  have hfound : c.counted.findAs? facet key = none := by simp [findAs?, hcounted]
  have hnone : (c.counted.find? key).isSome = false := by rw [hcounted]; rfl
  unfold publish
  simp only [counted] at hfound hnone ⊢
  rw [hfound]
  simp only [hnone]
  rfl

end Cache

end Introspect
