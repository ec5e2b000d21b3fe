import Introspect.Proofs.Registry.Requests

/-!
# `Introspect.Proofs.Registry.Root`: nothing lies above the root type

Every registry publishes the root type with neither a base nor an interface, and never again after
that. `Rooted` says so. Then the root type is the only one that accepts it
(`Rooted.isAssignable_object_iff`), which matters because an argument that is null is looked up as
the root type.

The registry of the built-in types is rooted, and requests for types keep it so for every family of
descriptions (`rooted_requestAll`), as long as handles are not used up: they are words, and the
first one would come back after all the others.
-/

set_option autoImplicit false

namespace Introspect.Registry

variable {reg : Registry} {type : TypeHandle}

/-- The root type is published, and it has neither a base nor an interface. -/
def Rooted (reg : Registry) : Prop :=
  ∃ root, reg.get .object = some root ∧ root.base = none ∧ root.interfaces = []

/-! ### What is assignable from the root type -/

/-- The root type has no bases. -/
theorem Rooted.bases_object (h : reg.Rooted) : reg.bases .object = [] := by
  obtain ⟨root, hroot, hbase, -⟩ := h
  simp [bases, baseOf, hroot, hbase, chainFrom]

/-- The root type implements no interface. -/
theorem Rooted.implements_object (h : reg.Rooted) (interface : TypeHandle) :
    reg.implements .object interface = false := by
  obtain ⟨root, hroot, hbase, hinterfaces⟩ := h
  have hdone : ∀ limit seen, reg.searchInterface interface limit seen [] = false := by
    intro limit seen
    cases limit <;> rfl
  unfold implements
  cases reg.searchLimit with
  | zero => rfl
  | succ limit => simp [searchInterface, hroot, hbase, hinterfaces, hdone]

/-- Only the root type accepts the root type. -/
theorem Rooted.isAssignable_object_iff (h : reg.Rooted) :
    reg.isAssignable type .object = true ↔ type = .object := by
  simp [isAssignable, h.bases_object, h.implements_object]

/-! ### Rooted registries -/

/-- The registry of the built-in types is rooted. -/
theorem rooted_initial : initial.Rooted := ⟨_, rfl, rfl, rfl⟩

/-- A type that is published under another handle leaves the root type alone. -/
theorem rooted_publish {info : TypeInfo} (h : reg.Rooted) (hne : info.handle ≠ .object) :
    (reg.publish info).Rooted := by
  unfold Rooted
  rwa [get_publish_of_ne reg info .object hne.symm]

/-- While handles are left, the registry is rooted and its array types are other types than the root
type. -/
structure RootSafe (reg : Registry) : Prop where
  started : 0 < reg.issued
  rooted : reg.issued ≤ UInt64.size → reg.Rooted
  arrays : reg.issued ≤ UInt64.size → ∀ entry ∈ reg.arrays, entry.2 ≠ .object

/-- A handle that is given out after the first one, while handles are left, is not that of the root
type. -/
theorem fresh_ne_object (hstarted : 0 < reg.issued) (hleft : reg.issued < UInt64.size) :
    reg.fresh.1 ≠ .object := by
  intro h
  refine not_given_fresh hleft ?_
  rw [h]
  exact ⟨1, Nat.one_pos, hstarted, rfl⟩

/-- An array type is made under a fresh handle. -/
theorem rootSafe_arrayOf (h : reg.RootSafe) (element : TypeHandle) :
    (reg.arrayOf element).2.RootSafe := by
  unfold arrayOf
  split
  · exact h
  · have hbefore : reg.issued + 1 ≤ UInt64.size → reg.issued ≤ UInt64.size := fun hleft => by omega
    have hne : reg.issued + 1 ≤ UInt64.size → reg.fresh.1 ≠ .object :=
      fun hleft => fresh_ne_object h.started (by omega)
    refine ⟨Nat.succ_pos _, fun hleft => ?rooted, fun hleft => ?arrays⟩
    case rooted => exact rooted_publish (h.rooted (hbefore hleft)) (hne hleft)
    case arrays =>
      intro entry hentry
      cases List.mem_cons.mp hentry with
      | inl hnew => exact hnew ▸ hne hleft
      | inr hold => exact h.arrays (hbefore hleft) entry hold

/-- An array type is named under its own handle. -/
theorem rootSafe_nameArraysOf (h : reg.RootSafe) (element : TypeHandle) (name : String) :
    (reg.nameArraysOf element name).RootSafe := by
  unfold nameArraysOf
  split
  · next array harray =>
      obtain ⟨front, back, harrays, -⟩ := List.lookup_eq_some_iff.mp harray
      have hmem : (element, array) ∈ reg.arrays := by simp [harrays]
      exact ⟨h.started, fun hleft => rooted_publish (h.rooted hleft) (h.arrays hleft _ hmem),
        h.arrays⟩
  · exact h

/-- What requests do to a registry leaves the root type alone. -/
theorem kept_rootSafe : Kept RootSafe where
  reserve _ h := ⟨Nat.succ_pos _, fun hleft => h.rooted (Nat.le_of_succ_le hleft),
    fun hleft => h.arrays (Nat.le_of_succ_le hleft)⟩
  arrayOf element h := rootSafe_arrayOf h element
  settle {earlier reg} native b hearlier h hissued := by
    unfold settle
    split
    · next element _ =>
        have hmade := rootSafe_arrayOf h element
        exact ⟨hmade.started, hmade.rooted, hmade.arrays⟩
    · apply rootSafe_nameArraysOf
      refine ⟨h.started, fun hleft => rooted_publish ?_ ?_, h.arrays⟩
      · exact h.rooted hleft
      · exact fresh_ne_object hearlier.started (Nat.lt_of_lt_of_le hissued hleft)

/-- The registry of the built-in types leaves the root type alone. -/
theorem rootSafe_initial : initial.RootSafe :=
  ⟨by decide, fun _ => rooted_initial, fun _ entry hentry => nomatch hentry⟩

/-- A type that is declared leaves the root type alone. -/
theorem rooted_declare (h : reg.RootSafe) (native : NativeType) (b : Blueprint)
    (hleft : (reg.declare native b).2.issued ≤ UInt64.size) : (reg.declare native b).2.Rooted :=
  (kept_rootSafe.declare h native b).rooted hleft

/-- Any number of requests keep a registry rooted, as long as there are handles. -/
theorem rooted_requestAll (h : reg.RootSafe) (family : Family) (natives : List NativeType)
    (hleft : (requestAll family natives reg).issued ≤ UInt64.size) :
    (requestAll family natives reg).Rooted :=
  (kept_rootSafe.requestAll family natives h).rooted hleft

end Introspect.Registry
