import Introspect.Proofs.Registry.Handles
import Introspect.Proofs.Registry.Interfaces
import Introspect.Proofs.Registry.Root

/-!
# `Introspect.Proofs.Registry.Assignability`: where values of a type can be stored

A type accepts itself, the root type accepts every type, a type accepts those that derive from it,
and an interface those that implement it (`isAssignable_iff`).

`Layered` is what a graph of types needs for these four rules to fit together: nothing lies above
the root type, and interfaces lie right below it. Then acceptance goes on from type to type.
`Layered.isAssignable_trans` has a case for each pair of rules; where a base or an interface is
followed by an interface, the walks of both are put together. `assignable_preorder` sums up:
acceptance is a preorder, with the root type on top.
-/

set_option autoImplicit false

namespace Introspect.Registry

variable {reg : Registry} {type source middle target : TypeHandle}

/-- The four rules of assignability. -/
theorem isAssignable_iff : reg.isAssignable target source = true ↔
    target = source ∨ target = .object ∨ target ∈ reg.bases source ∨
      reg.isInterface target = true ∧ reg.implements source target = true := by
  simp only [isAssignable, Bool.or_eq_true, Bool.and_eq_true, beq_iff_eq, List.contains_iff_mem,
    or_assoc]

/-- Nothing lies above the root type, and interfaces lie right below it. Other types may derive from
each other in any way, and interfaces declare any others, in circles as well. -/
structure Layered (reg : Registry) : Prop where
  rooted : reg.Rooted
  interfaces : ∀ type, reg.isInterface type = true → reg.baseOf type = some .object

/-- A registry is layered when each descriptor of an interface says so. -/
theorem layered_of_every (hrooted : reg.Rooted)
    (h : reg.Every fun _ info => info.isInterface = true → info.base = some .object) :
    reg.Layered := by
  refine ⟨hrooted, fun type hinterface => ?_⟩
  unfold isInterface at hinterface
  split at hinterface
  · next info hinfo => rw [baseOf, hinfo, Option.bind_some, h.get hinfo hinterface]
  · cases hinterface

/-- The root type derives from no other type. -/
theorem Rooted.eq_object_of_derivesFrom (h : reg.Rooted)
    (hderives : reg.DerivesFrom .object target) :
    target = .object := by
  obtain rfl | ⟨base, hbase, -⟩ := hderives.cases_head
  · rfl
  · obtain ⟨root, hroot, hnone, -⟩ := h
    rw [baseOf, hroot, Option.bind_some, hnone] at hbase
    cases hbase

/-- The only base of an interface is the root type. -/
theorem Layered.eq_object_of_mem_bases (h : reg.Layered) (hinterface : reg.isInterface type = true)
    (hmem : target ∈ reg.bases type) : target = .object := by
  obtain ⟨base, hbase, hderives⟩ := mem_bases_iff.mp hmem
  obtain rfl : .object = base := Option.some.inj ((h.interfaces type hinterface).symm.trans hbase)
  exact h.rooted.eq_object_of_derivesFrom hderives

/-- A type other than the root type lies above the types that it accepts. -/
theorem reaches_of_isAssignable (h : reg.isAssignable target source = true)
    (hobject : target ≠ .object) : reg.Reaches source target := by
  rcases isAssignable_iff.mp h with rfl | rfl | hbase | ⟨-, himplements⟩
  case inl => exact .refl
  case inr.inl => exact absurd rfl hobject
  case inr.inr.inl => exact (derivesFrom_of_mem_bases hbase).reaches
  case inr.inr.inr => exact reaches_of_implements himplements

/-- What accepts a base of a type accepts the type, if it does so as a base as well. -/
theorem Layered.isAssignable_of_base (h : reg.Layered) (hbase : target ∈ reg.bases middle)
    (hsource : reg.isAssignable middle source = true) : reg.isAssignable target source = true := by
  rcases isAssignable_iff.mp hsource with rfl | rfl | hmiddle | ⟨hinterface, -⟩
  case inl => exact isAssignable_iff.mpr (.inr (.inr (.inl hbase)))
  case inr.inl =>
    rw [h.rooted.bases_object] at hbase
    cases hbase
  case inr.inr.inl =>
    exact isAssignable_iff.mpr (.inr (.inr (.inl (mem_bases_trans hmiddle hbase))))
  case inr.inr.inr =>
    -- The types that implement an interface need not derive from its base, so this has to be the
    -- root type.
    rw [h.eq_object_of_mem_bases hinterface hbase]
    exact isAssignable_object reg source

/-- An interface that a type implements is implemented by all that the type accepts. -/
theorem Layered.isAssignable_of_interface (h : reg.Layered)
    (hinterface : reg.isInterface target = true) (himplements : reg.implements middle target = true)
    (hsource : reg.isAssignable middle source = true) : reg.isAssignable target source = true := by
  have hobject : middle ≠ .object := by
    rintro rfl
    rw [h.rooted.implements_object] at himplements
    cases himplements
  have hreaches : reg.Reaches source middle := reaches_of_isAssignable hsource hobject
  exact isAssignable_iff.mpr
    (.inr (.inr (.inr ⟨hinterface, implements_of_reaches hreaches himplements⟩)))

/-- Acceptance goes on from type to type. -/
theorem Layered.isAssignable_trans (h : reg.Layered)
    (hmiddle : reg.isAssignable target middle = true)
    (hsource : reg.isAssignable middle source = true) : reg.isAssignable target source = true := by
  rcases isAssignable_iff.mp hmiddle with rfl | rfl | hbase | ⟨hinterface, himplements⟩
  case inl => exact hsource
  case inr.inl => exact isAssignable_object reg source
  case inr.inr.inl => exact h.isAssignable_of_base hbase hsource
  case inr.inr.inr => exact h.isAssignable_of_interface hinterface himplements hsource

/-- Acceptance is a preorder: every type accepts itself, and what accepts a type accepts everything
that the type accepts. The root type accepts every type, and is accepted by itself alone.

Nothing is asked of the bases of other types: where these lead in a circle, the list of them is cut
off after each has come up. -/
theorem assignable_preorder (h : reg.Layered) :
    (∀ a, reg.isAssignable a a = true) ∧
    (∀ a b c, reg.isAssignable a b = true → reg.isAssignable b c = true →
      reg.isAssignable a c = true) ∧
    (∀ a, reg.isAssignable .object a = true) ∧
    (∀ a, reg.isAssignable a .object = true ↔ a = .object) := by
  refine ⟨isAssignable_refl reg, ?_, isAssignable_object reg, ?_⟩
  · intro a b c hab hbc
    exact h.isAssignable_trans hab hbc
  · intro a
    exact h.rooted.isAssignable_object_iff

/-- Two interfaces that declare each other, and gates, which are doors, which implement one of
them. -/
def gates : Family := [
  (.described "Openable", do
    let closable ← Description.typeOf (.described "Closable")
    return (Blueprint.interface "IOpenable").implementing closable),
  (.described "Closable", do
    let openable ← Description.typeOf (.described "Openable")
    return (Blueprint.interface "IClosable").implementing openable),
  (.described "Door", do
    let openable ← Description.typeOf (.described "Openable")
    return (Blueprint.reference "Door").implementing openable),
  (.described "Gate", do
    let door ← Description.typeOf (.described "Door")
    return (Blueprint.reference "Gate").extending "Gate" door)]

/-- The registry after gates were asked for. -/
def gateway : Registry := (request gates (.described "Gate") .initial).2

/-- What accepts doors through a circle of interfaces accepts gates. -/
theorem assignable_preorder_gateway :
    ∃ closable door gate, gateway.Layered ∧ gateway.find "IClosable" = some closable ∧
      gateway.find "Door" = some door ∧ gateway.find "Gate" = some gate ∧
      gateway.isAssignable closable door = true ∧ gateway.isAssignable door gate = true ∧
      gateway.isAssignable closable gate = true := by
  have hlayered : gateway.Layered :=
    layered_of_every ⟨_, rfl, rfl, rfl⟩ (show ∀ entry ∈ gateway.types, _ by decide)
  have hdoor : gateway.isAssignable (.ofIndex 11) (.ofIndex 9) = true := by decide
  have hgate : gateway.isAssignable (.ofIndex 9) (.ofIndex 8) = true := by decide
  exact ⟨.ofIndex 11, .ofIndex 9, .ofIndex 8, hlayered, by decide, by decide, by decide, hdoor,
    hgate, (assignable_preorder hlayered).2.1 _ _ _ hdoor hgate⟩

end Introspect.Registry
