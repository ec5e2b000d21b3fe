import Introspect.Proofs.Registry.Moves

/-!
# `Introspect.Proofs.Registry.Builtins`: the built-in types stay what they are

A registry is grounded when the built-in types have the descriptors that they start with. Every
registry that registration leads to is grounded, while handles are left (`Reached.grounded`): a
description is published under a handle of its own, and what is published again is the array type of
some element, which no built-in type is.

In a grounded registry a value of a built-in type can be stored at that type and at the root type,
and nowhere else (`Grounded.isAssignable_iff`).
-/

set_option autoImplicit false

namespace Introspect.Registry

variable {reg : Registry} {type target : TypeHandle} {info : TypeInfo}

/-- The built-in types have the descriptors that they start with. -/
def Grounded (reg : Registry) : Prop :=
  ∀ info ∈ builtins, reg.get info.handle = some info

/-! ### Registration keeps the built-in types -/

/-- At the start the built-in types are all there is. -/
theorem grounded_initial : initial.Grounded := by
  intro info hinfo
  simp only [builtins, List.mem_cons, List.not_mem_nil, or_false] at hinfo
  rcases hinfo with rfl | rfl | rfl | rfl | rfl | rfl | rfl <;> rfl

/-- A type that is no built-in type is published. -/
theorem Grounded.publish (h : reg.Grounded) (hother : ∀ builtin ∈ builtins,
    builtin.handle ≠ info.handle) : (reg.publish info).Grounded := by
  intro builtin hbuiltin
  rw [get_publish_of_ne reg info _ (hother builtin hbuiltin)]
  exact h builtin hbuiltin

/-- No step of registration publishes a type under the handle of a built-in type. -/
theorem carried_grounded : Carried Grounded where
  of_types_eq h htypes info hinfo := by rw [get_of_types_eq htypes, h info hinfo]
  publishArray {reg array element} name hsame h := by
    refine h.publish fun builtin hbuiltin heq => ?_
    -- What was published under the handle before is an array type, and no built-in type is one.
    have harray : array = builtin.handle := heq.symm
    obtain ⟨old, hinfo⟩ := hsame builtin (by rw [harray, h builtin hbuiltin])
    have hnone : ∀ info ∈ builtins, info.element = none := by decide
    have helement := hnone builtin hbuiltin
    rw [hinfo] at helement
    cases helement
  publishBuilt {reg type b} hnew _ h := by
    refine h.publish fun builtin hbuiltin heq => ?_
    have htype : type = builtin.handle := heq.symm
    rw [htype, h builtin hbuiltin] at hnew
    cases hnew

/-- Every registry that registration leads to is grounded, while handles are left. -/
theorem Reached.grounded (h : Reached reg) (hleft : reg.issued ≤ UInt64.size) : reg.Grounded :=
  carried_grounded.reached grounded_initial h hleft

/-- A native type that is not known is described at once. -/
theorem Reached.declare {native : NativeType} (h : Reached reg) (hunknown : reg.known native = none)
    (b : Blueprint) : Reached (reg.declare native b).2 :=
  (h.tail (.reserve hunknown)).tail (moves_settle rfl b)

/-! ### Where values of a built-in type can be stored -/

/-- The types of boxed numbers, truth values and texts. -/
def boxed : List TypeHandle := [.bool, .int32, .int64, .float64, .string]

/-- The root type is none of them. -/
theorem ne_object_of_mem_boxed (h : type ∈ boxed) : type ≠ .object := by
  rintro rfl
  exact absurd h (by decide)

namespace Grounded

/-- The descriptor of the root type. -/
theorem get_object (h : reg.Grounded) :
    reg.get .object = some (.bare .object "Object" .root none .null) :=
  h _ List.mem_cons_self

/-- Null can be stored at the root type. -/
theorem isValueType_object (h : reg.Grounded) : reg.isValueType .object = false := by
  simp only [isValueType, h.get_object]
  rfl

/-- The type of a boxed value derives from the root type and implements nothing. -/
theorem get_boxed (h : reg.Grounded) (hboxed : type ∈ boxed) : ∃ info, reg.get type = some info ∧
    info.base = some .object ∧ info.interfaces = [] ∧ info.kind ≠ .enum := by
  have hlisted : ∀ type ∈ boxed, ∃ info ∈ builtins, info.handle = type ∧
      info.base = some .object ∧ info.interfaces = [] ∧ info.kind ≠ .enum := by decide
  obtain ⟨info, hinfo, rfl, hrest⟩ := hlisted type hboxed
  exact ⟨info, h info hinfo, hrest⟩

/-- Only the root type lies above the type of a boxed value. -/
theorem bases_boxed (h : reg.Grounded) (hboxed : type ∈ boxed) : reg.bases type = [.object] := by
  obtain ⟨info, hinfo, hbase, -⟩ := h.get_boxed hboxed
  have hfirst : reg.baseOf type = some .object := by simp [baseOf, hinfo, hbase]
  have hnext : reg.baseOf .object = none := by simp [baseOf, h.get_object, TypeInfo.bare]
  rw [bases, hfirst, chainFrom, hnext]
  cases reg.types.length <;> rfl

/-- The type of a boxed value implements no interface. -/
theorem implements_boxed (h : reg.Grounded) (hboxed : type ∈ boxed) (interface : TypeHandle) :
    reg.implements type interface = false := by
  obtain ⟨info, hinfo, hbase, hinterfaces, -⟩ := h.get_boxed hboxed
  have hdone : ∀ limit seen, reg.searchInterface interface limit seen [] = false := by
    intro limit seen
    cases limit <;> rfl
  -- The search looks at the type, then at the root type, and is done.
  have hroot : ∀ limit seen, reg.searchInterface interface limit seen [.object] = false := by
    intro limit seen
    cases limit with
    | zero => rfl
    | succ limit => simp [searchInterface, h.get_object, TypeInfo.bare, hdone]
  unfold implements
  cases reg.searchLimit with
  | zero => rfl
  | succ limit => simp [searchInterface, hinfo, hbase, hinterfaces, hroot]

/-- A boxed number, truth value or text can be stored at its own type and at the root type only. -/
theorem isAssignable_iff (h : reg.Grounded) (hboxed : type ∈ boxed) :
    reg.isAssignable target type = true ↔ target = type ∨ target = .object := by
  simp only [isAssignable, h.bases_boxed hboxed, h.implements_boxed hboxed, Bool.and_false,
    Bool.or_false, Bool.or_eq_true, beq_iff_eq, List.contains_cons, List.contains_nil, or_assoc,
    or_self]

/-- It cannot be stored anywhere else. -/
theorem isAssignable_eq_false (h : reg.Grounded) (hboxed : type ∈ boxed) (hother : target ≠ type)
    (hobject : target ≠ .object) : reg.isAssignable target type = false := by
  rw [Bool.eq_false_iff, Ne, h.isAssignable_iff hboxed]
  exact not_or.mpr ⟨hother, hobject⟩

/-- An enumeration is another type than the root type and the types of boxed values. -/
theorem ne_of_enum (h : reg.Grounded) (hinfo : reg.get type = some info)
    (hkind : info.kind = .enum) : type ≠ .object ∧ type ∉ boxed := by
  constructor
  · rintro rfl
    obtain rfl := Option.some.inj (h.get_object.symm.trans hinfo)
    cases hkind
  · intro hboxed
    obtain ⟨other, hother, -, -, hne⟩ := h.get_boxed hboxed
    obtain rfl := Option.some.inj (hother.symm.trans hinfo)
    exact hne hkind

end Grounded

end Introspect.Registry
