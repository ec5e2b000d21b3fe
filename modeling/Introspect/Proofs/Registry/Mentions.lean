import Introspect.Proofs.Dispatch.Extension

/-!
# `Introspect.Proofs.Registry.Mentions`: the types that descriptions mention

A descriptor stores the handles of other types: of its base and its interfaces, of the types of its
members, and of those that declare the methods of its dispatch table (`TypeInfo.handles`).
`handles_build` says where they come from when a description is built.

A description can only mention types that it has asked for, and built-in types. `Description.Honest`
says so, for all answers to its requests, and `Family.Closed` says it of a whole family in which
every type that is asked for can be described. A family member is `Plain` when it never stands for
an array type.
-/

set_option autoImplicit false

namespace Introspect

/-! ### Handles in descriptors -/

/-- The types that a property mentions. -/
def PropertyInfo.handles (property : PropertyInfo) : List TypeHandle :=
  property.type :: property.indexTypes

/-- The types that a method mentions. -/
def MethodInfo.handles (method : MethodInfo) : List TypeHandle :=
  method.returns :: method.paramTypes

/-- The types that a descriptor mentions. -/
def TypeInfo.handles (info : TypeInfo) : List TypeHandle :=
  info.base.toList ++ info.interfaces ++ info.element.toList ++ info.fields.map (·.type) ++
    info.properties.flatMap PropertyInfo.handles ++ info.methods.flatMap MethodInfo.handles ++
    info.constructors.flatMap ConstructorInfo.paramTypes ++
    info.dispatchTable.map (·.declaring)

/-- The types that a description mentions in the end. One that stands for an array type mentions the
element only. -/
def Blueprint.handles (b : Blueprint) : List TypeHandle :=
  match b.element with
  | some element => [element]
  | none =>
    b.base.toList ++ b.interfaces ++ b.fields.map (·.type) ++
      b.properties.flatMap PropertyInfo.handles ++ b.methods.flatMap MethodInfo.handles ++
      b.constructors.flatMap fun draft => draft.params.map (·.type)

namespace Registry

variable {reg : Registry} {type handle : TypeHandle} {b : Blueprint}

/-- An array type mentions the root type, which is its base, and its element. -/
theorem handles_arrayInfo (array element : TypeHandle) (name : String) :
    (arrayInfo array element name).handles = [.object, element] := by
  simp [TypeInfo.handles, arrayInfo, TypeInfo.bare]

/-- Slots mention no types. -/
theorem flatMap_handles_assignSlots (reg : Registry) (type : TypeHandle) (index : Nat)
    (methods : List MethodInfo) (table : List MethodRef) :
    (Blueprint.assignSlots reg type index methods table).1.flatMap MethodInfo.handles =
      methods.flatMap MethodInfo.handles := by
  induction methods generalizing index table with
  | nil => rfl
  | cons method rest ih =>
      unfold Blueprint.assignSlots
      split
      · simp only [List.flatMap_cons, ih]
        rfl
      · simp only [List.flatMap_cons, ih]

/-- A type that is built mentions what its description does, itself, the root type, and the types
that declare the methods of its base. -/
theorem handles_build (hnew : reg.get type = none) (helement : b.element = none)
    (h : handle ∈ (b.build type reg).handles) :
    handle ∈ b.handles ∨ handle = type ∨ handle = .object ∨
      ∃ base info, builtBase b = some base ∧ reg.get base = some info ∧
        handle ∈ info.dispatchTable.map (·.declaring) := by
  have hhandles : b.handles = b.base.toList ++ b.interfaces ++ b.fields.map (·.type) ++
      b.properties.flatMap PropertyInfo.handles ++ b.methods.flatMap MethodInfo.handles ++
      b.constructors.flatMap fun draft => draft.params.map (·.type) := by
    simp only [Blueprint.handles, helement]
  have hmethods : (b.build type reg).methods.flatMap MethodInfo.handles =
      b.methods.flatMap MethodInfo.handles := by
    have hslots := flatMap_handles_assignSlots reg type 0 (describedMethods b)
      (Blueprint.baseTable reg (builtBase b))
    have hdescribed : (describedMethods b).flatMap MethodInfo.handles =
        b.methods.flatMap MethodInfo.handles := by
      simp only [describedMethods, List.flatMap_map]
      rfl
    exact hslots.trans hdescribed
  have hproperties : (b.build type reg).properties.flatMap PropertyInfo.handles =
      b.properties.flatMap PropertyInfo.handles := by
    simp only [Blueprint.build, List.flatMap_map]
    rfl
  have hconstructors : (b.build type reg).constructors.flatMap ConstructorInfo.paramTypes =
      b.constructors.flatMap fun draft => draft.params.map (·.type) := by
    simp only [Blueprint.build, List.flatMap_map]
    rfl
  have hfields : (b.build type reg).fields.map (·.type) =
      b.fields.map (·.type) ++ b.variants.map fun _ => type := by
    simp only [Blueprint.build, List.map_append, List.map_map]
    rfl
  have hbase : (b.build type reg).base = builtBase b := rfl
  have hinterfaces : (b.build type reg).interfaces = b.interfaces := rfl
  have hnone : (b.build type reg).element = none := helement
  simp only [TypeInfo.handles, hbase, hinterfaces, hnone, hfields, hproperties, hmethods,
    hconstructors, Option.toList_none, List.append_nil, List.mem_append] at h
  rw [hhandles]
  simp only [List.mem_append]
  rcases h with ((((((hinBase | hinInterfaces) | hinFields | hinVariants) | hinProperties) |
    hinMethods) | hinConstructors) | hinTable)
  · have hbuilt : builtBase b = some handle := Option.mem_toList.mp hinBase
    unfold builtBase at hbuilt
    split at hbuilt
    · cases hbuilt
    · obtain rfl := Option.some.inj hbuilt
      cases hdeclared : b.base with
      | none => exact .inr (.inr (.inl rfl))
      | some base => simp
  · exact .inl (.inl (.inl (.inl (.inl (.inr hinInterfaces)))))
  · exact .inl (.inl (.inl (.inl (.inr hinFields))))
  · obtain ⟨-, -, rfl⟩ := List.mem_map.mp hinVariants
    exact .inr (.inl rfl)
  · exact .inl (.inl (.inl (.inr hinProperties)))
  · exact .inl (.inl (.inr hinMethods))
  · exact .inl (.inr hinConstructors)
  · obtain ⟨entry, hentry, rfl⟩ := List.mem_map.mp hinTable
    rcases (extends_build hnew b).entries entry hentry with hold | ⟨i, found, -, rfl⟩
    · obtain ⟨s, hs⟩ := List.getElem?_of_mem hold
      obtain ⟨base, info, hbuilt, hinfo, hslot⟩ := baseTable_eq_some hs
      exact .inr (.inr (.inr ⟨base, info, hbuilt, hinfo,
        List.mem_map.mpr ⟨entry, List.mem_of_getElem? hslot, rfl⟩⟩))
    · exact .inr (.inl rfl)

end Registry

/-! ### Families of descriptions -/

/-- A list of another native type. -/
def NativeType.isList : NativeType → Bool
  | .list _ => true
  | _ => false

/-- All results have the property, whatever the answers to the requests are. -/
def Description.All {α : Type} (p : α → Prop) : Description α → Prop
  | done a => p a
  | request _ next => ∀ type, (next type).All p
  | arrayOf _ next => ∀ type, (next type).All p

namespace Family

/-- How a native type is described. A list asks for the type of its items and stands for the array
type of it. -/
def describe (family : Family) : NativeType → Option (Description Blueprint)
  | .list element => some (.request element fun type => .done (.arrayOf type))
  | native => family.lookup native

/-- Every type that is asked for in the end is built in or described. -/
def Covers (family : Family) : NativeType → Prop
  | .list element => family.Covers element
  | native =>
    (Registry.initial.natives.lookup native).isSome = true ∨ (family.lookup native).isSome = true

/-- The description of the native type never stands for an array type. -/
def Plain (family : Family) (native : NativeType) : Prop :=
  ∃ description, family.describe native = some description ∧
    description.All fun b => b.element = none

end Family

/-- A description asks for types that can be described, and mentions only types that it knows of by
then: those in `known`, and the answers to its requests. -/
def Description.Honest (family : Family) (known : List TypeHandle) :
    Description Blueprint → Prop
  | done b => b.handles ⊆ known
  | request native next => family.Covers native ∧ ∀ type, (next type).Honest family (type :: known)
  | arrayOf element next => element ∈ known ∧ ∀ type, (next type).Honest family (type :: known)

/-- Every description of the family mentions only built-in types and those that it has asked for,
which can all be described. -/
def Family.Closed (family : Family) : Prop :=
  ∀ native description, family.lookup native = some description →
    description.Honest family (Registry.builtins.map (·.handle))

/-- A native type that is not a list is described by the family. -/
theorem Family.describe_of_not_list {family : Family} {native : NativeType}
    (h : native.isList = false) : family.describe native = family.lookup native := by
  cases native <;> first | rfl | cases h

/-- Such a native type is asked for in the end. -/
theorem Family.covers_of_not_list {family : Family} {native : NativeType}
    (h : native.isList = false) :
    family.Covers native ↔ (Registry.initial.natives.lookup native).isSome = true ∨
      (family.lookup native).isSome = true := by
  cases native <;> first | rfl | cases h

end Introspect
