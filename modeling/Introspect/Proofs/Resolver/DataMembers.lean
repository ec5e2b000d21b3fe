import Introspect.Accessor.Mapper
import Introspect.Proofs.Resolver.Chain
import Mathlib.Data.List.Nodup

/-!
# `Introspect.Proofs.Resolver.DataMembers`: the members that a mapping sees

`dataMembers` walks the chain of a type and keeps the first member of each name, so no two members
have the same name (`nodup_dataMembers`), whether they are fields or properties and wherever they
are declared.

Each of them can be turned into an accessor for every direction that it offers: `Preparable` says
so, and `preparable_of_mem` proves it. A field offers a write only if its code has one, and a
property only what an accessor of the right shape stands for.
-/

set_option autoImplicit false

namespace Introspect

/-- A data member can be prepared in each direction that it offers. -/
structure DataMember.Preparable (reg : Registry) (m : DataMember) : Prop where
  read : ∀ handle, m.read = some handle → ∃ reader, Reader.ofMember reg handle = .ok reader
  write : ∀ handle, m.write = some handle → ∃ writer, Writer.ofMember reg handle = .ok writer

namespace Resolver

variable {reg : Registry} {type : TypeHandle} {kinds : DataKinds} {flags : Flags}
  {chain : List TypeInfo} {info : TypeInfo} {found more : List DataMember} {m : DataMember}

/-! ### Distinct names -/

/-- A member that is added was found before or is one of those to add. -/
theorem mem_of_mem_addUnseen (h : m ∈ addUnseen found more) : m ∈ found ∨ m ∈ more := by
  induction more generalizing found with
  | nil => exact .inl h
  | cons next rest ih =>
      rw [addUnseen, List.foldl_cons] at h
      split at h
      · cases ih h with
        | inl hfound => exact .inl hfound
        | inr hrest => exact .inr (.tail _ hrest)
      · cases ih h with
        | inl hfound =>
            cases List.mem_append.mp hfound with
            | inl hold => exact .inl hold
            | inr hnew =>
                obtain rfl : m = next := by simpa using hnew
                exact .inr List.mem_cons_self
        | inr hrest => exact .inr (.tail _ hrest)

/-- Members whose names were not seen keep the names distinct. -/
theorem nodup_addUnseen (h : (found.map (·.name)).Nodup) :
    ((addUnseen found more).map (·.name)).Nodup := by
  induction more generalizing found with
  | nil => exact h
  | cons next rest ih =>
      rw [addUnseen, List.foldl_cons]
      split
      · exact ih h
      · next hunseen =>
          refine ih ?_
          have hnew : next.name ∉ found.map (·.name) := by
            intro hmem
            obtain ⟨old, hold, hname⟩ := List.mem_map.mp hmem
            exact hunseen (List.any_eq_true.mpr ⟨old, hold, by simpa using hname⟩)
          rw [List.map_append, List.map_singleton, ← List.concat_eq_append]
          exact (List.nodup_concat _ _).mpr ⟨hnew, h⟩

/-- Walking a chain finds members of its types only. -/
theorem mem_of_mem_walk {infos : List TypeInfo}
    (h : m ∈ infos.foldl (fun found info => addUnseen found (membersOn chain kinds flags info))
      found) : m ∈ found ∨ ∃ info ∈ infos, m ∈ membersOn chain kinds flags info := by
  induction infos generalizing found with
  | nil => exact .inl h
  | cons info rest ih =>
      cases ih h with
      | inl hfound =>
          cases mem_of_mem_addUnseen hfound with
          | inl hold => exact .inl hold
          | inr hnew => exact .inr ⟨info, List.mem_cons_self, hnew⟩
      | inr hrest =>
          obtain ⟨other, hother, hm⟩ := hrest
          exact .inr ⟨other, .tail _ hother, hm⟩

/-- Walking a chain keeps the names distinct. -/
theorem nodup_walk {infos : List TypeInfo} (h : (found.map (·.name)).Nodup) :
    ((infos.foldl (fun found info => addUnseen found (membersOn chain kinds flags info))
      found).map (·.name)).Nodup := by
  induction infos generalizing found with
  | nil => exact h
  | cons info rest ih => exact ih (nodup_addUnseen h)

/-- The members that a mapping sees come from one walk along the chain. -/
theorem dataMembers_eq_ok_iff :
    dataMembers reg type kinds flags = .ok found ↔
      ∃ chain, reg.typeChain type flags = .ok chain ∧
        found = chain.foldl (fun found info => addUnseen found
          (membersOn chain kinds flags info)) [] := by
  unfold dataMembers
  cases reg.typeChain type flags with
  | error e => simp [bind, Except.bind]
  | ok chain => simp [bind, Except.bind, pure, Except.pure, eq_comm]

/-- No two members have the same name. -/
theorem nodup_dataMembers (h : dataMembers reg type kinds flags = .ok found) :
    (found.map (·.name)).Nodup := by
  obtain ⟨chain, -, rfl⟩ := dataMembers_eq_ok_iff.mp h
  exact nodup_walk List.nodup_nil

/-! ### Preparable members -/

/-- A member of a type is one of its fields, constants left out, or one of its properties. -/
theorem mem_membersOn (h : m ∈ membersOn chain kinds flags info) :
    (∃ index field, info.fields[index]? = some field ∧ m = fieldMember info index field) ∨
      ∃ index property, m = propertyMember chain flags info index property := by
  rw [membersOn, List.mem_append] at h
  cases h with
  | inl hfield =>
      split at hfield
      · obtain ⟨⟨index, field⟩, hmem, rfl⟩ := List.mem_map.mp hfield
        exact .inl ⟨index, field, (mem_positions_iff.mp hmem).1, rfl⟩
      · simp at hfield
  | inr hproperty =>
      split at hproperty
      · obtain ⟨⟨index, property⟩, -, rfl⟩ := List.mem_map.mp hproperty
        exact .inr ⟨index, property, rfl⟩
      · simp at hproperty

/-- A field of a published type can be prepared. -/
theorem preparable_field (hinfo : reg.get info.handle = some info) {index : Nat}
    {field : FieldInfo} (hfield : info.fields[index]? = some field) :
    (fieldMember info index field).Preparable reg := by
  refine ⟨?read, ?write⟩
  case read =>
    rintro handle hhandle
    obtain rfl : .field info.handle index = handle := Option.some.inj hhandle
    simp only [Reader.ofMember, Registry.info, hinfo, hfield, bind, Except.bind, pure, Except.pure]
    cases field.access <;> exact ⟨_, rfl⟩
  case write =>
    rintro handle hhandle
    have hhandle : (if field.isWritable then some (MemberHandle.field info.handle index) else none)
        = some handle := hhandle
    split at hhandle
    · next hwritable =>
        obtain rfl : .field info.handle index = handle := Option.some.inj hhandle
        simp only [Writer.ofMember, Registry.info, hinfo, hfield, bind, Except.bind, pure,
          Except.pure]
        unfold FieldInfo.isWritable at hwritable
        cases haccess : field.access with
        | constant content => simp [haccess] at hwritable
        | typeWide get set =>
            cases set with
            | none => simp [haccess] at hwritable
            | some set => exact ⟨_, rfl⟩
        | perInstance get set =>
            cases set with
            | none => simp [haccess] at hwritable
            | some set => exact ⟨_, rfl⟩
    · simp at hhandle

/-- What a property offers in a direction is an accessor on the chain. -/
theorem propertyHandle_eq_some {index : Nat} {property : PropertyInfo} {direction : Direction}
    {handle : MemberHandle} (h : propertyHandle chain flags info index property direction =
      some handle) :
    ∃ name ref method, findAccessor chain name flags = some (ref, method) ∧
      handle = .property info.handle (some index) ref := by
  simp only [propertyHandle, bind, Option.bind_eq_some_iff] at h
  obtain ⟨name, -, ⟨ref, method⟩, haccessor, hshape⟩ := h
  refine ⟨name, ref, method, haccessor, ?_⟩
  cases hcheck : checkShape method property.indexTypes.length direction with
  | ok _ => simpa [hcheck, eq_comm] using hshape
  | error e => simp [hcheck] at hshape

/-- A property that has a getter can be read. -/
theorem reader_of_findAccessor (hkeyed : reg.Keyed)
    (hchain : reg.typeChain type flags = .ok chain) {name : String} {wanted : Flags}
    {ref : MethodRef} {method : MethodInfo}
    (h : findAccessor chain name wanted = some (ref, method)) (declaring : TypeHandle)
    (descriptor : Option Nat) :
    ∃ reader, Reader.ofMember reg (.property declaring descriptor ref) = .ok reader := by
  obtain ⟨-, plan, -, -, hplan⟩ := ofMethod_of_findAccessor hkeyed hchain h .discard
  exact ⟨.call plan, by simp [Reader.ofMember, hplan, bind, Except.bind, pure, Except.pure]⟩

/-- A property that has a setter can be written. -/
theorem writer_of_findAccessor (hkeyed : reg.Keyed)
    (hchain : reg.typeChain type flags = .ok chain) {name : String} {wanted : Flags}
    {ref : MethodRef} {method : MethodInfo}
    (h : findAccessor chain name wanted = some (ref, method)) (declaring : TypeHandle)
    (descriptor : Option Nat) :
    ∃ writer, Writer.ofMember reg (.property declaring descriptor ref) = .ok writer := by
  obtain ⟨info, plan, hinfo, hmethod, hplan⟩ := ofMethod_of_findAccessor hkeyed hchain h .store
  exact ⟨.call method.isStatic plan, by
    simp [Writer.ofMember, Registry.info, hinfo, hmethod, hplan, bind, Except.bind, pure,
      Except.pure]⟩

/-- A property can be prepared. -/
theorem preparable_property (hkeyed : reg.Keyed) (hchain : reg.typeChain type flags = .ok chain)
    (index : Nat) (property : PropertyInfo) :
    (propertyMember chain flags info index property).Preparable reg := by
  refine ⟨?read, ?write⟩
  case read =>
    intro handle hhandle
    obtain ⟨name, ref, method, haccessor, rfl⟩ := propertyHandle_eq_some hhandle
    exact reader_of_findAccessor hkeyed hchain haccessor info.handle (some index)
  case write =>
    intro handle hhandle
    obtain ⟨name, ref, method, haccessor, rfl⟩ := propertyHandle_eq_some hhandle
    exact writer_of_findAccessor hkeyed hchain haccessor info.handle (some index)

/-- Every member that a mapping sees can be prepared. -/
theorem preparable_of_mem (hkeyed : reg.Keyed) (h : dataMembers reg type kinds flags = .ok found)
    (hm : m ∈ found) : m.Preparable reg := by
  obtain ⟨chain, hchain, rfl⟩ := dataMembers_eq_ok_iff.mp h
  cases mem_of_mem_walk hm with
  | inl hnone => simp at hnone
  | inr hon =>
      obtain ⟨info, hinfo, hon⟩ := hon
      have hget := Registry.get_of_typeChain hkeyed hchain hinfo
      cases mem_membersOn hon with
      | inl hfield =>
          obtain ⟨index, field, hfield, rfl⟩ := hfield
          exact preparable_field hget hfield
      | inr hproperty =>
          obtain ⟨index, property, rfl⟩ := hproperty
          exact preparable_property hkeyed hchain index property

end Resolver

end Introspect
