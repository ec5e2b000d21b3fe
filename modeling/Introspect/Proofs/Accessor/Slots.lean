import Introspect.Member.Slot
import Introspect.Proofs.Registry.Parts
import Introspect.Proofs.Resolver.Directions
import Introspect.Proofs.World.Content

/-!
# `Introspect.Proofs.Accessor.Slots`: fields that are backed by a slot

`FieldAccess.SlotBacked` is what to expect of the code of a field that stores its content in one
slot: it reads that slot and nothing else of the instance, it changes that slot or fails without a
change, and what was accepted is what is read afterwards. `Registry.Slotted` asks this of all
instance fields of a type, each with a slot of its own.

The usual field is of that kind when its storage keeps single values (`NativeType.keepsValue`), such
as scalars, boxed values, value types and enumerations: `FieldAccess.slotBacked_ofSlot`. A list is
not, since each read makes a new array of it. A scalar field of the root type is not either: it
would be given cells, and keep what is in them.
-/

set_option autoImplicit false

namespace Introspect

/-! ### Boxing and unboxing -/

namespace World

/-- Two worlds with the same types and the same arrays. -/
structure Alike (w later : World) : Prop where
  registry : later.registry = w.registry
  arrays : later.arrays = w.arrays

variable {w later : World}

/-- What is the same before is the same after. -/
theorem Alike.symm (h : w.Alike later) : later.Alike w := ⟨h.registry.symm, h.arrays.symm⟩

/-- What is the same two times is the same. -/
theorem Alike.trans {last : World} (h : w.Alike later) (h' : later.Alike last) : w.Alike last :=
  ⟨h'.registry.trans h.registry, h'.arrays.trans h.arrays⟩

/-- The type of a native type depends on the registry only. -/
theorem handleOf_alike (h : w.Alike later) (native : NativeType) :
    (later.handleOf native).1 = (w.handleOf native).1 ∧
      (w.handleOf native).2.Alike (later.handleOf native).2 := by
  simp only [handleOf, h.registry, true_and]
  exact ⟨rfl, h.arrays⟩

mutual

/-- Boxing depends on the types and the arrays only. -/
theorem box_alike (native : NativeType) : (content : Datum) → {w later : World} →
    w.Alike later → (later.box native content).1 = (w.box native content).1 ∧
      (w.box native content).2.Alike (later.box native content).2
  | .value _, _, _, h => ⟨rfl, h⟩
  | .list contents, _, _, h => by
      obtain ⟨hvalues, hboxed⟩ := boxAll_alike (elementOf native) contents h
      obtain ⟨helement, hafter⟩ := handleOf_alike hboxed (elementOf native)
      simp only [box, newArray, hvalues, helement, hafter.registry, hafter.arrays, true_and]
      exact ⟨rfl, rfl⟩

/-- Boxing the items of a list depends on the types and the arrays only. -/
theorem boxAll_alike (native : NativeType) : (contents : List Datum) → {w later : World} →
    w.Alike later → (later.boxAll native contents).1 = (w.boxAll native contents).1 ∧
      (w.boxAll native contents).2.Alike (later.boxAll native contents).2
  | [], _, _, h => ⟨rfl, h⟩
  | content :: rest, _, _, h => by
      obtain ⟨hfirst, hboxed⟩ := box_alike native content h
      obtain ⟨hothers, hafter⟩ := boxAll_alike native rest hboxed
      simp only [boxAll, hfirst, hothers, true_and]
      exact hafter

end

end World

/-- Whether the storage of a native type keeps a value as it is. Lists are taken apart, and the unit
type forgets what it is given. -/
def NativeType.keepsValue : NativeType → Bool
  | .unit | .list _ => false
  | .optional content => content.keepsValue
  | _ => true

/-- What is stored of a value that is no cell is that value. -/
theorem World.unbox_eq_value {w : World} {native : NativeType} {v : Value} {content : Datum}
    (hkeeps : native.keepsValue = true) (hv : v.isCell = false)
    (h : w.unbox native v = .ok content) : content = .value v := by
  have hcontent : w.content v = v := content_of_not_cell w hv
  induction native with
  | unit => simp [NativeType.keepsValue] at hkeeps
  | list element _ => simp [NativeType.keepsValue] at hkeeps
  | optional inner ih =>
      cases v with
      | null => simpa [unbox, eq_comm] using h
      | _ => exact ih hkeeps (by simpa only [unbox] using h)
  | value => simpa [unbox, eq_comm] using h
  | object | array | cell | string | described _ => cases v <;> simp_all [unbox]
  | _ =>
      simp only [unbox, hcontent] at h
      repeat' split at h
      all_goals simp_all

/-! ### Slot-backed fields -/

/-- The code of a field keeps its content in one slot. -/
structure FieldAccess.SlotBacked (slot : String) (type : TypeHandle) (access : FieldAccess) :
    Prop where
  /-- a read depends on that slot, and on what boxing depends on -/
  reads : ∀ {get set}, access = .perInstance get set → ∀ {data other : Instance} {w later : World},
    data.SameAt slot other → w.Alike later → ((get other).run later).1 = ((get data).run w).1
  /-- a write that fails changes nothing -/
  fails : ∀ {get set}, access = .perInstance get (some set) → ∀ {data v w e},
    ((set data v).run w).1.1 = .error e → (set data v).run w = ((.error e, data), w)
  /-- a write that succeeds changes that slot, which then reads as the value that was written, if
  that is one that the type of the field lets through -/
  keeps : ∀ {get set}, access = .perInstance get (some set) → ∀ {data v w},
    ((set data v).run w).1.1 = .ok () → ∃ content,
      (set data v).run w = ((.ok (), data.set slot content), w) ∧
      (type = .object ∨ v.isCell = false → data.HasSlot slot → ∀ later, w.Alike later →
        ((get (data.set slot content)).run later).1 = .ok v)

namespace FieldAccess

variable {owner name slot : String} {native : NativeType} {type : TypeHandle}

/-- The read of a slot depends on that slot. -/
theorem checkedGet_getSlot_congr {data other : Instance} {w later : World}
    (hsame : data.SameAt slot other) (h : w.Alike later) :
    ((FieldInfo.checkedGet owner (FieldInfo.getSlot slot native) other).run later).1 =
      ((FieldInfo.checkedGet owner (FieldInfo.getSlot slot native) data).run w).1 := by
  simp only [FieldInfo.checkedGet, hsame.native]
  split
  · simp only [FieldInfo.getSlot, hsame.content, Code.bind, Code.run]
    rw [(World.box_alike native _ h).1]
  · rfl

/-- A field over a slot whose storage keeps single values is backed by that slot. -/
theorem slotBacked_ofSlot (owner name slot : String) {native : NativeType} {type : TypeHandle}
    (hkeeps : native.keepsValue = true) (htype : native = .value ∨ type ≠ .object) :
    (FieldInfo.ofSlot owner name slot native type).access.SlotBacked slot type := by
  constructor
  · rintro get set ⟨⟩ data other w later hsame h
    exact checkedGet_getSlot_congr hsame h
  · rintro get set ⟨⟩ data v w e hfail
    unfold FieldInfo.checkedSet at hfail ⊢
    split
    · next hnative =>
        simp only [hnative, if_true, FieldInfo.setSlot, Code.run] at hfail ⊢
        cases hunbox : w.unbox native v with
        | ok content => simp [hunbox, Code.run] at hfail
        | error e' =>
            obtain rfl : e' = e := by simpa [hunbox, Code.run] using hfail
            rfl
    · next hnative =>
        obtain rfl : _ = e := by simpa [hnative, Code.run] using hfail
        rfl
  · rintro get set ⟨⟩ data v w hdone
    unfold FieldInfo.checkedSet at hdone ⊢
    split
    · next hnative =>
        simp only [hnative, if_true, FieldInfo.setSlot, Code.run] at hdone ⊢
        cases hunbox : w.unbox native v with
        | error e => simp [hunbox, Code.run] at hdone
        | ok content =>
            refine ⟨content, rfl, fun hv hslot later _ => ?_⟩
            have hcontent : content = .value v := by
              rcases htype with rfl | htype
              · simpa [World.unbox, eq_comm] using hunbox
              · exact World.unbox_eq_value hkeeps (hv.resolve_left htype) hunbox
            simp [FieldInfo.checkedGet, hnative, FieldInfo.getSlot, Code.bind, Code.run,
              Instance.get_set_self hslot, hcontent, World.box]
    · next hnative => simp [hnative, Code.run] at hdone

/-- A field over a slot that cannot be written is backed by that slot. -/
theorem slotBacked_readOnlyOfSlot (owner name slot : String) (native : NativeType)
    (type : TypeHandle) :
    (FieldInfo.readOnlyOfSlot owner name slot native type).access.SlotBacked slot type := by
  constructor
  · rintro get set ⟨⟩ data other w later hsame h
    exact checkedGet_getSlot_congr hsame h
  · rintro get set ⟨⟩
  · rintro get set ⟨⟩

end FieldAccess

/-- The instance fields of a type are backed by slots, each by one of its own. -/
structure Registry.Slotted (reg : Registry) (slotOf : Nat → String) (type : TypeHandle) : Prop where
  backed : ∀ {index field}, Resolver.fieldAt reg (.field type index) = some field →
    field.isStatic = false → field.access.SlotBacked (slotOf index) field.type
  distinct : ∀ {i j a b}, Resolver.fieldAt reg (.field type i) = some a → a.isStatic = false →
    Resolver.fieldAt reg (.field type j) = some b → b.isStatic = false →
    slotOf i = slotOf j → i = j

/-- The slots of the fields of a type, in order, when they are all different. -/
theorem Registry.slotted_of_slots {reg : Registry} {type : TypeHandle} {info : TypeInfo}
    {slots : List String} (hinfo : reg.get type = some info)
    (hfields : List.Forall₂ (fun slot field => field.access.SlotBacked slot field.type) slots
      info.fields) (hnodup : slots.Nodup) :
    reg.Slotted (fun index => slots[index]?.getD "") type := by
  have hslot : ∀ {index field}, Resolver.fieldAt reg (.field type index) = some field →
      ∃ h : index < slots.length, field.access.SlotBacked slots[index] field.type := by
    intro index field hfield
    simp only [Resolver.fieldAt, hinfo, Option.bind_some, List.getElem?_eq_some_iff] at hfield
    obtain ⟨hindex, rfl⟩ := hfield
    have hlength := hfields.length_eq ▸ hindex
    exact ⟨hlength, hfields.get hlength hindex⟩
  constructor
  · intro index field hfield _
    obtain ⟨hindex, hbacked⟩ := hslot hfield
    simpa [hindex] using hbacked
  · intro i j a b ha _ hb _ hsame
    obtain ⟨hi, -⟩ := hslot ha
    obtain ⟨hj, -⟩ := hslot hb
    exact (List.Nodup.getElem_inj_iff hnodup).mp (by simpa [hi, hj] using hsame)

end Introspect
