import Introspect.Conversion
import Introspect.Proofs.Registry.Builtins
import Introspect.Proofs.World.Cast

/-!
# `Introspect.Proofs.Conversion.Boxed`: which conversion applies to a value

`convert` opens one cell, leaves a value that can be stored at the type, and passes any other one to
`convertTo` (`convert_eq_some_iff`). A boxed number, truth value or text is left alone only at its
own type and at the root type, in every grounded registry (`convert_boxed`), and there `convertTo`
comes down to what is done for the type asked for: a number is rounded and checked, a text is read,
and the other way round a text is made.
-/

set_option autoImplicit false

namespace Introspect

/-- A number reaches 32 bits as a whole number that it reaches 64 bits as. -/
theorem Number.toInt32_eq_some_iff {number : Number} {n : Int32} :
    number.toInt32 = some n ↔ number.toInt64 = some n.toInt64 := by
  unfold toInt32
  rw [Option.bind_eq_some_iff]
  constructor
  · rintro ⟨wide, hwide, h⟩
    split at h
    · next hrange =>
        obtain ⟨hlow, hhigh⟩ : -2 ^ 31 ≤ wide.toInt ∧ wide.toInt ≤ 2 ^ 31 - 1 := hrange
        obtain rfl := Option.some.inj h
        have hsame : wide.toInt32.toInt = wide.toInt := by
          rw [Int64.toInt_toInt32, Int.bmod_eq_of_le (by omega) (by omega)]
        have hback : wide.toInt32.toInt64 = wide :=
          Int64.toInt_inj.mp ((Int32.toInt_toInt64 _).trans hsame)
        rw [hwide, hback]
    · cases h
  · intro h
    refine ⟨n.toInt64, h, ?_⟩
    rw [Int32.toInt_toInt64, if_pos ⟨n.minValue_le_toInt, n.toInt_le⟩, Int32.toInt32_toInt64]

namespace World

variable {w : World} {v r : Value} {type actual : TypeHandle}

/-- A value that has a type by itself is in no cell. -/
theorem isCell_of_directType (h : directType v = some actual) : v.isCell = false := by
  cases v with
  | cell cell => cases h
  | _ => rfl

/-- Its runtime type is that type. -/
theorem typeOf_of_directType (h : directType v = some actual) : w.typeOf v = some actual := by
  rw [typeOf, content_of_not_cell w (isCell_of_directType h), h]

/-- There is no cell to open. -/
theorem opened_of_directType (h : directType v = some actual) : w.opened v = v := by
  cases v with
  | cell cell => cases h
  | _ => rfl

/-- A conversion leaves a value that can be stored at the type as it is, out of its cell, and makes
another value otherwise. -/
theorem convert_eq_some_iff : w.convert v type = some r ↔ ∃ actual, w.typeOf v = some actual ∧
    (w.registry.isAssignable type actual = true ∧ r = w.opened v ∨
      w.registry.isAssignable type actual = false ∧
        w.registry.convertTo (w.opened v) type = some r) := by
  unfold convert
  dsimp only
  rw [typeOf_opened_eq]
  cases w.typeOf v with
  | none => simp
  | some actual =>
      cases hassign : w.registry.isAssignable type actual <;> simp [hassign, eq_comm (a := r)]

/-- A value in no cell is left alone at each type where it can be stored. -/
theorem convert_of_isAssignable (hactual : directType v = some actual)
    (h : w.registry.isAssignable type actual = true) : w.convert v type = some v :=
  convert_eq_some_iff.mpr
    ⟨actual, typeOf_of_directType hactual, .inl ⟨h, (opened_of_directType hactual).symm⟩⟩

/-- At every other type another value is made of it, if any. -/
theorem convert_of_not_isAssignable (hactual : directType v = some actual)
    (h : w.registry.isAssignable type actual = false) :
    w.convert v type = w.registry.convertTo v type := by
  ext r
  simp [convert_eq_some_iff, typeOf_of_directType hactual, h, opened_of_directType hactual]

/-- A boxed number, truth value or text is converted at every type but its own and the root type. -/
theorem convert_boxed (hgrounded : w.registry.Grounded) (hactual : directType v = some actual)
    (hboxed : actual ∈ Registry.boxed) (hother : type ≠ actual) (hobject : type ≠ .object) :
    w.convert v type = w.registry.convertTo v type :=
  convert_of_not_isAssignable hactual (hgrounded.isAssignable_eq_false hboxed hother hobject)

end World

namespace Registry

variable {reg : Registry} {type : TypeHandle} {info : TypeInfo} {v : Value}

/-- A value of an enumeration is made at the type of the enumeration. -/
theorem convertTo_enum (hinfo : reg.get type = some info) (hkind : info.kind = .enum) :
    reg.convertTo v type = reg.enumOfValue v type := by
  simp [convertTo, hinfo, hkind]

namespace Grounded

/-- A text is made at the type of texts. -/
theorem convertTo_string (h : reg.Grounded) (v : Value) :
    reg.convertTo v .string = (reg.textOfValue v).map .string := by
  have hboxed : TypeHandle.string ∈ boxed := by decide
  obtain ⟨info, hinfo, -, -, hkind⟩ := h.get_boxed hboxed
  simp [convertTo, hinfo, hkind]

/-- A text is read at the types of numbers and truth values. -/
theorem convertTo_text (h : reg.Grounded) (htype : type ∈ boxed) (hstring : type ≠ .string)
    (text : String) : reg.convertTo (.string text) type = valueOfText text type := by
  obtain ⟨info, hinfo, -, -, hkind⟩ := h.get_boxed htype
  simp [convertTo, hinfo, hkind, hstring]

/-- A number is brought to the types of numbers and truth values. -/
theorem convertTo_number (h : reg.Grounded) (htype : type ∈ boxed) (hstring : type ≠ .string)
    {number : Number} (hnumber : Number.ofValue v = some number) :
    reg.convertTo v type = number.toType type := by
  obtain ⟨info, hinfo, -, -, hkind⟩ := h.get_boxed htype
  cases v with
  | string text => cases hnumber
  | _ => simp [convertTo, hinfo, hkind, hstring, hnumber]

end Grounded

end Registry

namespace World

variable {w : World} {v : Value} {type actual : TypeHandle}

/-- A boxed number or truth value is brought to the other types of numbers and truth values. -/
theorem convert_number (hgrounded : w.registry.Grounded) (hactual : directType v = some actual)
    {number : Number} (hnumber : Number.ofValue v = some number) (hboxed : actual ∈ Registry.boxed)
    (htype : type ∈ Registry.boxed) (hstring : type ≠ .string) (hother : type ≠ actual) :
    w.convert v type = number.toType type := by
  rw [convert_boxed hgrounded hactual hboxed hother (Registry.ne_object_of_mem_boxed htype)]
  exact hgrounded.convertTo_number htype hstring hnumber

/-- A text is read at the types of numbers and truth values. -/
theorem convert_text (hgrounded : w.registry.Grounded) (htype : type ∈ Registry.boxed)
    (hstring : type ≠ .string) (text : String) :
    w.convert (.string text) type = valueOfText text type := by
  rw [convert_boxed hgrounded rfl (by decide) hstring (Registry.ne_object_of_mem_boxed htype)]
  exact hgrounded.convertTo_text htype hstring text

/-- A text is made of every value that is of another type and cannot be stored as a text. -/
theorem convert_string (hgrounded : w.registry.Grounded) (hactual : directType v = some actual)
    (hother : w.registry.isAssignable .string actual = false) :
    w.convert v .string = (w.registry.textOfValue v).map .string := by
  rw [convert_of_not_isAssignable hactual hother, hgrounded.convertTo_string]

end World

end Introspect
