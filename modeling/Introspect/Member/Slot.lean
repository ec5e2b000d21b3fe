import Introspect.Member

/-!
# `Introspect.Member.Slot`: fields backed by one slot

The usual field reads a slot of the instance by boxing its content, and writes it by converting the
value first, so a value that cannot be converted leaves the slot as it was:
`setSlot_error` says so.
-/

set_option autoImplicit false

namespace Introspect.FieldInfo

/-- Reads a slot that stores contents of a native type. -/
def getSlot (slot : String) (native : NativeType) (data : Instance) : Code Value :=
  .box native (data.get slot) .done

/-- Writes a slot that stores contents of a native type. -/
def setSlot (slot : String) (native : NativeType) (data : Instance) (v : Value) :
    Code (Except InvokeError Unit × Instance) :=
  .unbox native v fun
    | .ok content => .done (.ok (), data.set slot content)
    | .error e => .done (.error e, data)

/-- A field backed by a slot. -/
def ofSlot (owner name slot : String) (native : NativeType) (type : TypeHandle) : FieldInfo :=
  readWrite owner name type (getSlot slot native) (setSlot slot native)

/-- A field backed by a slot that cannot be written. -/
def readOnlyOfSlot (owner name slot : String) (native : NativeType) (type : TypeHandle) :
    FieldInfo :=
  readOnly owner name type (getSlot slot native)

/-- A value that cannot be converted leaves the instance as it was. -/
theorem setSlot_error (slot : String) (native : NativeType) (data : Instance) (v : Value)
    (next : Except InvokeError Datum → Code (Except InvokeError Unit × Instance))
    (h : setSlot slot native data v = .unbox native v next) (e : InvokeError) :
    next (.error e) = .done (.error e, data) := by
  simp only [setSlot, Code.unbox.injEq, true_and] at h
  rw [← h]

end Introspect.FieldInfo
