import Introspect.Member.Typed
import Introspect.Registration
import Introspect.Sample.Storage

/-!
# `Introspect.Sample.Describe`: types described along with their slots

Most sample types expose slots as fields. These functions start a description with a base,
interfaces, markers and such fields; what else a type has is added to their result. The types of
base, interfaces and fields are asked for in that order.
-/

set_option autoImplicit false

namespace Introspect.Sample

/-- A slot that is exposed as a field. -/
structure ExposedSlot where
  slot : String
  name : String
  isHidden : Bool
  isReadOnly : Bool
  /-- the markers of the field -/
  markers : List String

/-- A public field that can be written. -/
def plain (slot name : String) : ExposedSlot := ⟨slot, name, false, false, []⟩

/-- A public field that can be written, with markers. -/
def marked (slot name : String) (markers : List String) : ExposedSlot :=
  ⟨slot, name, false, false, markers⟩

/-- A public field that cannot be written. -/
def readOnly (slot name : String) : ExposedSlot := ⟨slot, name, false, true, []⟩

/-- Adds the field of an exposed slot. -/
def addSlot (native : String) (b : Blueprint) (s : ExposedSlot) : Description Blueprint := do
  let type ← Description.typeOf (slotType native s.slot)
  let make := if s.isReadOnly then FieldInfo.readOnlyOfSlot else FieldInfo.ofSlot
  let field := make native s.name s.slot (slotType native s.slot) type
  let field := if s.isHidden then field.hidden else field
  return b.withField (s.markers.foldl (fun f marker => f.withAttribute (.marker marker)) field)

/-- Declares interfaces and markers, then fields. -/
def withHeader (native : String) (b : Blueprint) (interfaces markers : List String)
    (slots : List ExposedSlot) : Description Blueprint := do
  let b ← interfaces.foldlM (fun (b : Blueprint) i => do
    return b.implementing (← Description.typeOf (.described i))) b
  let b := markers.foldl (fun b marker => b.withAttribute (.marker marker)) b
  slots.foldlM (addSlot native) b

/-- A reference type without a base. -/
def root (native : String) (interfaces markers : List String) (slots : List ExposedSlot) :
    Description Blueprint :=
  withHeader native (.reference native) interfaces markers slots

/-- A reference type with a base. -/
def derived (native base : String) (interfaces markers : List String)
    (slots : List ExposedSlot) : Description Blueprint := do
  let type ← Description.typeOf (.described base)
  withHeader native ((Blueprint.reference native).extending native type) interfaces markers slots

/-- A value type. -/
def inPlace (native : String) (interfaces markers : List String) (slots : List ExposedSlot) :
    Description Blueprint := do
  let point ← if native = "Segment" then Description.typeOf pointType else pure .unregistered
  withHeader native (.struct native (newInstance ⟨point, .unregistered⟩ native)) interfaces
    markers slots

/-- An enumeration of members with markers. -/
def enumeration (name : String) (markers : List String)
    (members : List (String × Int64 × List String)) : Blueprint :=
  let b := markers.foldl (fun b marker => b.withAttribute (.marker marker))
    (Blueprint.enumeration name)
  members.foldl (fun b (member, value, markers) =>
    markers.foldl (fun b marker => b.withMemberAttribute member (.marker marker))
      (b.variant member value)) b

/-- A field that keeps values as they are. -/
def rawField (native name slot : String) (type : TypeHandle) : FieldInfo :=
  .ofSlot native name slot .value type

/-- A property with named accessors that are described elsewhere. -/
def propertyOf (name : String) (type : TypeHandle) (getter setter : Option String) :
    PropertyInfo :=
  { name, type, visibility := .isPublic, isStatic := false, indexTypes := [], getter, setter
    attributes := [] }

/-- Stores a static variable after converting the value. -/
def storeStatic (key : String) (native : NativeType) (v : Value) :
    Code (Except InvokeError Unit) :=
  .unbox native v fun
    | .ok content => .store key content.asValue (.done (.ok ()))
    | .error e => .done (.error e)

end Introspect.Sample
