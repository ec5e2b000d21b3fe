import Introspect.Sample.Describe

/-!
# `Introspect.Sample.Properties`: properties of every shape

A property names its accessors, and methods of those names need not fit. These types go through the
ways in which they can fail to.
-/

set_option autoImplicit false

namespace Introspect.Sample

open MemberM (argInt32 argText argAs slotInt32 slotValue setSlot setSlotFrom)

/-- A method that reads the first slot. -/
def getA (name : String) : MethodInfo := .reading "Props" name [] .int32 (slotValue "a")

/-- A method that writes the first slot. -/
def setA (name : String) (params : List ParameterInfo) : MethodInfo :=
  .changing "Props" name params .void do
    setSlot "a" (← argAs .int32 0)
    return .null

/-- Properties with accessors that are missing, hidden, renamed, static, generic or of another
shape. -/
def props : Description Blueprint := do
  return Blueprint.reference "Props"
    |>.property "Props" "Plain" .int32
      (do
        setSlot "b" (.ofInt32 ((← slotInt32 "b") + 1))
        slotValue "a")
      (setSlotFrom "a" .int32)
    |>.readOnlyProperty "Props" "ReadOnly" .string (slotValue "s")
    |>.withProperty (propertyOf "WriteOnly" .int32 none (some "set_WriteOnly"))
    |>.withMethod (setA "set_WriteOnly" [.byValue "v" .int32])
    |>.withProperty (propertyOf "Custom" .int32 (some "fetch") (some "store"))
    |>.withMethod (getA "fetch")
    |>.withMethod (setA "store" [.byValue "v" .int32])
    |>.withProperty (propertyOf "Broken" .int32 (some "missing") (some "missing"))
    |>.withProperty (propertyOf "Fallback" .int32 (some "missing") none)
    |>.withMethod (getA "get_Fallback")
    |>.withMethod (setA "set_Fallback" [.byValue "v" .int32])
    |>.withProperty (propertyOf "BadGet" .int32 (some "get_BadGet") none)
    |>.withMethod (.reading "Props" "get_BadGet" [.byValue "i" .int32] .int32 (pure (.int32 0)))
    |>.withProperty (propertyOf "BadSet" .int32 (some "fetch") (some "set_BadSet"))
    |>.withMethod (setA "set_BadSet" [.byRef "v" .int32])
    |>.withProperty (propertyOf "BadSet2" .int32 (some "fetch") (some "set_BadSet2"))
    |>.withMethod (setA "set_BadSet2" [.byValue "v" .int32, .byValue "w" .int32])
    |>.withProperty { propertyOf "Hidden" .int32 (some "fetch") (some "store") with
      visibility := .nonPublic, attributes := [.marker "Sensitive"] }
    |>.withProperty (propertyOf "Semi" .int32 (some "fetch") (some "set_Semi"))
    |>.withMethod (setA "set_Semi" [.byValue "v" .int32]).hidden
    |>.withProperty (propertyOf "Odd" .string (some "fetch") (some "store"))
    |>.withProperty (propertyOf "Generic" .int32 (some "get_Generic") none)
    |>.withMethod ((getA "get_Generic").withArity 1)
    |>.staticProperty "Shared" .int32 (MemberM.load "Shared")
      (fun v => do MemberM.store "Shared" (← MemberM.unbox .int32 v).asValue)
    |>.withProperty (propertyOf "Mixed" .int32 (some "get_Shared") (some "set_Shared"))
    |>.withProperty (propertyOf "Failing" .int32 (some "get_Failing") (some "set_Failing"))
    |>.withMethod (.changing "Props" "get_Failing" [] .int32 do
      setSlot "b" (.ofInt32 ((← slotInt32 "b") + 10))
      throw (.thrown "getter failed"))
    |>.withMethod (.changing "Props" "set_Failing" [.byValue "v" .int32] .void do
      setSlot "a" (← argAs .int32 0)
      throw (.thrown "setter failed"))
    |>.indexer "Props" [.byValue "i" .int32, .byValue "key" .string] .int32
      (do
        let i ← argInt32 0
        let key ← argText 1
        return .int32 ((← slotInt32 "a") + i + Int32.ofNat key.utf8ByteSize))
      (do
        let i ← argInt32 0
        setSlot "a" (.ofInt32 (i + (← argInt32 2)))
        setSlot "s" (← argAs .string 1))
    |>.withMethod (getA "get_Loose")
    |>.withMethod (setA "set_Loose" [.byValue "v" .int32])
    |>.withMethod (getA "GET_SHOUT")

/-- Properties that hide those of the base, and an accessor that the base falls back on. -/
def propsChild : Description Blueprint := do
  let props ← Description.typeOf (.described "Props")
  return (Blueprint.reference "PropsChild").extending "PropsChild" props
    |>.withProperty (propertyOf "Plain" .string (some "get_ReadOnly") none)
    |>.withProperty (propertyOf "Custom" .int32 none none)
    |>.withField (.ofSlot "PropsChild" "Extra" "extra" .int32 .int32)
    |>.withMethod (.reading "PropsChild" "get_Fallback" [] .int32 (slotValue "extra"))

end Introspect.Sample
