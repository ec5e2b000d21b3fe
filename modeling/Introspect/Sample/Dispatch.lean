import Introspect.Sample.Describe

/-!
# `Introspect.Sample.Dispatch`: slots of the dispatch table

A type with two virtual methods of one name and shape, and a type derived from it.
-/

set_option autoImplicit false

namespace Introspect.Sample

open MemberM (text basePart)

/-- Two virtual methods of one name and shape. -/
def twice : Description Blueprint := do
  let b ← root "Twice" [] [] [plain "tag" "tag"]
  let virtual (name answer : String) : MethodInfo :=
    (MethodInfo.reading "Twice" name [] .string (text answer)).asVirtual
  return b
    |>.withMethod (virtual "Hi" "Twice.Hi 1")
    |>.withMethod (virtual "Hi" "Twice.Hi 2")
    |>.withMethod (virtual "Lo" "Twice.Lo")

/-- Overrides one of them, and adds overloads to another method. -/
def twiceChild : Description Blueprint := do
  let b ← derived "TwiceChild" "Twice" [] [] []
  let lo (params : List ParameterInfo) (answer : String) : MethodInfo :=
    (MethodInfo.reading "TwiceChild" "Lo" params .string (text answer)).asVirtual
  return b
    |>.withMethod (lo [.byValue "a" .int32] "TwiceChild.Lo int")
    |>.withMethod (lo [.byValue "a" .object] "TwiceChild.Lo object")
    |>.withMethod (MethodInfo.changing "TwiceChild" "Hi" [] .string (do
      let base ← basePart
      let tag : Datum := .ofText ((base.get "tag").asText ++ "!")
      modify fun frame => { frame with view := frame.view.setBase (base.set "tag" tag) }
      text "TwiceChild.Hi")).asVirtual

end Introspect.Sample
