import Introspect.Sample.Describe

/-!
# `Introspect.Sample.Clashes`: fields and methods that are easy to mix up

Fields whose type says less or more than their content, overloads that fit the same arguments, and
names that differ in case.
-/

set_option autoImplicit false

namespace Introspect.Sample

open MemberM (text argInt32 argInt64 argText argAs slotText slotValue setSlotFrom setArg)

/-- A value type with a slot of each built-in type. -/
def wideRecord : Description Blueprint := do
  let b ← inPlace "WideRecord" [] [] [plain "flag" "Flag", plain "small" "Small", plain "big" "big",
    ⟨"text", "Text", false, true, []⟩, plain "any" "Any"]
  let words ← Description.arrayType .string
  return b
    |>.property "WideRecord" "Real" .float64 (slotValue "real") (setSlotFrom "real" .float64)
    |>.readOnlyProperty "WideRecord" "Words" words
      (MemberM.box (.list .string) (.list [.ofText "a", .ofText "b"]))

/-- Slots that hold any value behind fields of a certain type. -/
def holder : Description Blueprint := do
  let person ← Description.typeOf (.described "Person")
  let pet ← Description.typeOf (.described "IPet")
  let pack ← Description.typeOf (.list .value)
  let level ← Description.typeOf (.described "Level")
  let point ← Description.typeOf pointType
  let field (b : Blueprint) (f : String × String × TypeHandle) : Blueprint :=
    b.withField (rawField "Holder" f.1 f.2.1 f.2.2)
  return [("Friend", "friend", person), ("Pet", "pet", pet), ("Anything", "anything", .object),
    ("Pack", "pack", pack), ("Text", "text", .string), ("Level", "level", level),
    ("Point", "point", point)].foldl field (Blueprint.reference "Holder")

/-- The fields of holders at other types. -/
def holderView : Description Blueprint := do
  let named ← Description.typeOf (.described "INamed")
  let employee ← Description.typeOf (.described "Employee")
  return Blueprint.reference "HolderView"
    |>.withField (rawField "HolderView" "Friend" "friend" .object)
    |>.withField (rawField "HolderView" "Pet" "pet" named)
    |>.withField (rawField "HolderView" "Anything" "anything" .string)
    |>.withField (rawField "HolderView" "Text" "text" .string)
    |>.withField (rawField "HolderView" "Boss" "boss" employee)
    |>.withField (rawField "HolderView" "friend" "boss" .object).hidden

/-- Overloads that compete, members that differ in case only, and generic methods. -/
def tangle : Description Blueprint := do
  let animal ← Description.typeOf (.described "Animal")
  let pet ← Description.typeOf (.described "IPet")
  let dog ← Description.typeOf (.described "Dog")
  let run (params : List ParameterInfo) (answer : String) : MethodInfo :=
    .reading "Tangle" "Run" params .string (text answer)
  let field (name slot : String) : FieldInfo :=
    let native := slotType "Tangle" slot
    .ofSlot "Tangle" name slot native (typeOf native)
  let readOnly (name slot : String) : FieldInfo :=
    let native := slotType "Tangle" slot
    .readOnlyOfSlot "Tangle" name slot native (typeOf native)
  let made (s : String) : Instance := (fresh "Tangle").set "s" (.ofText s)
  return Blueprint.reference "Tangle"
    |>.withField (field "name" "s")
    |>.withField ((field "Name" "t").withAttribute (.marker "Key"))
    |>.withField (field "FirstName" "s").hidden
    |>.withField (readOnly "LastName" "t")
    |>.withField (field "count" "a")
    |>.withField (.staticReadOnly "Count" .int32 (.done (.int32 77)))
    |>.withField (field "total" "c").hidden
    |>.withField (readOnly "Total" "b")
    |>.withField (field "Twin" "a")
    |>.withField (field "Twin" "s")
    |>.readOnlyProperty "Tangle" "Value" .int32 (slotValue "a")
    |>.readOnlyProperty "Tangle" "value" .int32 (slotValue "b")
    |>.readOnlyProperty "Tangle" "name" .string (do text ("prop " ++ (← slotText "s")))
    |>.withMethod (run [.byValue "a" .object] "object")
    |>.withMethod (run [.byValue "a" .string] "string")
    |>.withMethod (run [.byValue "a" animal] "animal")
    |>.withMethod (run [.byValue "a" pet] "pet")
    |>.withMethod (run [.byValue "a" dog] "dog")
    |>.withMethod (run [.byValue "a" .int32, .byValue "b" .object] "int,object")
    |>.withMethod (run [.byValue "a" .object, .byValue "b" .int32] "object,int")
    |>.withMethod (run [] "instance")
    |>.withMethod (.static "Run" [] .string (text "static"))
    |>.withMethod { run [.byValue "a" .string] "lower" with name := "run" }
    |>.withMethod (.reading "Tangle" "Same" [.byValue "a" .int32] .string (text "first"))
    |>.withMethod (.reading "Tangle" "Same" [.byValue "b" .int32] .string (text "second"))
    |>.withMethod (.static "Grab" [.byRef "a" .object] .string do
      setArg 0 (.string "grabbed")
      text "ref object")
    |>.withMethod (.static "Grab" [.byValue "a" animal] .string (text "animal"))
    |>.withMethod (.static "Mix" [.byValue "a" .int32, .byRef "b" .int64,
      .out "c" .string, .byRef "d" .object] .int32 do
      let a ← argInt32 0
      let b ← argInt64 1
      setArg 0 (.int32 (-5))
      let c ← MemberM.describe (← MemberM.arg 2)
      setArg 2 (.string (Decimal.ofInt a.toInt ++ "/" ++ Decimal.ofInt b.toInt ++ "/" ++ c))
      setArg 1 (.int64 (b + 1))
      -- The locals have changed by now, but a failure keeps them from the caller.
      if a < 0 then throw (.thrown ("negative " ++ Decimal.ofInt a.toInt))
      setArg 3 .null
      return .int32 a)
    |>.withMethod (.generic "Gen" 0 [] .string true (text "plain"))
    |>.withMethod (.generic "Gen" 1 [] .string true (do text ("<" ++ (← typeArgNames) ++ ">")))
    |>.withMethod (.generic "Gen" 2 [] .string true (do text ("<" ++ (← typeArgNames) ++ ">")))
    |>.withMethod (.generic "Gen" 1 [.byValue "x" .object] .object false (do
      MemberM.cast (← MemberM.arg 0) ((← get).typeArgs.head?.getD .unregistered)))
    |>.withConstructor [.byValue "a" .object, .byValue "b" .int32] (do
      return (made "object,int").set "b" (← argAs .int32 1))
    |>.withConstructor [.byValue "a" .int32, .byValue "b" .object] (do
      return (made "int,object").set "a" (← argAs .int32 0))
    |>.withConstructor [.byValue "a" .int32, .byValue "b" .string] (do
      return (made "int,string").set "a" (← argAs .int32 0))
    |>.hideConstructor
    |>.withConstructor [.byValue "s" .string] (do return made (← argText 0))
    |>.withConstructor [.byValue "t" .string] (do return (made "").set "t" (← argAs .string 0))
    |>.hideConstructor
    |>.withConstructor [.byRef "c" .int64, .out "s" .string] (do
      let c ← argInt64 0
      setArg 0 (.int64 (c * 2))
      setArg 1 (.string "out")
      if c == 13 then throw (.thrown "unlucky")
      return (made "").set "c" (.ofInt64 c))
where
  /-- The type of a built-in native type. -/
  typeOf : NativeType → TypeHandle
    | .int32 => .int32
    | .int64 => .int64
    | _ => .string
  /-- The names of the type arguments. -/
  typeArgNames : MemberM String := do
    return ", ".intercalate (← (← get).typeArgs.mapM MemberM.nameOf)

/-- Names outside of ASCII. -/
def unicode : Description Blueprint := do
  let b ← withHeader "Unicode" (.reference "Ünïcode") [] [] [plain "size" "Größe",
    plain "eclair" "ÉCLAIR", plain "sisyphus" "ΣΊΣΥΦΟΣ", plain "id" "İd", plain "label" "名前",
    plain "kelvin" "K"]
  return b.property "Unicode" "Straße" .string (slotValue "label") (setSlotFrom "label" .string)

end Introspect.Sample
