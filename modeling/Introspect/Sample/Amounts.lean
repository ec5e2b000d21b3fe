import Introspect.Sample.Describe

/-!
# `Introspect.Sample.Amounts`: value types and an enumeration

Instances of these types are copied with the value that holds them. `Money` fails in the middle of a
change, which shows when changes are written back.
-/

set_option autoImplicit false

namespace Introspect.Sample

open MemberM (text argInt32 argInt64 argFloat argText argAs slotInt64 slotFloat slotText
  slotValue setSlot setArg)

/-- Vectors of floating-point numbers. -/
def vec2 : Description Blueprint := do
  let b ← inPlace "Vec2" [] [] [plain "x" "X", plain "y" "Y"]
  let vec2 ← Description.typeOf (.struct "Vec2")
  let made (x y : Float) : Instance := ((fresh "Vec2").set "x" (.ofFloat x)).set "y" (.ofFloat y)
  return b
    |>.withMethod (.changing "Vec2" "Scale" [.byValue "factor" .float64] .void do
      let k ← argFloat 0
      setSlot "x" (.ofFloat ((← slotFloat "x") * k))
      setSlot "y" (.ofFloat ((← slotFloat "y") * k))
      return .null)
    |>.withMethod (.reading "Vec2" "Dot" [.byValue "other" vec2] .float64 do
      match (← argAs (.struct "Vec2") 0).asValue with
      | .struct _ o =>
        let x := (← slotFloat "x") * (o.get "x").asFloat
        let y := (← slotFloat "y") * (o.get "y").asFloat
        return .float64 ⟨(x + y).toBits⟩
      | _ => return .null)
    |>.withConstructor [.byValue "x" .float64, .byValue "y" .float64] (do
      let x ← argFloat 0
      return made x (← argFloat 1))
    |>.withConstructor [.byValue "both" .float64] (do
      let both ← argFloat 0
      return made both both)

/-- An amount in a currency. -/
def newMoney (amount : Int64) (currency : String) : Instance :=
  ((fresh "Money").set "amount" (.ofInt64 amount)).set "currency" (.ofText currency)

/-- Amounts of money, whose members fail after they have changed the receiver. -/
def money : Description Blueprint := do
  let money ← Description.typeOf (.struct "Money")
  let shape ← Description.typeOf (.described "IShape")
  return (Blueprint.struct "Money" (newMoney 0 "USD"))
    |>.implementing shape
    |>.withField ((FieldInfo.ofSlot "Money" "Amount" "amount" .int64 .int64).withAttribute
      (.marker "Column"))
    |>.withField (.readOnlyOfSlot "Money" "Currency" "currency" .string .string)
    |>.staticProperty "Rate" .float64 (MemberM.load "Rate")
      (fun v => do MemberM.store "Rate" (← MemberM.unbox .float64 v).asValue)
    |>.property "Money" "Cents" .int64
      (do return .int64 ((← slotInt64 "amount") * 100))
      (fun v => do
        let cents := (← MemberM.unbox .int64 v).asInt64
        -- The amount is stored even if the cents are refused.
        setSlot "amount" (.ofInt64 (cents / 100))
        if cents % 100 != 0 then throw (.rejected (Decimal.ofInt cents.toInt ++ " cents")))
    |>.withMethod (.changing "Money" "Add" [.byValue "other" money] money do
      let v ← MemberM.arg 0
      match v with
      | .struct _ data =>
        if data.native = "Money" then
          let amount := (← slotInt64 "amount") + (data.get "amount").asInt64
          setSlot "amount" (.ofInt64 amount)
          return .struct money (← get).view
        else throw (.wrongType "Money" (← MemberM.describe v))
      | _ => throw (.wrongType "Money" (← MemberM.describe v)))
    |>.withMethod (.changing "Money" "Spend" [.byValue "amount" .int64] .int64 do
      let spent ← argInt64 0
      let amount := (← slotInt64 "amount") - spent
      setSlot "amount" (.ofInt64 amount)
      if amount < 0 then throw (.thrown ("overdrawn by " ++ Decimal.ofInt (-amount).toInt))
      return .int64 amount)
    |>.withMethod (.reading "Money" "TrySplit"
      [.byValue "parts" .int32, .out "each" .int64, .out "currency" .string] .bool do
      let parts ← argInt32 0
      if parts ≤ 0 then return .bool false
      setArg 0 (.int32 (-1))
      setArg 1 (.int64 ((← slotInt64 "amount") / parts.toInt64))
      setArg 2 (← slotValue "currency")
      return .bool true)
    |>.withMethod (MethodInfo.reading "Money" "Describe" [] .string (do
      let amount := Decimal.ofInt (← slotInt64 "amount").toInt
      text (amount ++ " " ++ (← slotText "currency")))).asVirtual
    |>.withConstructor [.byValue "amount" .int64, .byValue "currency" .string] (do
      let amount ← argInt64 0
      if amount < 0 then throw (.thrown "negative amount")
      return newMoney amount (← argText 1))
    |>.withConstructor [] (pure (newMoney 1 "NONE"))

/-- Segments hold two points in place. -/
def segment : Description Blueprint :=
  inPlace "Segment" ["IShape"] ["Geometry"] [plain "a" "A", plain "b" "B",
    marked "label" "Label" ["Key"], ⟨"secret", "secret", true, true, []⟩]

/-- Levels have equal numbers, members that share attributes, and fields that are no members. -/
def level : Description Blueprint := do
  let level ← Description.typeOf (.described "Level")
  let color ← Description.typeOf colorType
  return Blueprint.enumeration "Level"
    |>.variant "Low" 1
    |>.variant "Alias" 1
    |>.withMemberAttribute "Low" ⟨"Note", .string "lo"⟩
    |>.withMemberAttribute "Low" ⟨"Note", .string "second"⟩
    |>.withMemberAttribute "Alias" (.marker "Dup")
    |>.withMemberAttribute "High" (.marker "Tall")
    |>.withMemberAttribute "Foreign" (.marker "Alien")
    |>.variant "High" 10
    |>.variant "Max" Int64.maxValue
    |>.variant "Min" Int64.minValue
    |>.variant "7" 70
    |>.variant "A.B" 5
    |>.variant "C" 6
    |>.variant "Größe" 8
    |>.withField (.constant "Magic" .int32 (.int32 99))
    |>.withField (.staticReadOnly "Origin" .string (.done (.string "here")))
    |>.withField (.constant "Foreign" color (.enum color 10))
    |>.withMethod (.static "Next" [.byValue "of" level] level do
      match (← get).args with
      | .enum type value :: _ => return .enum type (value + 1)
      | other :: _ => return other
      | [] => return .null)

end Introspect.Sample
