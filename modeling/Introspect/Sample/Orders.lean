import Introspect.Sample.Describe

/-!
# `Introspect.Sample.Orders`: construction from the values at hand

Types whose constructors compete for named values: by their number, order and type.
-/

set_option autoImplicit false

namespace Introspect.Sample

open MemberM (text argText argAs slotValue setSlot setSlotFrom)

/-- Orders: constructors that share names of parameters in different orders, and methods to choose
from by the values at hand. -/
def order : Description Blueprint := do
  let b ← root "Order" [] [] [plain "id" "Id", plain "qty" "Qty", ⟨"via", "Via", false, true, []⟩,
    ⟨"tag", "_tag", true, false, []⟩, plain "frozen" "frozen", plain "price" "Price",
    plain "status" "Status"]
  let status ← Description.typeOf statusType
  let level ← Description.typeOf (.described "Level")
  let made (via : String) : Instance :=
    (newInstance ⟨.unregistered, status⟩ "Order").set "via" (.ofText via)
  let apply (params : List ParameterInfo) (slot : String) (answer : String) : MethodInfo :=
    .changing "Order" "Apply" params .string do
      setSlot slot (← argAs (slotType "Order" slot) 0)
      text answer
  return b
    |>.property "Order" "Note" .string (slotValue "note") (setSlotFrom "note" .string)
    |>.property "Order" "_Extra" .string (slotValue "note") (fun v => do
      let extra := (← MemberM.unbox .string v).asText
      setSlot "note" (.ofText ("extra " ++ extra)))
    |>.readOnlyProperty "Order" "Frozen" .bool (slotValue "frozen")
    |>.withField (rawField "Order" "Level" "level" level)
    |>.withConstructor [.byValue "id" .int64, .byValue "qty" .int32] (do
      let id ← argAs .int64 0
      return ((made "id,qty").set "id" id).set "qty" (← argAs .int32 1))
    |>.withConstructor [.byValue "qty" .int32, .byValue "id" .int64, .byValue "note" .string] (do
      let qty ← argAs .int32 0
      let id ← argAs .int64 1
      return (((made "qty,id,note").set "qty" qty).set "id" id).set "note" (← argAs .string 2))
    |>.withConstructor [.byValue "id" .int64] (do return (made "id").set "id" (← argAs .int64 0))
    |>.withConstructor [.byValue "note" .string] (do
      let note ← argText 0
      if note == "bad" then throw (.thrown "bad note")
      return (made "note").set "note" (.ofText note))
    |>.withConstructor [.byValue "twin" .int32, .byValue "TWIN" .string] (do
      let qty ← argAs .int32 0
      return ((made "twin,TWIN").set "qty" qty).set "note" (← argAs .string 1))
    |>.withConstructor [.byValue "status" status, .byValue "level" level] (do
      let status ← argAs statusType 0
      return ((made "status,level").set "status" status).set "level" (.value (← MemberM.arg 1)))
    |>.withConstructor [] (pure (made "none"))
    |>.hideConstructor
    |>.withMethod (apply [.byValue "qty" .int32] "qty" "int")
    |>.withMethod (apply [.byValue "flag" .bool] "frozen" "bool")
    |>.withMethod (apply [.byValue "note" .string] "note" "string")
    |>.withMethod (.changing "Order" "Apply" [.byValue "price" .float64, .byRef "id" .int64]
      .string do
      setSlot "price" (← argAs .float64 0)
      setSlot "id" (← argAs .int64 1)
      text "float,ref long")
    |>.withMethod (.static "Pick" [.byValue "status" status] .string do
      text ("status " ++ Decimal.ofInt (((← MemberM.arg 0).asInt64).getD 0).toInt))
    |>.withMethod (.static "Pick" [.byValue "level" level] .string do
      text ("level " ++ Decimal.ofInt (((← MemberM.arg 0).asInt64).getD 0).toInt))
    |>.withMethod (.static "Pick" [.byValue "any" .object] .string do
      text ("any " ++ (← MemberM.describe (← MemberM.arg 0))))

/-- A sample whose members orders can be made from. -/
def orderForm : Description Blueprint := do
  return Blueprint.reference "OrderForm"
    |>.withField (.ofSlot "OrderForm" "ID" "id" .int32 .int32)
    |>.withField (FieldInfo.ofSlot "OrderForm" "hidden" "note" .string .string).hidden
    |>.readOnlyProperty "OrderForm" "Qty" .string (slotValue "qty")
    |>.property "OrderForm" "Note" .string (slotValue "note") (setSlotFrom "note" .string)
    |>.withProperty (propertyOf "Blind" .int32 none (some "set_Note"))
    |>.indexer "OrderForm" [.byValue "i" .int32] .int32 (slotValue "id") (pure ())

/-- A field for the value with a number. -/
def numbered (native : String) (type : TypeHandle) (index : Nat) : FieldInfo :=
  .readWrite native ("f" ++ toString (index + 1)) type
    (fun data => .done ((data.get "vals").asList[index]?.getD default).asValue)
    (fun data v =>
      let items := (data.get "vals").asList
      let padded := items ++ List.replicate (index + 1 - items.length) default
      .done (.ok (), data.set "vals" (.list (padded.set index (.value v)))))

/-- A constructor that keeps its arguments in order. -/
def keeping (native via : String) (type : TypeHandle) (b : Blueprint) (indices : List Nat) :
    Blueprint :=
  b.withConstructor (indices.map fun i => .byValue ("f" ++ toString i) type) do
    let items := (← get).args.map Datum.value
    return ((fresh native).set "via" (.ofText via)).set "vals" (.list items)

/-- The numbers from 1 to `count`. -/
def upTo (count : Nat) : List Nat := (List.range count).map (· + 1)

/-- Many numbered fields, and constructors for the first ones. -/
def costs : Blueprint :=
  let b := (List.range 24).foldl (fun b i => b.withField (numbered "Costs" .int32 i))
    (Blueprint.reference "Costs")
  let b := keeping "Costs" "f1" .int32 b [1]
  let b := keeping "Costs" "f1..f21" .int32 b (upTo 21)
  let b := keeping "Costs" "f1..f22" .int32 b (upTo 22)
  let b := keeping "Costs" "f2,f1" .int32 b [2, 1]
  keeping "Costs" "f1,f2,f3 long" .int64 b [1, 2, 3]

/-- Even more numbered fields, and constructors that take them in other orders. -/
def prices : Blueprint :=
  let b := (List.range 31).foldl (fun b i => b.withField (numbered "Prices" .object i))
    (Blueprint.reference "Prices")
  let b := keeping "Prices" "f2,f1,f3..f8" .object b [2, 1, 3, 4, 5, 6, 7, 8]
  keeping "Prices" "f1..f31" .int64 b (upTo 31)

end Introspect.Sample
