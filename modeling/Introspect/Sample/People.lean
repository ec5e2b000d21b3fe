import Introspect.Sample.Describe

/-!
# `Introspect.Sample.People`: points, persons and what they carry

The smallest types that use each kind of member once. `Person` copies from and greets other persons,
`Employee` overrides a method, `Bag` has an indexer.
-/

set_option autoImplicit false

namespace Introspect.Sample

open MemberM (text argInt32 argText slotInt32 slotText slotValue setSlot setSlotFrom setArg
  basePart objectArg)

/-- Points count how often they are visited. -/
def point : Description Blueprint := do
  let b ← inPlace "Point" [] [] [plain "x" "X", plain "y" "Y"]
  return (b.readOnlyProperty "Point" "Visits" .int32 do
      let visits := (← slotInt32 "visits") + 1
      setSlot "visits" (.ofInt32 visits)
      return .int32 visits)
    |>.withMethod (.changing "Point" "Offset" [.byValue "dx" .int32, .byValue "dy" .int32] .void do
      -- The first slot is written before the second argument is converted.
      let dx ← argInt32 0
      setSlot "x" (.ofInt32 ((← slotInt32 "x") + dx))
      let dy ← argInt32 1
      setSlot "y" (.ofInt32 ((← slotInt32 "y") + dy))
      return .null)

/-- The summary of a person. -/
def summary (person : Instance) : String :=
  (person.get "name").asText ++ " (" ++ Decimal.ofInt ((person.get "age").asInt32).toInt ++ ")"

/-- A person with a name and an age. -/
def newPerson (name : String) (age : Int32) : Instance :=
  ((fresh "Person").set "name" (.ofText name)).set "age" (.ofInt32 age)

/-- Persons have fields of every kind, methods that read and change other persons, and several
constructors, one of which is hidden. -/
def person : Description Blueprint := do
  let b ← root "Person" ["Greeter"] ["Serializable"] [
    marked "age" "Age" ["Indexed"],
    ⟨"secret", "secret", true, false, ["Sensitive"]⟩,
    ⟨"id", "Id", false, true, []⟩]
  let person ← Description.typeOf (.described "Person")
  return b
    |>.withMemberAttribute "Name" ⟨"Column", .string "full_name"⟩
    |>.withMemberAttribute "AddYears" (.marker "Mutator")
    |>.withField (FieldInfo.readOnlyOfSlot "Person" "<Nickname>k__BackingField" "nickname" .string
      .string).hidden
    |>.withField (.staticReadWrite "Population" .int32
      (.load "Population" .done) (storeStatic "Population" .int32))
    |>.property "Person" "Name" .string (slotValue "name") (setSlotFrom "name" .string)
    |>.withMethod (.changing "Person" "get_Nickname" [] .string (slotValue "nickname"))
    |>.withMethod (.changing "Person" "set_Nickname" [] .void (pure .null))
    |>.withMethod (.changing "Person" "AddYears" [.byValue "years" .int32] .int32 do
      let age := (← slotInt32 "age") + (← argInt32 0)
      setSlot "age" (.ofInt32 age)
      return .int32 age)
    |>.withMethod (.reading "Person" "Greet" [.byValue "other" person] .string do
      let other ← MemberM.inspect (← objectArg "no other person") person "Person"
      text ("Hello " ++ (other.get "name").asText ++ ", I am " ++ (← slotText "name")))
    |>.withMethod (.changing "Person" "CopyFrom" [.byValue "other" person] .void do
      let other ← MemberM.inspect (← objectArg "no other person") person "Person"
      setSlot "name" (other.get "name")
      setSlot "age" (other.get "age")
      return .null)
    |>.withMethod (MethodInfo.reading "Person" "Describe" [] .string (do
      text (summary (← get).view))).asVirtual
    |>.withMethod (.static "Create" [.byValue "name" .string] person do
      MemberM.create person (newPerson (← argText 0) 0))
    |>.withMethod (.static "Swap" [.byRef "a" .int32, .byRef "b" .int32] .void do
      match (← get).args with
      | [a, b] =>
        setArg 0 b
        setArg 1 a
      | _ => pure ()
      return .null)
    |>.withMethod (.static "TryHalve" [.byValue "value" .int32, .out "half" .int32] .bool do
      let value ← argInt32 0
      let even := value % 2 == 0
      setArg 1 (.int32 (if even then value / 2 else 0))
      return .bool even)
    |>.withMethod (.generic "Default" 1 [] .object true do
      match (← get).typeArgs with
      | type :: _ => MemberM.zeroOf type
      | [] => throw (.rejected "missing type argument"))
    |>.withConstructor [.byValue "name" .string, .byValue "age" .int32] (do
      let name ← argText 0
      return newPerson name (← argInt32 1))
    |>.withConstructorAttribute (.marker "Preferred")
    |>.withConstructor [.byRef "seed" .int32] (do
      let seed ← argInt32 0
      setArg 0 (.int32 (seed + 1))
      return newPerson "" seed)
    |>.withConstructor [] (pure (fresh "Person"))
    |>.hideConstructor

/-- Employees describe themselves along with their company. -/
def employee : Description Blueprint := do
  let b ← derived "Employee" "Person" [] ["Audited"] [plain "company" "Company"]
  return b.withMethod (MethodInfo.changing "Employee" "Describe" [] .string (do
    text (summary (← basePart) ++ " at " ++ (← slotText "company")))).asVirtual

/-- The place of an item in a bag. -/
def bagIndex : MemberM (Nat × List Datum) := do
  let index := (← argInt32 0).toInt
  let items := (← MemberM.slot "items").asList
  if 0 ≤ index ∧ index.toNat < items.length then return (index.toNat, items)
  else throw (.indexOutOfRange index.toNat items.length)

/-- Bags are read and written through an indexer. -/
def bag : Description Blueprint := do
  let b ← root "Bag" [] [] []
  return b.indexer "Bag" [.byValue "index" .int32] .string
    (do
      let (index, items) ← bagIndex
      return (items[index]?.getD default).asValue)
    (do
      let value ← argText 1
      let (index, items) ← bagIndex
      setSlot "items" (.list (items.set index (.ofText value))))

/-- A view of persons, where the name is a property. -/
def personView : Description Blueprint := do
  let b ← root "PersonView" [] [] [plain "age" "Age"]
  return b.property "PersonView" "Name" .string (slotValue "name") (setSlotFrom "name" .string)

end Introspect.Sample
