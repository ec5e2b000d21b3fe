import Introspect.Sample.Describe

/-!
# `Introspect.Sample.Animals`: types with bases and overrides

A chain of three bases with virtual methods, a pair of types that refer to each other while they are
described, and a type that refers to itself.
-/

set_option autoImplicit false

namespace Introspect.Sample

open MemberM (text argInt32 argInt64 argText argBool argAs slotInt32 slotInt64 slotText slotValue
  setSlot setSlotFrom basePart objectArg)

/-- An animal with a name, legs and energy. -/
def newAnimal (name : String) (legs : Int32) (energy : Int64) : Instance :=
  (((fresh "Animal").set "name" (.ofText name)).set "legs" (.ofInt32 legs)).set "energy"
    (.ofInt64 energy)

/-- Animals: virtual methods, methods that lock other animals, and static storage. -/
def animal : Description Blueprint := do
  let b ← root "Animal" ["INamed"] ["Living"] [
    marked "name" "Name" ["Column", "Key"], plain "legs" "Legs",
    ⟨"energy", "energy", true, false, ["Sensitive"]⟩]
  let animal ← Description.typeOf (.described "Animal")
  let named ← Description.typeOf (.described "INamed")
  return b
    |>.withAttribute ⟨"Table", .string "animals"⟩
    |>.withField (.staticReadWrite "Count" .int32
      (.load "Count" .done) (storeStatic "Count" .int32))
    |>.withField (.staticReadOnly "Kingdom" .string (.done (.string "Animalia")))
    |>.withField (FieldInfo.constant "MaxLegs" .int32 (.int32 100)).hidden
    |>.withMethod (MethodInfo.reading "Animal" "Speak" [] .string (do
      text ((← slotText "name") ++ " makes a sound"))).asVirtual
    |>.withMethod (MethodInfo.changing "Animal" "Move" [.byValue "distance" .int32] .int64 (do
      let distance ← argInt32 0
      let energy := (← slotInt64 "energy") - distance.toInt64
      setSlot "energy" (.ofInt64 energy)
      return .int64 energy)).asVirtual
    |>.withMethod (.reading "Animal" "Tag" [] .string do
      text ("animal:" ++ (← slotText "name")))
    |>.withMethod (.changing "Animal" "Rename" [.byValue "name" .string] .void do
      setSlot "name" (← argAs .string 0)
      return .null)
    |>.withMethod ((MethodInfo.changing "Animal" "Eat" [.byValue "amount" .int64] .int64 (do
      let amount ← argInt64 0
      let energy := (← slotInt64 "energy") + amount
      setSlot "energy" (.ofInt64 energy)
      return .int64 energy)).hidden.withAttribute (.marker "Mutator"))
    |>.withMethod (.changing "Animal" "Fail" [.byValue "message" .string] .void do
      setSlot "legs" (.ofInt32 ((← slotInt32 "legs") + 1))
      throw (.thrown (← argText 0)))
    |>.withMethod (.reading "Animal" "Meet" [.byValue "other" named] .string do
      let other ← MemberM.describe ((← get).args.head?.getD .null)
      text ((← slotText "name") ++ " meets " ++ other))
    |>.withMethod (.changing "Animal" "Absorb" [.byValue "other" animal] .int32 do
      let other ← MemberM.inspect (← objectArg "no other animal") animal "Animal"
      let legs := (← slotInt32 "legs") + (other.get "legs").asInt32
      setSlot "legs" (.ofInt32 legs)
      return .int32 legs)
    |>.withMethod (.reading "Animal" "Tire" [.byValue "other" animal] .void do
      let legs ← slotInt32 "legs"
      let other ← objectArg "no other animal"
      MemberM.update other animal "Animal" fun data =>
        data.set "energy" (.ofInt64 ((data.get "energy").asInt64 - legs.toInt64))
      return .null)
    |>.withMethod (MethodInfo.static "Zap" [] .int32 (pure (.int32 1))).asVirtual
    |>.withMethod (.static "Parse" [.byValue "text" .string] animal do
      MemberM.create animal (newAnimal (← argText 0) 0 0))
    |>.withConstructor [.byValue "name" .string] (do return newAnimal (← argText 0) 4 10)
    |>.withConstructor [.byValue "name" .string, .byValue "legs" .int32] (do
      let name ← argText 0
      return newAnimal name (← argInt32 1) 0)
    |>.withConstructorAttribute (.marker "Preferred")
    |>.withConstructorAttribute ⟨"Order", .int32 2⟩

/-- Dogs hide the name of animals behind one of their own, and overload and override methods. -/
def dog : Description Blueprint := do
  let b ← derived "Dog" "Animal" ["IPet"] [] [plain "breed" "Breed", plain "nick" "Name",
    ⟨"barks", "Barks", false, true, []⟩]
  return b
    |>.property "Dog" "Mood" .string (slotValue "mood") (setSlotFrom "mood" .string)
    |>.withMemberAttribute "Mood" ⟨"Range", .int32 3⟩
    |>.withMemberAttribute "get_Mood" (.marker "Accessor")
    |>.withMethod (MethodInfo.changing "Dog" "Speak" [] .string (do
      let barks := (← slotInt32 "barks") + 1
      setSlot "barks" (.ofInt32 barks)
      let name := ((← basePart).get "name").asText
      text (name ++ " barks " ++ Decimal.ofInt barks.toInt))).asVirtual
    |>.withMethod (MethodInfo.reading "Dog" "Speak" [.byValue "times" .int32] .string (do
      let times := (← argInt32 0).toInt
      if times < 0 ∨ 10 < times then throw (.rejected ("times " ++ Decimal.ofInt times))
      text (" ".intercalate (List.replicate times.toNat "woof")))).asVirtual
    |>.withMethod (.reading "Dog" "Tag" [] .string do text ("dog:" ++ (← slotText "nick")))
    |>.withMethod (MethodInfo.reading "Dog" "Fetch" [.byValue "item" .string] .string (do
      text ((← slotText "nick") ++ " fetches " ++ (← argText 0)))).asVirtual
    |>.withConstructor [.byValue "name" .string, .byValue "breed" .string] (do
      let name ← argText 0
      return ((fresh "Dog").setBase (newAnimal name 4 10)).set "breed" (.ofText (← argText 1)))

/-- Puppies override a method of animals that dogs leave alone. -/
def puppy : Description Blueprint := do
  let b ← derived "Puppy" "Dog" [] [] [plain "weeks" "Weeks"]
  return b
    |>.readOnlyProperty "Puppy" "Mood" .string (text "sleepy")
    |>.withMethod (MethodInfo.reading "Puppy" "Speak" [.byValue "loud" .bool] .string (do
      text (if ← argBool 0 then "YIP" else "yip"))).asVirtual
    |>.withMethod (MethodInfo.reading "Puppy" "Move" [.byValue "distance" .int32] .int64 (do
      return .int64 ((← argInt32 0).toInt64 + (← slotInt32 "weeks").toInt64))).asVirtual
    |>.withMethod (MethodInfo.reading "Puppy" "Fetch" [.byValue "item" .string] .string (do
      text (((← basePart).get "nick").asText ++ " drops " ++ (← argText 0)))).asVirtual

/-- Cats have a method of the name and shape of a virtual one that is not virtual itself. -/
def cat : Description Blueprint := do
  let b ← derived "Cat" "Animal" ["IDiamond"] [] [plain "lives" "Lives"]
  return b.withMethod (.reading "Cat" "Speak" [] .string (text "meow"))

/-- This type asks for the type derived from it while it is described. -/
def parent : Description Blueprint := do
  let b ← root "Parent" [] [] [plain "tag" "tag"]
  -- The derived type is described here, while this one has no dispatch table yet.
  let child ← Description.typeOf (.described "Child")
  return b
    |>.withMethod (MethodInfo.reading "Parent" "First" [] .string (do
      text ("Parent.First " ++ (← slotText "tag")))).asVirtual
    |>.withMethod (MethodInfo.reading "Parent" "Who" [] .string (do
      text ("Parent.Who " ++ (← slotText "tag")))).asVirtual
    |>.withMethod (.static "Spawn" [] child (MemberM.create child (fresh "Child")))

/-- The type that is described before its base is complete. -/
def child : Description Blueprint := do
  let b ← derived "Child" "Parent" [] [] [plain "extra" "extra"]
  return b.withMethod (MethodInfo.reading "Child" "Who" [] .string (do
    text ("Child.Who " ++ ((← basePart).get "tag").asText))).asVirtual

/-- Nodes refer to other nodes, alone and in arrays. -/
def node : Description Blueprint := do
  let node ← Description.typeOf (.described "Node")
  let kids ← Description.arrayType node
  return Blueprint.reference "Node"
    |>.withField (.ofSlot "Node" "Label" "label" .string .string)
    |>.withField (rawField "Node" "Next" "next" node)
    |>.withField (rawField "Node" "Kids" "kids" kids)
    |>.withConstructor [.byValue "label" .string, .byValue "next" node] (do
      let label ← argText 0
      return ((fresh "Node").set "label" (.ofText label)).set "next" (.value (← MemberM.arg 1)))

end Introspect.Sample
