import Introspect.Sample.Amounts
import Introspect.Sample.Animals
import Introspect.Sample.Clashes
import Introspect.Sample.Dispatch
import Introspect.Sample.Orders
import Introspect.Sample.People
import Introspect.Sample.Properties
import Introspect.World

/-!
# `Introspect.Sample.Family`: all sample types, and a world in which they are registered

The family says how each sample type is described. `world` is a world with all of them registered,
in the order of the family except for the two that others ask for first.
-/

set_option autoImplicit false

namespace Introspect.Sample

open MemberM (text)

/-- An interface and the interfaces that it declares. -/
def interface (name : String) (bases : List String) : NativeType × Description Blueprint :=
  (.described name, withHeader name (.interface name) bases [] [])

/-- How each sample type is described. -/
def family : Family := [
  (.described "Greeter", withHeader "Greeter" (.interface "IGreeter") [] [] []),
  (pointType, point),
  (.described "Person", person),
  (.described "Employee", employee),
  (colorType, pure (enumeration "Color" [] [("Red", 0, ["Primary"]), ("Green", 1, []),
    ("Blue", 2, [])])),
  (.described "Bag", bag),
  (.described "PersonRecord", root "PersonRecord" [] [] [plain "name" "Name", plain "age" "Age"]),
  (.described "PersonView", personView),
  (.described "Badge", root "Badge" [] [] [plain "name" "name"]),
  (.described "DuplicateNames",
    root "DuplicateNames" [] [] [plain "name" "name", plain "display_name" "Name"]),
  (.described "INamed", pure ((Blueprint.interface "INamed").withAttribute (.marker "Contract"))),
  interface "IPet" ["INamed"],
  (.described "IShape", pure ((Blueprint.interface "IShape").withMethod
    (.static "Kind" [] .string (text "shape")))),
  interface "IDiamond" ["IPet", "INamed", "IPet"],
  interface "ILeft" ["IRight"],
  interface "IRight" ["ILeft"],
  (.described "Animal", animal),
  (.described "Dog", dog),
  (.described "Puppy", puppy),
  (.described "Cat", cat),
  (.described "Robot", root "Robot" ["ILeft"] [] [plain "model" "model"]),
  (.described "Parent", parent),
  (.described "Child", child),
  (.described "Node", node),
  (.struct "Vec2", vec2),
  (.struct "Money", money),
  (.struct "Segment", segment),
  (.struct "EmptyStruct", inPlace "EmptyStruct" [] [] []),
  (statusType, pure (enumeration "Status" ["Flags"] [("Unknown", -1, []), ("Off", 0, []),
    ("On", 1, ["Primary", "Bright"]), ("half", 50, [])])),
  (.described "Level", level),
  (.described "Wide", root "Wide" [] [] [plain "flag" "Flag", plain "small" "Small",
    plain "big" "Big", plain "real" "Real", plain "text" "Text", plain "status" "Status",
    plain "spot" "Spot", plain "numbers" "Numbers", plain "words" "Words", plain "grid" "Grid",
    plain "any" "Any"]),
  (.struct "WideRecord", wideRecord),
  (.described "Holder", holder),
  (.described "HolderView", holderView),
  (.described "Tangle", tangle),
  (.described "Empty", root "Empty" [] [] []),
  (.described "Unicode", unicode),
  (.described "Props", props),
  (.described "PropsChild", propsChild),
  (.described "Order", order),
  (.described "OrderForm", orderForm),
  (.described "Costs", pure costs),
  (.described "Prices", pure prices),
  (.described "Twice", twice),
  (.described "TwiceChild", twiceChild)]

/-- The types in the order of their registration. The others are registered on the way. -/
def registered : List NativeType :=
  (family.map (·.1)).filter fun native =>
    native != .described "IRight" && native != .described "Child"

/-- A registry of the sample types. -/
def registry : Registry := Registry.initial.requestAll family registered

/-- A world with the sample types, and with their static storage as it starts out. -/
def world : World :=
  { World.ofRegistry registry with
    statics := [("Population", .int32 0), ("Count", .int32 0), ("Shared", .int32 0),
      ("Rate", .float64 .zero)] }

/-- The types of what slots hold in place. -/
def innerTypes : InnerTypes :=
  ⟨(registry.natives.lookup pointType).getD .unregistered,
    (registry.natives.lookup statusType).getD .unregistered⟩

/-- The layouts of the native types, with instances of the registered types in their slots. -/
def storage : List (String × Layout) := layouts innerTypes

/-- The layout of a native type. -/
def layoutOf? (native : String) : Option Layout := storage.lookup native

/-- The native type of a described type. One type is registered under another name. -/
def nativeOf (type : String) : String := if type = "Ünïcode" then "Unicode" else type

end Introspect.Sample
