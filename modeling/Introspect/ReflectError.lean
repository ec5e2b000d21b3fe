import Introspect.InvokeError
import Introspect.Signature
import Introspect.Text.Quoted

/-!
# `Introspect.ReflectError`: failures to find or prepare an accessor

One constructor for each cause; `kind` sorts them into the kinds that callers tell apart, and
`message` is the text of a failure. A call that fails inside a larger operation keeps its own cause.
-/

set_option autoImplicit false

namespace Introspect

/-- Why an accessor method does not fit a property. -/
inductive ShapeError
  /-- a setter with this many parameters where the index takes some -/
  | setterCount (index found : Nat)
  /-- a setter that takes a parameter by reference -/
  | setterByRef
  /-- a getter with this many parameters where the index takes some -/
  | getterCount (index found : Nat)
  /-- a number of type arguments -/
  | typeArguments (expected : Nat) (received : String)
  /-- a named input that fits neither a parameter nor a member -/
  | input (name found wanted : String)
  deriving DecidableEq

/-- The text of a shape failure. -/
def ShapeError.reason : ShapeError → String
  | setterCount index found =>
    "a setter takes " ++ toString index ++ " index parameters and one value, found " ++
      toString found ++ " parameters"
  | setterByRef => "setter parameters cannot be passed by reference"
  | getterCount index found =>
    "a getter takes " ++ toString index ++ " index parameters, found " ++ toString found
  | typeArguments expected received =>
    "expected " ++ toString expected ++ " type arguments, received [" ++ received ++ "]"
  | input name found wanted =>
    "input " ++ name ++ " of type " ++ found ++ " is incompatible with " ++ wanted ++
      " (conversion was not possible)"

/-- Why a request does not describe one operation. -/
inductive AmbiguousError
  /-- a mapping has no single member -/
  | mappingRequest
  /-- several members of a type match a name -/
  | members (count : Nat) (type name : String)
  /-- several constructors of a type accept the arguments -/
  | constructors (count : Nat) (type params : String)
  /-- an array type without an element type -/
  | noElement (type : String)
  /-- elements of a type that is not an array -/
  | notAnArray (type : String)
  /-- a request in one direction for an accessor of the other -/
  | direction (requested compiled : Direction)
  /-- a member of another kind than the accessor needs -/
  | wrongMember (member : MemberHandle) (wanted : String)
  /-- a position that the type does not have -/
  | noSuchMember (type kind : String) (index : Nat)
  deriving DecidableEq

/-- The text of a direction. -/
def Direction.label : Direction → String
  | read => "Read"
  | write => "Write"

/-- The text of an ambiguity. -/
def AmbiguousError.reason : AmbiguousError → String
  | mappingRequest => "a mapping pairs members, it does not resolve to a single member"
  | members count type name =>
    toString count ++ " members of " ++ type ++ " match '" ++ name ++ "'"
  | constructors count type params =>
    toString count ++ " constructors of " ++ type ++ " accept (" ++ params ++ ")"
  | noElement type => "array type " ++ type ++ " has no element"
  | notAnArray type => type ++ " is not an array type"
  | direction requested compiled =>
    requested.label ++ " request compiled as " ++ compiled.label ++ " accessor"
  | wrongMember _ wanted => "the resolved member is not " ++ wanted
  | noSuchMember type kind index => type ++ " has no " ++ kind ++ " #" ++ toString index

/-- Why a request failed. -/
inductive ReflectError
  /-- no field or property matches -/
  | memberNotFound (type name : String) (flags : Flags)
  /-- no method matches name, binding and parameters -/
  | methodNotFound (type name params : String) (flags : Flags)
  /-- no constructor matches the parameters -/
  | constructorNotFound (type params : String)
  /-- the request does not describe one operation -/
  | ambiguousOperation (cause : AmbiguousError)
  /-- an accessor method or input has the wrong shape -/
  | invalidShape (member : String) (cause : ShapeError)
  /-- a member of a mapping pairs with more than one other -/
  | ambiguousMapping (target : String) (candidates : List String)
  /-- there is no type to resolve against -/
  | unknownType (name : String)
  /-- the call itself failed -/
  | invoke (cause : InvokeError)
  deriving DecidableEq

/-- The text of a failure. -/
def ReflectError.message : ReflectError → String
  | memberNotFound type name flags =>
    "Member not found: " ++ type ++ "." ++ name ++ " (" ++ flags.render ++ ")"
  | methodNotFound type name params flags =>
    "Method not found: " ++ type ++ "." ++ name ++ "(" ++ params ++ ") (" ++ flags.render ++ ")"
  | constructorNotFound type params => "Constructor not found: " ++ type ++ "(" ++ params ++ ")"
  | ambiguousOperation cause => "Ambiguous operation: " ++ cause.reason
  | invalidShape member cause => "Invalid argument shape for " ++ member ++ ": " ++ cause.reason
  | ambiguousMapping target candidates =>
    "Ambiguous mapping for " ++ target ++ ": candidates " ++ Text.quotedList candidates
  | unknownType name => "Unknown type: " ++ name
  | invoke cause => cause.message

end Introspect
