import Introspect.Query

/-!
# `Introspect.Attribute`: metadata of types and members

Attributes are looked up by name, exactly as spelled, in the order of their declaration. Members can
be selected by the attributes that they carry; an empty list of names selects every member. A member
of an enumeration is found by its value alone.

`named_nil` says that an empty list of names takes all attributes.
-/

set_option autoImplicit false

namespace Introspect

namespace Attribute

/-- The first attribute of a name. -/
def first? (attributes : List Attribute) (name : String) : Option Attribute :=
  attributes.find? fun a => a.name == name

/-- The attributes that have one of these names; all of them when no name is given. -/
def named (attributes : List Attribute) (names : List String) : List Attribute :=
  attributes.filter fun a => names.isEmpty || names.contains a.name

/-- Whether there is an attribute of a name. -/
def has (attributes : List Attribute) (name : String) : Bool := (first? attributes name).isSome

/-- Whether there is an attribute of one of these names; of any name when none is given. -/
def hasAny (attributes : List Attribute) (names : List String) : Bool :=
  !(named attributes names).isEmpty

/-- Whether there are attributes of all these names. -/
def hasAll (attributes : List Attribute) (names : List String) : Bool :=
  names.all fun name => has attributes name

/-- Without names all attributes are taken. -/
theorem named_nil (attributes : List Attribute) : named attributes [] = attributes := by
  simp [named]

end Attribute

/-- A member of one of four kinds. -/
inductive AnyMember
  | field (info : FieldInfo)
  | property (info : PropertyInfo)
  | method (info : MethodInfo)
  | constructor (info : ConstructorInfo)

namespace AnyMember

/-- The kind of a member. -/
def kind : AnyMember → MemberKind
  | field _ => .field
  | property _ => .property
  | method _ => .method
  | constructor _ => .constructor

/-- The name of a member. -/
def name : AnyMember → String
  | field info => info.name
  | property info => info.name
  | method info => info.name
  | constructor _ => ".ctor"

/-- The attributes of a member. -/
def attributes : AnyMember → List Attribute
  | field info => info.attributes
  | property info => info.attributes
  | method info => info.attributes
  | constructor info => info.attributes

end AnyMember

namespace Query

/-- Members of any kind from members of one kind. -/
def asAny {α : Type} (wrap : α → AnyMember) (found : List (Declared α)) :
    List (Declared AnyMember) :=
  found.map fun d => ⟨d.declaring, wrap d.member⟩

/-- The members of a kind; kinds that are not declared in types have none. -/
def membersOfKind (reg : Registry) (type : TypeHandle) (flags : Flags) (kind : MemberKind) :
    Except ReflectError (List (Declared AnyMember)) :=
  match kind with
  | .field => (fields reg type flags []).map (asAny .field)
  | .property => (properties reg type flags []).map (asAny .property)
  | .method => (methods reg type flags []).map (asAny .method)
  | .constructor =>
    (constructors reg type flags).map fun found => found.map fun c => ⟨type, .constructor c⟩
  | .element | .mapping => .ok []

/-- The members that carry an attribute of one of these names; all of them when no name is given. -/
def attributed (names : List String) (found : List (Declared AnyMember)) :
    List (Declared AnyMember) :=
  if names.isEmpty then found
  else found.filter fun d => Attribute.hasAny d.member.attributes names

/-- The order in which members of several kinds are listed. -/
def kindOrder : List MemberKind := [.field, .property, .method, .constructor]

/-- The members of several kinds that carry an attribute of one of these names. -/
def membersWith (reg : Registry) (type : TypeHandle) (kinds : List MemberKind) (flags : Flags)
    (names : List String) : Except ReflectError (List (Declared AnyMember)) := do
  let groups ← (kindOrder.filter (kinds.contains ·)).mapM fun kind => do
    return attributed names (← membersOfKind reg type flags kind)
  return groups.flatten

/-- The members of several kinds that carry one of the named attributes, or any attribute when no
name is given, with those attributes. -/
def membersAndAttributes (reg : Registry) (type : TypeHandle) (kinds : List MemberKind)
    (flags : Flags) (names : List String) :
    Except ReflectError (List (Declared AnyMember × List Attribute)) := do
  let found ← membersWith reg type kinds flags []
  return found.filterMap fun d =>
    match Attribute.named d.member.attributes names with
    | [] => none
    | attributes => some (d, attributes)

end Query

/-- Whether a constant stands for a number of an enumeration. -/
def FieldInfo.isMemberOf (value : Int64) (field : FieldInfo) : Bool :=
  match field.access with
  | .constant (.enum _ member) => member == value
  | _ => false

/-- The attributes of the first member of an enumeration that has this value. -/
def Registry.enumAttributes (reg : Registry) (type : TypeHandle) (value : Int64) :
    List Attribute :=
  match (reg.get type).bind fun info => info.fields.find? (·.isMemberOf value) with
  | some field => field.attributes
  | none => []

end Introspect
