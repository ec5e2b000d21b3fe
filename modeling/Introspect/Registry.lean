import Introspect.Member

/-!
# `Introspect.Registry`: published types and how they relate

A registry maps handles to descriptors. Descriptors never change once published, with one exception:
an array whose element was still being described gets its name when the element is published.

Two relations are computed here. `implements` searches the interfaces that a type declares, those of
its bases and those of the interfaces themselves. `isAssignable` says where a value of a type may be
stored. Both searches take no more steps than the registry has types and declarations, so they also
end on graphs with cycles.

`isAssignable_refl` and `isAssignable_object` state the two ends of the relation, and
`get_publish_self` and `get_publish_of_ne` how publication changes a look-up.
-/

set_option autoImplicit false

namespace Introspect

/-- Everything known about one type. -/
structure TypeInfo where
  handle : TypeHandle
  name : String
  kind : TypeKind
  base : Option TypeHandle
  interfaces : List TypeHandle
  element : Option TypeHandle
  fields : List FieldInfo
  properties : List PropertyInfo
  methods : List MethodInfo
  constructors : List ConstructorInfo
  /-- the methods that virtual calls reach; a slot of the base keeps its place -/
  dispatchTable : List MethodRef
  /-- the default value -/
  zero : Value
  /-- the native type whose instances embed one of the base type -/
  embedsBase : Option String
  attributes : List Attribute

namespace TypeInfo

/-- A type without members. -/
def bare (handle : TypeHandle) (name : String) (kind : TypeKind) (base : Option TypeHandle)
    (zero : Value) : TypeInfo :=
  { handle, name, kind, base, interfaces := [], element := none, fields := [], properties := []
    methods := [], constructors := [], dispatchTable := [], zero, embedsBase := none
    attributes := [] }

/-- Whether instances are copied on assignment. -/
def isValueType (info : TypeInfo) : Bool := info.kind.isValueType

/-- Whether the type is an interface. -/
def isInterface (info : TypeInfo) : Bool := info.kind == .interface

end TypeInfo

/-- The graph of types. -/
structure Registry where
  /-- how many handles have been given out -/
  issued : Nat
  /-- published descriptors; the first entry of a handle counts -/
  types : List (TypeHandle × TypeInfo)
  /-- the types of native types -/
  natives : List (NativeType × TypeHandle)
  /-- native types that are being described -/
  pending : List (NativeType × TypeHandle)
  /-- types by name; the first entry of a name counts -/
  names : List (String × TypeHandle)
  /-- array types by element type -/
  arrays : List (TypeHandle × TypeHandle)

namespace Registry

/-- The descriptor of a published type. -/
def get (reg : Registry) (type : TypeHandle) : Option TypeInfo :=
  reg.types.lookup type

/-- The type with a registered name. -/
def find (reg : Registry) (name : String) : Option TypeHandle :=
  reg.names.lookup name

/-- The registered name of a type. -/
def nameOf (reg : Registry) (type : TypeHandle) : String :=
  match reg.get type with
  | some info => info.name
  | none => "<unregistered>"

/-- The direct base of a type. -/
def baseOf (reg : Registry) (type : TypeHandle) : Option TypeHandle :=
  (reg.get type).bind (·.base)

/-- The default value of a type; null for a reference type and an unknown one. -/
def zeroOf (reg : Registry) (type : TypeHandle) : Value :=
  match reg.get type with
  | some info => info.zero
  | none => .null

/-- Whether values of the type are copied on assignment. -/
def isValueType (reg : Registry) (type : TypeHandle) : Bool :=
  match reg.get type with
  | some info => info.isValueType
  | none => false

/-- Whether the type is a published interface. -/
def isInterface (reg : Registry) (type : TypeHandle) : Bool :=
  match reg.get type with
  | some info => info.isInterface
  | none => false

/-! ### Publication -/

/-- Makes a descriptor visible. Its name is found from now on, unless it is taken or a
placeholder. -/
def publish (reg : Registry) (info : TypeInfo) : Registry :=
  let names :=
    -- A placeholder in front keeps the name out of the index.
    if info.name.toList.head? == some '<' then reg.names
    else if (reg.names.lookup info.name).isSome then reg.names
    else reg.names ++ [(info.name, info.handle)]
  -- The newest entry of a handle is in front, where a look-up finds it.
  { reg with types := (info.handle, info) :: reg.types, names }

/-- A handle that was not given out before. -/
def fresh (reg : Registry) : TypeHandle × Registry :=
  (TypeHandle.ofIndex (reg.issued + 1), { reg with issued := reg.issued + 1 })

/-- The descriptor of an array type. -/
def arrayInfo (array element : TypeHandle) (elementName : String) : TypeInfo :=
  { TypeInfo.bare array (elementName ++ "[]") .array (some TypeHandle.object) .null with
    element := some element }

/-- The array type with elements of a type, one for each element type. -/
def arrayOf (reg : Registry) (element : TypeHandle) : TypeHandle × Registry :=
  match reg.arrays.lookup element with
  | some array => (array, reg)
  | none =>
    let (array, next) := reg.fresh
    (array, { next with arrays := (element, array) :: next.arrays }.publish
      (arrayInfo array element (reg.nameOf element)))

/-- Gives the array type of a published element its name. -/
def nameArraysOf (reg : Registry) (element : TypeHandle) (elementName : String) : Registry :=
  match reg.arrays.lookup element with
  | some array => reg.publish (arrayInfo array element elementName)
  | none => reg

/-- The built-in types, in the order of their handles. -/
def builtins : List TypeInfo := [
  .bare .object "Object" .root none .null,
  .bare .void "Void" .void (some .object) .null,
  .bare .bool "Bool" .primitive (some .object) (.bool false),
  .bare .int32 "Int32" .primitive (some .object) (.int32 0),
  .bare .int64 "Int64" .primitive (some .object) (.int64 0),
  .bare .float64 "Float64" .primitive (some .object) (.float64 .zero),
  .bare .string "String" .string (some .object) .null]

/-- The registry of the built-in types. -/
def initial : Registry :=
  builtins.foldl publish
    { issued := builtins.length
      types := []
      natives := [(.value, .object), (.object, .object), (.array, .object), (.cell, .object),
        (.unit, .void), (.bool, .bool), (.int32, .int32), (.int64, .int64), (.float64, .float64),
        (.string, .string)]
      pending := []
      names := []
      arrays := [] }

/-! ### Relations between types -/

/-- The first handles of a base chain, at most `limit` of them. -/
def chainFrom (reg : Registry) : Nat → Option TypeHandle → List TypeHandle
  | 0, _ => []
  | _, none => []
  | limit + 1, some type => type :: chainFrom reg limit (reg.baseOf type)

/-- The bases of a type, nearest first. -/
def bases (reg : Registry) (type : TypeHandle) : List TypeHandle :=
  reg.chainFrom (reg.types.length + 1) (reg.baseOf type)

/-- A search for a type that declares `interface`, starting from the types in `pending`, the last
first. -/
def searchInterface (reg : Registry) (interface : TypeHandle) :
    Nat → List TypeHandle → List TypeHandle → Bool
  | 0, _, _ => false
  | _, _, [] => false
  | limit + 1, seen, type :: pending =>
    if type ∈ seen then searchInterface reg interface limit seen pending
    else match reg.get type with
      | none => searchInterface reg interface limit (type :: seen) pending
      | some info =>
        if interface ∈ info.interfaces then true
        else searchInterface reg interface limit (type :: seen)
          (info.base.toList ++ info.interfaces.reverse ++ pending)

/-- More steps than a search for an interface can take. -/
def searchLimit (reg : Registry) : Nat :=
  (reg.types.map fun (_, info) => info.interfaces.length + 2).foldl (· + ·) 2

/-- Whether a type, one of its bases, or one of their interfaces declares `interface`. -/
def implements (reg : Registry) (type interface : TypeHandle) : Bool :=
  reg.searchInterface interface reg.searchLimit [] [type]

/-- Whether a value of type `source` can be stored where `target` is expected: for the same type,
for the root type, along the base chain and for every interface that `source` implements. -/
def isAssignable (reg : Registry) (target source : TypeHandle) : Bool :=
  target == source || target == TypeHandle.object || (reg.bases source).contains target ||
    (reg.isInterface target && reg.implements source target)

/-- Whether a type derives from another one. No type derives from itself, and every other type
derives from the root type. -/
def inherits (reg : Registry) (type base : TypeHandle) : Bool :=
  type != base && (base == TypeHandle.object || (reg.bases type).contains base)

/-- Whether a type implements a published interface. -/
def implementsInterface (reg : Registry) (type interface : TypeHandle) : Bool :=
  reg.isInterface interface && reg.implements type interface

/-- Implementing for an interface, deriving for any other type. -/
def inheritsOrImplements (reg : Registry) (type base : TypeHandle) : Bool :=
  if reg.isInterface base then reg.implementsInterface type base else reg.inherits type base

/-- How many embedded bases lead from an instance of `source` to its part of type `target`. The
storage must have been made for the native types along the way. -/
def depthOf (reg : Registry) (target : TypeHandle) : Nat → TypeHandle → Instance → Option Nat
  | 0, source, _ => if source = target then some 0 else none
  | limit + 1, source, data =>
    if source = target then some 0
    else do
      let info ← reg.get source
      let native ← info.embedsBase
      if data.native = native then
        let part ← data.base
        let next ← info.base
        (· + 1) <$> depthOf reg target limit next part
      else none

/-- How many embedded bases lead from an instance of `source` to its part of type `target`. -/
def depth? (reg : Registry) (source target : TypeHandle) (data : Instance) : Option Nat :=
  reg.depthOf target reg.types.length source data

/-! ### Small facts -/

/-- A published descriptor is found under its handle. -/
theorem get_publish_self (reg : Registry) (info : TypeInfo) :
    (reg.publish info).get info.handle = some info := by
  simp [publish, get]

/-- Publication changes no other type. -/
theorem get_publish_of_ne (reg : Registry) (info : TypeInfo) (type : TypeHandle)
    (h : type ≠ info.handle) : (reg.publish info).get type = reg.get type := by
  have hb : (type == info.handle) = false := by simpa using h
  simp [publish, get, List.lookup_cons, hb]

/-- Every type accepts itself. -/
theorem isAssignable_refl (reg : Registry) (type : TypeHandle) :
    reg.isAssignable type type = true := by
  simp [isAssignable]

/-- The root type accepts every type. -/
theorem isAssignable_object (reg : Registry) (type : TypeHandle) :
    reg.isAssignable TypeHandle.object type = true := by
  simp [isAssignable]

end Registry

end Introspect
