import Introspect.ReflectError
import Introspect.Registry

/-!
# `Introspect.Resolver`: from a signature to a member

`resolve` searches the type chain of a signature's target, most derived type first, for the member
it asks for. On one type, several matches are a failure unless exactly one is spelled as requested;
an overload with exactly the requested parameter types goes before one that merely accepts them.

A property resolves to one of its accessor methods, found by name along the whole chain: the one it
names itself, or else the one with the conventional name. Without any descriptor a method with the
conventional name still makes a property.

`dataMembers` lists the fields and properties that a mapping sees. `pick_of_singleton` states the
choice among one.
-/

set_option autoImplicit false

namespace Introspect

/-- A field or property that a mapping can read or write. -/
structure DataMember where
  name : String
  type : TypeHandle
  kind : MemberKind
  read : Option MemberHandle
  write : Option MemberHandle

namespace Registry

/-- The descriptor of a type, which must be published. -/
def info (reg : Registry) (type : TypeHandle) : Except ReflectError TypeInfo :=
  match reg.get type with
  | some info => .ok info
  | none => .error (.unknownType (reg.nameOf type))

/-- The descriptors along a list of types, all of which must be published. -/
def infos (reg : Registry) (types : List TypeHandle) : Except ReflectError (List TypeInfo) :=
  types.mapM reg.info

/-- The types searched for members, most derived first. -/
def typeChain (reg : Registry) (type : TypeHandle) (flags : Flags) :
    Except ReflectError (List TypeInfo) :=
  if flags.contains Flags.declaredOnly then reg.infos [type]
  else reg.infos (type :: reg.bases type)

/-- Names of types, separated by commas. -/
def describeTypes (reg : Registry) (types : List TypeHandle) : String :=
  ", ".intercalate (types.map reg.nameOf)

/-- Whether parameters accept arguments of the requested types: `some true` when all types are
equal, `some false` when they are assignable. What is passed by reference must be of the very
type. -/
def bindParams (reg : Registry) (flags : Flags) :
    List ParameterInfo → List TypeHandle → Option Bool
  | [], [] => some true
  | param :: params, type :: types =>
    -- Equal types fit in every mode, by reference included.
    if param.type = type then bindParams reg flags params types
    else if flags.contains Flags.exactBinding || param.mode.isByRef then none
    else if reg.isAssignable param.type type then
      (bindParams reg flags params types).map fun _ => false
    else none
  | _, _ => none

end Registry

namespace Resolver

/-- The positions and items of a list that satisfy a test. -/
def positions {α : Type} (p : α → Bool) (items : List α) : List (Nat × α) :=
  (items.zipIdx.filter fun (item, _) => p item).map fun (item, index) => (index, item)

/-- Chooses one of several matches on a type: the only one, or the only one spelled as requested. -/
def pick {α : Type} (type name : String) (nameOf : α → String) (found : List (Nat × α)) :
    Except ReflectError (Option (Nat × α)) :=
  match found with
  | [] => .ok none
  | [one] => .ok (some one)
  | _ =>
    match found.filter fun (_, item) => nameOf item == name with
    | [one] => .ok (some one)
    | _ => .error (.ambiguousOperation (.members found.length type name))

/-- The first type of a chain on which something is found. -/
def firstOn {α : Type} (search : TypeInfo → Except ReflectError (Option α)) :
    List TypeInfo → Except ReflectError (Option α)
  | [] => .ok none
  | info :: rest => do
    match ← search info with
    | some found => return some found
    | none => firstOn search rest

/-- The failure to find a field or property. -/
def memberNotFound (reg : Registry) (sig : Signature) : ReflectError :=
  .memberNotFound (reg.nameOf sig.target) sig.nameText sig.flags

/-! ### Fields -/

/-- Whether a field answers a request. -/
def fieldMatches (sig : Signature) (field : FieldInfo) : Bool :=
  sig.flags.matchesName field.name sig.nameText &&
    sig.flags.matchesBinding field.visibility field.isStatic &&
    (sig.direction == .read || field.isWritable)

/-- The field of one type that answers a request. -/
def fieldOn (sig : Signature) (info : TypeInfo) : Except ReflectError (Option Resolution) := do
  let found ← pick info.name sig.nameText FieldInfo.name (positions (fieldMatches sig) info.fields)
  return found.map fun (index, field) =>
    ⟨.field info.handle index, [field.type], field.isStatic⟩

/-- The field that answers a request. -/
def field (reg : Registry) (sig : Signature) : Except ReflectError Resolution := do
  let chain ← reg.typeChain sig.target sig.flags
  match ← firstOn (fieldOn sig) chain with
  | some found => return found
  | none => throw (memberNotFound reg sig)

/-! ### Properties -/

/-- The conventional name of an accessor. -/
def accessorName (property : String) (direction : Direction) : String :=
  match direction with
  | .read => "get_" ++ property
  | .write => "set_" ++ property

/-- Whether a method can serve as an accessor of a name. -/
def accessorMatches (name : String) (flags : Flags) (method : MethodInfo) : Bool :=
  method.arity == 0 && namesEqual method.name name (flags.contains Flags.ignoreCase) &&
    flags.matchesBinding method.visibility method.isStatic

/-- The first accessor of a name along a chain. -/
def findAccessor (chain : List TypeInfo) (name : String) (flags : Flags) :
    Option (MethodRef × MethodInfo) :=
  chain.findSome? fun info =>
    (positions (accessorMatches name flags) info.methods).head?.map fun (index, method) =>
      (⟨info.handle, index⟩, method)

/-- Whether a method takes the parameters of an accessor. -/
def checkShape (method : MethodInfo) (index : Nat) (direction : Direction) :
    Except ReflectError Unit :=
  match direction with
  | .read =>
    if method.params.length ≠ index then
      .error (.invalidShape method.name (.getterCount index method.params.length))
    else .ok ()
  | .write =>
    if method.params.length ≠ index + 1 then
      .error (.invalidShape method.name (.setterCount index method.params.length))
    else if method.params.any (·.mode.isByRef) then
      .error (.invalidShape method.name .setterByRef)
    else .ok ()

/-- The accessor that a property names in a direction. -/
def ownAccessor (property : PropertyInfo) (direction : Direction) : Option String :=
  match direction with
  | .read => property.getter
  | .write => property.setter

/-- Whether a property answers a request. -/
def propertyMatches (sig : Signature) (property : PropertyInfo) : Bool :=
  !property.isIndexer && sig.flags.matchesName property.name sig.nameText &&
    sig.flags.matchesBinding property.visibility property.isStatic

/-- What an accessor answers a request with, when it has the right shape. -/
def accessorResult (sig : Signature) (declaring : TypeHandle) (descriptor : Option Nat)
    (index : Nat) (accessor : MethodRef × MethodInfo) : Except ReflectError Resolution := do
  checkShape accessor.2 index sig.direction
  return ⟨.property declaring descriptor accessor.1, accessor.2.paramTypes, accessor.2.isStatic⟩

/-- The accessor of the property of one type that answers a request. -/
def propertyOn (sig : Signature) (chain : List TypeInfo) (info : TypeInfo) :
    Except ReflectError (Option Resolution) := do
  let found ← pick info.name sig.nameText PropertyInfo.name
    (positions (propertyMatches sig) info.properties)
  match found with
  | none => return none
  | some (index, property) =>
    -- An accessor that is named but not found counts as none.
    let own := (ownAccessor property sig.direction).bind (findAccessor chain · sig.flags)
    let conventional := findAccessor chain (accessorName property.name sig.direction) sig.flags
    match own.or conventional with
    | none => return none
    | some accessor =>
      return some
        (← accessorResult sig info.handle (some index) property.indexTypes.length accessor)

/-- The accessor that answers a property request. -/
def property (reg : Registry) (sig : Signature) : Except ReflectError Resolution := do
  let chain ← reg.typeChain sig.target sig.flags
  match ← firstOn (propertyOn sig chain) chain with
  | some found => return found
  | none =>
    let name := accessorName sig.nameText sig.direction
    -- No property is declared at all: a method of the conventional name will do.
    match findAccessor chain name (sig.flags \ Flags.partialNameMatch) with
    | some accessor => accessorResult sig accessor.1.declaring none 0 accessor
    | none => throw (memberNotFound reg sig)

/-! ### Methods and constructors -/

/-- Whether a method answers a request, apart from its parameters. -/
def methodMatches (sig : Signature) (method : MethodInfo) : Bool :=
  sig.flags.matchesName method.name sig.nameText &&
    sig.flags.matchesBinding method.visibility method.isStatic &&
    method.arity == sig.typeArgs.length

/-- Of the items with their fit, those that fit exactly, or all when none does. -/
def preferExact {α : Type} (found : List ((Nat × α) × Bool)) : List (Nat × α) :=
  match found.filter (·.2) with
  | [] => found.map (·.1)
  | exact => exact.map (·.1)

/-- The method of one type that answers a request. -/
def methodOn (reg : Registry) (sig : Signature) (info : TypeInfo) :
    Except ReflectError (Option Resolution) := do
  let fitting := (positions (methodMatches sig) info.methods).filterMap fun (index, method) =>
    (reg.bindParams sig.flags method.params sig.params).map fun exact => ((index, method), exact)
  let found ← pick info.name sig.nameText MethodInfo.name (preferExact fitting)
  return found.map fun (index, method) =>
    ⟨.method ⟨info.handle, index⟩, method.paramTypes, method.isStatic⟩

/-- The method that answers a request. -/
def method (reg : Registry) (sig : Signature) : Except ReflectError Resolution := do
  let chain ← reg.typeChain sig.target sig.flags
  match ← firstOn (methodOn reg sig) chain with
  | some found => return found
  | none => throw (.methodNotFound (reg.nameOf sig.target) sig.nameText
      (reg.describeTypes sig.params) sig.flags)

/-- The declared constructor that answers a request. -/
def declaredConstructor (reg : Registry) (sig : Signature) (info : TypeInfo) :
    Except ReflectError Resolution :=
  let fitting := (positions (fun c => sig.flags.matchesBinding c.visibility false)
      info.constructors).filterMap fun (index, ctor) =>
    (reg.bindParams sig.flags ctor.params sig.params).map fun exact => ((index, ctor), exact)
  let answer (found : Nat × ConstructorInfo) : Resolution :=
    ⟨.constructor sig.target found.1, found.2.paramTypes, true⟩
  match fitting with
  | [] => .error (.constructorNotFound info.name (reg.describeTypes sig.params))
  | [one] => .ok (answer one.1)
  | _ =>
    -- Constructors have no names to prefer one by, only an exact fit.
    match fitting.filter (·.2) with
    | [one] => .ok (answer one.1)
    | _ => .error (.ambiguousOperation
        (.constructors fitting.length info.name (reg.describeTypes sig.params)))

/-- Whether the argument types are those of a single length. -/
def isLength : List TypeHandle → Bool
  | [type] => type == TypeHandle.int32 || type == TypeHandle.int64
  | _ => false

/-- What answers a constructor request: an array of a length, a value type without arguments, or a
declared constructor. -/
def constructor (reg : Registry) (sig : Signature) : Except ReflectError Resolution := do
  let info ← reg.info sig.target
  if info.kind == .array && isLength sig.params then
    match info.element with
    | some element => return ⟨.allocation element, sig.params, true⟩
    | none => throw (.ambiguousOperation (.noElement info.name))
  else if info.isValueType && sig.params.isEmpty then return ⟨.zero sig.target, [], true⟩
  else declaredConstructor reg sig info

/-- What answers a request for the elements of an array type. -/
def element (reg : Registry) (sig : Signature) : Except ReflectError Resolution := do
  let info ← reg.info sig.target
  match info.kind, info.element with
  | .array, some element =>
    let params := match sig.direction with
      | .read => [TypeHandle.int32]
      | .write => [TypeHandle.int32, element]
    return ⟨.element element, params, false⟩
  | _, _ => throw (.ambiguousOperation (.notAnArray info.name))

/-! ### Data members -/

/-- A field as a data member. -/
def fieldMember (info : TypeInfo) (index : Nat) (field : FieldInfo) : DataMember :=
  let handle := MemberHandle.field info.handle index
  { name := field.name, type := field.type, kind := .field, read := some handle
    write := if field.isWritable then some handle else none }

/-- The accessor of a property in a direction, when it names one of the right shape. -/
def propertyHandle (chain : List TypeInfo) (flags : Flags) (info : TypeInfo) (index : Nat)
    (property : PropertyInfo) (direction : Direction) : Option MemberHandle := do
  let name ← ownAccessor property direction
  let (ref, method) ← findAccessor chain name flags
  match checkShape method property.indexTypes.length direction with
  | .ok _ => some (.property info.handle (some index) ref)
  | .error _ => none

/-- A property as a data member. -/
def propertyMember (chain : List TypeInfo) (flags : Flags) (info : TypeInfo) (index : Nat)
    (property : PropertyInfo) : DataMember :=
  { name := property.name, type := property.type, kind := .property
    read := propertyHandle chain flags info index property .read
    write := propertyHandle chain flags info index property .write }

/-- Adds members that are not hidden by an earlier one of the same name. -/
def addUnseen (found : List DataMember) (more : List DataMember) : List DataMember :=
  more.foldl (fun found m => if found.any (·.name == m.name) then found else found ++ [m]) found

/-- The data members declared on one type. -/
def membersOn (chain : List TypeInfo) (kinds : DataKinds) (flags : Flags) (info : TypeInfo) :
    List DataMember :=
  let fields :=
    if kinds.fields then
      (positions (fun f => !f.isConstant && flags.matchesBinding f.visibility f.isStatic)
        info.fields).map fun (index, f) => fieldMember info index f
    else []
  let properties :=
    if kinds.properties then
      (positions (fun p => !p.isIndexer && flags.matchesBinding p.visibility p.isStatic)
        info.properties).map fun (index, p) => propertyMember chain flags info index p
    else []
  fields ++ properties

/-- The fields and properties of a type that a mapping sees. A member hides same-named ones of its
bases. Indexers and constants are left out. -/
def dataMembers (reg : Registry) (type : TypeHandle) (kinds : DataKinds) (flags : Flags) :
    Except ReflectError (List DataMember) := do
  let chain ← reg.typeChain type flags
  return chain.foldl (fun found info => addUnseen found (membersOn chain kinds flags info)) []

/-! ### Resolution -/

/-- The member that a signature asks for. -/
def resolve (reg : Registry) (sig : Signature) : Except ReflectError Resolution :=
  match sig.kind with
  | .field => field reg sig
  | .property => property reg sig
  | .method => method reg sig
  | .constructor => constructor reg sig
  | .element => element reg sig
  | .mapping => .error (.ambiguousOperation .mappingRequest)

/-- The only match is chosen, however it is spelled. -/
theorem pick_of_singleton {α : Type} (type name : String) (nameOf : α → String) (one : Nat × α) :
    pick type name nameOf [one] = .ok (some one) := rfl

end Resolver

end Introspect
