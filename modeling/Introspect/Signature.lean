import Introspect.Flags
import Introspect.Handle
import Introspect.Member

/-!
# `Introspect.Signature`: what an accessor is asked for

A signature names the operation that a caller wants: the type, the kind of member, the direction,
the name, the flags and the lists of parameter and type arguments. These are its identity.
Resolution adds the member it found; that takes no part in equality or hashing, so `same` and
`discriminator` look at the identity alone, and `same_withResolution` and
`discriminator_withResolution` say that resolving a signature changes neither.
-/

set_option autoImplicit false

namespace Introspect

/-- What kind of member a signature is about. -/
inductive MemberKind
  | field
  | property
  | method
  | constructor
  | element
  | mapping
  deriving DecidableEq

/-- The byte that stands for a kind in hashes. -/
def MemberKind.tag : MemberKind → UInt8
  | .field => 1
  | .property => 2
  | .method => 3
  | .constructor => 4
  | .element => 5
  | .mapping => 6

/-- The direction of a member access. -/
inductive Direction
  | read
  | write
  deriving DecidableEq

/-- The byte that stands for a direction in hashes. -/
def Direction.tag : Direction → UInt8
  | .read => 0
  | .write => 1

/-- A resolved member. -/
inductive MemberHandle
  /-- a field by its position -/
  | field (declaring : TypeHandle) (index : Nat)
  /-- an accessor of a property; without a descriptor it was found by its conventional name -/
  | property (declaring : TypeHandle) (descriptor : Option Nat) (accessor : MethodRef)
  | method (ref : MethodRef)
  /-- a constructor by its position -/
  | constructor (declaring : TypeHandle) (index : Nat)
  /-- a value type without arguments -/
  | zero (type : TypeHandle)
  /-- an array made from a length -/
  | allocation (element : TypeHandle)
  /-- an element of an array -/
  | element (element : TypeHandle)
  deriving DecidableEq

/-- What resolution found out. -/
structure Resolution where
  member : MemberHandle
  /-- the declared parameter types, which may accept more than the requested ones -/
  params : List TypeHandle
  isStatic : Bool
  deriving DecidableEq

/-- A request for an accessor. -/
structure Signature where
  target : TypeHandle
  flags : Flags
  kind : MemberKind
  direction : Direction
  name : Option String
  params : List TypeHandle
  typeArgs : List TypeHandle
  resolution : Option Resolution

namespace Signature

/-- A request that has not been resolved. -/
def ofKind (target : TypeHandle) (kind : MemberKind) (direction : Direction) (name : Option String)
    (flags : Flags) : Signature :=
  { target, flags, kind, direction, name, params := [], typeArgs := [], resolution := none }

/-- A field of a name. -/
def field (target : TypeHandle) (name : String) (direction : Direction) (flags : Flags) :
    Signature :=
  ofKind target .field direction (some name) flags

/-- A property of a name. -/
def property (target : TypeHandle) (name : String) (direction : Direction) (flags : Flags) :
    Signature :=
  ofKind target .property direction (some name) flags

/-- A method of a name taking arguments of these types. -/
def method (target : TypeHandle) (name : String) (params : List TypeHandle) (flags : Flags) :
    Signature :=
  { ofKind target .method .read (some name) flags with params }

/-- A constructor taking arguments of these types. -/
def constructor (target : TypeHandle) (params : List TypeHandle) (flags : Flags) : Signature :=
  { ofKind target .constructor .read none flags with params }

/-- The elements of an array type. -/
def element (target : TypeHandle) (direction : Direction) : Signature :=
  ofKind target .element direction none Flags.instanceAnyVisibility

/-- The members of a type as the target of a mapping. -/
def mapping (target : TypeHandle) (flags : Flags) : Signature :=
  ofKind target .mapping .write none flags

/-- The request with these parameter types. -/
def withParams (sig : Signature) (params : List TypeHandle) : Signature := { sig with params }

/-- The request with these type arguments. -/
def withTypeArgs (sig : Signature) (typeArgs : List TypeHandle) : Signature :=
  { sig with typeArgs }

/-- The request with what resolution found. -/
def withResolution (sig : Signature) (found : Resolution) : Signature :=
  { sig with resolution := some found }

/-- A request with all its parts, of which a kind drops those that it has no use for. -/
def ofParts (kind : MemberKind) (target : TypeHandle) (direction : Direction) (name : String)
    (flags : Flags) (params typeArgs : List TypeHandle) : Signature :=
  let sig := match kind with
    | .field => field target name direction flags
    | .property => property target name direction flags
    | .method => method target name params flags
    | .constructor => constructor target params flags
    | .element => element target direction
    | .mapping => mapping target flags
  (sig.withParams params).withTypeArgs typeArgs

/-- The name, empty when there is none. -/
def nameText (sig : Signature) : String := sig.name.getD ""

/-- Whether the member is static: as resolved, or else when the flags admit nothing else. -/
def isStatic (sig : Signature) : Bool :=
  match sig.resolution with
  | some found => found.isStatic
  | none =>
    sig.flags.contains Flags.staticMembers && !sig.flags.contains Flags.instanceMembers

/-- The declared parameter types of the resolved member. -/
def resolvedParams (sig : Signature) : List TypeHandle :=
  match sig.resolution with
  | some found => found.params
  | none => []

/-- Whether two signatures ask for the same. -/
def same (a b : Signature) : Bool :=
  a.target == b.target && a.kind == b.kind && a.direction == b.direction && a.flags == b.flags &&
    a.name == b.name && a.params == b.params && a.typeArgs == b.typeArgs

instance : BEq Signature := ⟨same⟩

/-- The bytes of everything but the type lists. -/
def headBytes (sig : Signature) : List UInt8 :=
  sig.target.bytes ++ [sig.kind.tag] ++ Hash.optionalTextBytes sig.name ++
    Hash.wordBytes sig.flags.bits ++ [sig.direction.tag]

/-- The positional sum of a list of types. -/
def typeSum (types : List TypeHandle) : UInt64 :=
  Hash.positionalSum (types.map TypeHandle.bytes)

/-- The hash of the identity. -/
def discriminator (sig : Signature) : UInt64 :=
  Hash.ofBytes sig.headBytes ^^^ typeSum sig.params ^^^ Hash.rotateLeft (typeSum sig.typeArgs) 32

/-- A resolved signature asks for the same as before. -/
theorem same_withResolution (sig : Signature) (found : Resolution) :
    sig.same (sig.withResolution found) = true := by
  simp [same, withResolution]

/-- Resolving a signature does not change its hash. -/
theorem discriminator_withResolution (sig : Signature) (found : Resolution) :
    (sig.withResolution found).discriminator = sig.discriminator := rfl

end Signature

/-- A request to copy the members of one type onto those of another. -/
structure MapSignature where
  base : Signature
  source : TypeHandle
  sourceKinds : DataKinds
  targetKinds : DataKinds
  /-- the names to copy; every match when empty -/
  names : List String

namespace MapSignature

/-- A mapping between two types. -/
def between (source target : TypeHandle) (sourceKinds targetKinds : DataKinds)
    (names : List String) (flags : Flags) : MapSignature :=
  { base := .mapping target flags, source, sourceKinds, targetKinds, names }

/-- The type whose members are written. -/
def target (sig : MapSignature) : TypeHandle := sig.base.target

/-- The flags of the request. -/
def flags (sig : MapSignature) : Flags := sig.base.flags

/-- Names are compared without regard to case when asked for, and when fields are copied onto
properties or the other way round. -/
def ignoresCase (sig : MapSignature) : Bool :=
  sig.flags.contains Flags.ignoreCase || sig.sourceKinds != sig.targetKinds

/-- Whether two requests ask for the same mapping. -/
def same (a b : MapSignature) : Bool :=
  a.base.same b.base && a.source == b.source && a.sourceKinds == b.sourceKinds &&
    a.targetKinds == b.targetKinds && a.names == b.names

instance : BEq MapSignature := ⟨same⟩

/-- The hash of the identity. -/
def discriminator (sig : MapSignature) : UInt64 :=
  sig.base.discriminator ^^^
    Hash.ofBytes (sig.source.bytes ++ [sig.sourceKinds.toByte, sig.targetKinds.toByte]) ^^^
    Hash.rotateLeft (Hash.textSum sig.names) 16

end MapSignature

end Introspect
