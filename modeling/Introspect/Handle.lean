import Introspect.Hash

/-!
# `Introspect.Handle`: identities of types

A `TypeHandle` names a type of a registry; its 64 bits are what signatures hash. The built-in types
have the first handles of every registry, so they are constants here.

A `NativeType` says what a slot of an instance stores: a value as it is, a number, a text, a list of
stored items, an instance of a described type. Types are requested from a registry by it.
-/

set_option autoImplicit false

namespace Introspect

/-- Identity of a type. -/
structure TypeHandle where
  bits : UInt64
  deriving DecidableEq, Hashable

namespace TypeHandle

/-- The handle with a given index. -/
def ofIndex (n : Nat) : TypeHandle := ⟨0x100000000 + n.toUInt64⟩

/-- The handle of no type. -/
def unregistered : TypeHandle := ⟨0x1ffffffff⟩

/-- The root type that everything is assignable to. -/
def object : TypeHandle := ofIndex 1
/-- The return type of methods without a result. -/
def void : TypeHandle := ofIndex 2
/-- Truth values. -/
def bool : TypeHandle := ofIndex 3
/-- 32-bit whole numbers. -/
def int32 : TypeHandle := ofIndex 4
/-- 64-bit whole numbers. -/
def int64 : TypeHandle := ofIndex 5
/-- 64-bit floating-point numbers. -/
def float64 : TypeHandle := ofIndex 6
/-- Texts. -/
def string : TypeHandle := ofIndex 7

/-- The bytes that stand for a handle in hashes. -/
def bytes (h : TypeHandle) : List UInt8 := Hash.wordBytes h.bits

end TypeHandle

/-- Coarse classification of a type. -/
inductive TypeKind
  /-- the root type -/
  | root
  /-- the return type of methods without a result -/
  | void
  /-- built-in value types -/
  | primitive
  /-- built-in immutable texts -/
  | string
  /-- described value type, copied on assignment -/
  | struct
  /-- described reference type, shared by identity -/
  | reference
  /-- whole numbers with named members -/
  | enum
  /-- arrays with one dimension -/
  | array
  /-- a contract without instances -/
  | interface
  deriving DecidableEq

/-- Value types are copied on assignment and never null. -/
def TypeKind.isValueType : TypeKind → Bool
  | .primitive | .struct | .enum => true
  | _ => false

/-- What a slot stores, or what a value is converted to. -/
inductive NativeType
  /-- any value, as it is -/
  | value
  /-- a reference to an object -/
  | object
  /-- a reference to an array -/
  | array
  /-- a reference to a cell -/
  | cell
  | unit
  | bool
  | int32
  | int64
  | float64
  | string
  /-- a described type whose instances are not converted to slots -/
  | described (name : String)
  /-- a described value type, stored in place -/
  | struct (name : String)
  /-- a described enumeration with these member values -/
  | enum (name : String) (members : List Int64)
  /-- a list of stored items, boxed as an array -/
  | list (element : NativeType)
  /-- null or a stored item -/
  | optional (content : NativeType)
  deriving DecidableEq

end Introspect
