/-!
# `Introspect.Hash`: the 64-bit FNV-1a hash

A hash is a fold over bytes: exclusive-or with the byte, then multiplication by the prime. `ofBytes`
hashes a byte string, `extend` goes on from an earlier hash, and `positionalSum` adds up the hashes
of a list of byte strings, each weighted by its position counted from one.

`extend_append` says that hashing in pieces is hashing the whole.
-/

set_option autoImplicit false

namespace Introspect.Hash

/-- The hash of no bytes. -/
def offsetBasis : UInt64 := 0xcbf29ce484222325

/-- The multiplier, an odd number. -/
def prime : UInt64 := 0x100000001b3

/-- One byte more. -/
def step (hash : UInt64) (byte : UInt8) : UInt64 :=
  (hash ^^^ byte.toUInt64) * prime

/-- Goes on from `hash` over more bytes. -/
def extend (hash : UInt64) (bytes : List UInt8) : UInt64 :=
  bytes.foldl step hash

/-- The hash of a byte string. -/
def ofBytes (bytes : List UInt8) : UInt64 :=
  extend offsetBasis bytes

/-- The eight bytes of a word, least significant first. -/
def wordBytes (word : UInt64) : List UInt8 :=
  (List.range 8).map fun i => (word >>> (8 * i).toUInt64).toUInt8

/-- The bytes of a text in UTF-8. -/
def textBytes (s : String) : List UInt8 :=
  s.toUTF8.toList

/-- An optional text: absent and empty are told apart by a leading byte. -/
def optionalTextBytes : Option String → List UInt8
  | some s => 1 :: textBytes s
  | none => [0]

/-- The hashes of the items, each weighted by its position counted from `position`. -/
def positionalSumFrom (position : UInt64) : List (List UInt8) → UInt64
  | [] => 0
  | item :: rest => ofBytes item * position + positionalSumFrom (position + 1) rest

/-- The hashes of the items, each weighted by its position counted from one. -/
def positionalSum (items : List (List UInt8)) : UInt64 :=
  positionalSumFrom 1 items

/-- The positional sum of a list of texts. -/
def textSum (texts : List String) : UInt64 :=
  positionalSum (texts.map textBytes)

/-- Rotates a word to the left. -/
def rotateLeft (word : UInt64) (count : UInt64) : UInt64 :=
  (word <<< count) ||| (word >>> (64 - count))

/-- Hashing in pieces is hashing the whole. -/
theorem extend_append (hash : UInt64) (front back : List UInt8) :
    extend hash (front ++ back) = extend (extend hash front) back := by
  simp [extend]

end Introspect.Hash
