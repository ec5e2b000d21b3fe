import Introspect.Proofs.Cache.Request
import Introspect.Proofs.Hash.Reversible

/-!
# `Introspect.Proofs.Hash.Discriminators`: which signatures have the same discriminator

A discriminator is the hash of a head, exclusive-ored with the sums over the lists. The head is a
row of parts: the type, the kind, the name, the flags, the direction. Only the name has no fixed
length, and everything around it has, so a head can be taken apart from both ends:
`Signature.headBytes_eq_iff`.

The parts that differ in near misses take one byte each: kinds, directions, and the byte in front of
a name, which is all that is left of an empty name and of none. With the lists the same, two
discriminators are the same when the hashes of the heads are
(`Signature.discriminator_eq_iff_of_lists`), and one byte that differs in a head shows in its hash.

`discriminators_follow_identity` is the main result, for signatures and for requests for mappings,
with whatever resolution they carry.
-/

set_option autoImplicit false

namespace Introspect

/-- Different kinds have different bytes. -/
theorem MemberKind.tag_injective : Function.Injective MemberKind.tag := by
  intro a b hab
  cases a <;> cases b <;> first | rfl | exact absurd hab (by decide)

/-- Different directions have different bytes. -/
theorem Direction.tag_injective : Function.Injective Direction.tag := by
  intro a b hab
  cases a <;> cases b <;> first | rfl | exact absurd hab (by decide)

/-- The bytes of a handle determine the handle. -/
theorem TypeHandle.bytes_injective : Function.Injective TypeHandle.bytes := by
  intro a b hab
  exact congrArg TypeHandle.mk (Hash.wordBytes_injective hab)

namespace Signature

/-! ### Equal signatures -/

/-- The discriminator does not see what resolution found. -/
theorem discriminator_identity (sig : Signature) : sig.identity.discriminator = sig.discriminator :=
  rfl

/-- Signatures that ask for the same have the same discriminator. -/
theorem discriminator_congr {a b : Signature} (h : a.identity = b.identity) :
    a.discriminator = b.discriminator := by
  rw [← discriminator_identity a, h, discriminator_identity]

/-! ### Heads -/

/-- A head is determined by the parts that it is made of, and determines them. -/
theorem headBytes_eq_iff (a b : Signature) : a.headBytes = b.headBytes ↔
    a.target = b.target ∧ a.kind = b.kind ∧ a.name = b.name ∧ a.flags = b.flags ∧
      a.direction = b.direction := by
  constructor
  · intro h
    unfold headBytes at h
    -- From the back: one byte, then eight. What is left begins with nine bytes.
    obtain ⟨h, hdirection⟩ := List.append_inj' h rfl
    obtain ⟨h, hflags⟩ := List.append_inj' h rfl
    obtain ⟨h, hname⟩ := List.append_inj h rfl
    obtain ⟨htarget, hkind⟩ := List.append_inj' h rfl
    exact ⟨TypeHandle.bytes_injective htarget,
      MemberKind.tag_injective (List.singleton_inj.mp hkind),
      Hash.optionalTextBytes_injective hname,
      congrArg Flags.mk (Hash.wordBytes_injective hflags),
      Direction.tag_injective (List.singleton_inj.mp hdirection)⟩
  · rintro ⟨htarget, hkind, hname, hflags, hdirection⟩
    unfold headBytes
    rw [htarget, hkind, hname, hflags, hdirection]

/-- Between signatures with the same lists the hashes of the heads decide. -/
theorem discriminator_eq_iff_of_lists {a b : Signature} (hparams : a.params = b.params)
    (htypeArgs : a.typeArgs = b.typeArgs) :
    a.discriminator = b.discriminator ↔ Hash.ofBytes a.headBytes = Hash.ofBytes b.headBytes := by
  unfold discriminator
  rw [hparams, htypeArgs, UInt64.xor_left_inj, UInt64.xor_left_inj]

/-- Signatures with the same lists, whose heads are the same but for one byte, have the same
discriminator only if that byte is the same. -/
theorem discriminator_eq_iff_of_byte {a b : Signature} {front back : List UInt8} {x y : UInt8}
    (hparams : a.params = b.params) (htypeArgs : a.typeArgs = b.typeArgs)
    (ha : a.headBytes = front ++ x :: back) (hb : b.headBytes = front ++ y :: back) :
    a.discriminator = b.discriminator ↔ x = y := by
  rw [discriminator_eq_iff_of_lists hparams htypeArgs, ha, hb]
  exact Hash.ofBytes_splice_iff front back x y

/-! ### Near misses -/

/-- The kind alone makes a difference. -/
theorem discriminator_kind {a b : Signature}
    (h : b.identity = { a.identity with kind := b.kind }) :
    a.discriminator = b.discriminator ↔ a.kind = b.kind := by
  have hhead : ∀ kind : MemberKind, { a with kind }.headBytes = a.target.bytes ++ kind.tag ::
      (Hash.optionalTextBytes a.name ++ Hash.wordBytes a.flags.bits ++ [a.direction.tag]) := by
    intro kind
    simp [headBytes]
  have ha : a.headBytes = _ := hhead a.kind
  have hb : b.headBytes = _ := (congrArg headBytes h).trans (hhead b.kind)
  have hparams : a.params = b.params := (congrArg params h).symm
  have htypeArgs : a.typeArgs = b.typeArgs := (congrArg typeArgs h).symm
  rw [discriminator_eq_iff_of_byte hparams htypeArgs ha hb]
  exact MemberKind.tag_injective.eq_iff

/-- The direction alone makes a difference. -/
theorem discriminator_direction {a b : Signature}
    (h : b.identity = { a.identity with direction := b.direction }) :
    a.discriminator = b.discriminator ↔ a.direction = b.direction := by
  have hhead : ∀ direction : Direction, { a with direction }.headBytes =
      (a.target.bytes ++ [a.kind.tag] ++ Hash.optionalTextBytes a.name ++
        Hash.wordBytes a.flags.bits) ++ direction.tag :: [] := fun _ => rfl
  have ha : a.headBytes = _ := hhead a.direction
  have hb : b.headBytes = _ := (congrArg headBytes h).trans (hhead b.direction)
  have hparams : a.params = b.params := (congrArg params h).symm
  have htypeArgs : a.typeArgs = b.typeArgs := (congrArg typeArgs h).symm
  rw [discriminator_eq_iff_of_byte hparams htypeArgs ha hb]
  exact Direction.tag_injective.eq_iff

/-- The empty name is not the same as none. -/
theorem discriminator_empty_name {a b : Signature} (hnone : a.name = none)
    (h : b.identity = { a.identity with name := some "" }) :
    a.discriminator ≠ b.discriminator := by
  -- Neither has bytes behind the one that says whether there is a name.
  have hhead : ∀ (name : Option String) (byte : UInt8), Hash.optionalTextBytes name = [byte] →
      { a with name }.headBytes = (a.target.bytes ++ [a.kind.tag]) ++ byte ::
        (Hash.wordBytes a.flags.bits ++ [a.direction.tag]) := by
    intro name byte hbyte
    simp [headBytes, hbyte]
  have hempty : Hash.optionalTextBytes (some "") = [1] := by
    show 1 :: ByteArray.toList ByteArray.empty = [1]
    rw [ByteArray.toList_empty]
  have ha : a.headBytes = _ := hhead a.name 0 (by rw [hnone]; rfl)
  have hb : b.headBytes = _ := (congrArg headBytes h).trans (hhead (some "") 1 hempty)
  have hparams : a.params = b.params := (congrArg params h).symm
  have htypeArgs : a.typeArgs = b.typeArgs := (congrArg typeArgs h).symm
  rw [Ne, discriminator_eq_iff_of_byte hparams htypeArgs ha hb]
  decide

end Signature

/-- Requests for mappings that ask for the same have the same discriminator. -/
theorem MapSignature.discriminator_congr {a b : MapSignature}
    (h : { a with base := a.base.identity } = { b with base := b.base.identity }) :
    a.discriminator = b.discriminator := by
  have hself : ∀ sig : MapSignature,
      { sig with base := sig.base.identity }.discriminator = sig.discriminator := fun _ => rfl
  rw [← hself a, h, hself]

/-- Discriminators of signatures and of requests for mappings, with whatever resolution they carry.

* Equal signatures have equal discriminators, and so have equal requests for mappings.
* The bytes that are hashed for the head determine the type, the kind, the name, the flags and the
  direction, however long the name is.
* Signatures that ask for the same but for the kind have different discriminators when the kinds
  differ, and likewise for the direction.
* So have signatures that ask for the same, but one has no name and the other the empty one. -/
theorem discriminators_follow_identity :
    (∀ a b : Signature, (a == b) = true → a.discriminator = b.discriminator) ∧
    (∀ a b : MapSignature, (a == b) = true → a.discriminator = b.discriminator) ∧
    (∀ a b : Signature, a.headBytes = b.headBytes ↔
      a.target = b.target ∧ a.kind = b.kind ∧ a.name = b.name ∧ a.flags = b.flags ∧
        a.direction = b.direction) ∧
    (∀ a b : Signature, b.identity = { a.identity with kind := b.kind } → a.kind ≠ b.kind →
      a.discriminator ≠ b.discriminator) ∧
    (∀ a b : Signature, b.identity = { a.identity with direction := b.direction } →
      a.direction ≠ b.direction → a.discriminator ≠ b.discriminator) ∧
    (∀ a b : Signature, b.identity = { a.identity with name := b.name } → a.name = none →
      b.name = some "" → a.discriminator ≠ b.discriminator) := by
  refine ⟨?equal, ?equalMappings, Signature.headBytes_eq_iff, ?kind, ?direction, ?name⟩
  case equal =>
    intro a b hab
    exact Signature.discriminator_congr ((Signature.beq_iff_identity a b).mp hab)
  case equalMappings =>
    intro a b hab
    exact MapSignature.discriminator_congr ((MapSignature.beq_iff_identity a b).mp hab)
  case kind =>
    intro a b h hkind hsame
    exact hkind ((Signature.discriminator_kind h).mp hsame)
  case direction =>
    intro a b h hdirection hsame
    exact hdirection ((Signature.discriminator_direction h).mp hsame)
  case name =>
    intro a b h ha hb
    rw [hb] at h
    exact Signature.discriminator_empty_name ha h

/-- A field that was resolved has the discriminator of the request for it, and another one than the
property of that name, than the same field to be written, and than a constructor with an empty
name. -/
theorem discriminators_follow_identity_near : ∃ read resolved : Signature,
    read = .field .int32 "X" .read Flags.standard ∧
    resolved = read.withResolution ⟨.field .int32 0, [], true⟩ ∧
    resolved.discriminator = read.discriminator ∧
    resolved.discriminator ≠ (Signature.property .int32 "X" .read Flags.standard).discriminator ∧
    resolved.discriminator ≠ (Signature.field .int32 "X" .write Flags.standard).discriminator ∧
    (Signature.constructor .int32 [] Flags.standard).discriminator ≠
      { Signature.constructor .int32 [] Flags.standard with name := some "" }.discriminator := by
  obtain ⟨hequal, -, -, hkind, hdirection, hname⟩ := discriminators_follow_identity
  refine ⟨_, _, rfl, rfl, hequal _ _ ?_, hkind _ _ rfl (by decide), hdirection _ _ rfl (by decide),
    hname _ _ rfl rfl rfl⟩
  exact (Signature.beq_iff_identity _ _).mpr rfl

end Introspect
