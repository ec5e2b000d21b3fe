import Introspect.Hash
import Mathlib.Data.Nat.Prime.Basic
import Mathlib.Data.UInt
import Mathlib.Tactic.Ring

/-!
# `Introspect.Proofs.Hash.Reversible`: what a hash does not forget

A step of the hash exclusive-ors a byte into the state and multiplies by an odd number. Odd numbers
can be cancelled modulo `2 ^ 64` (`eq_zero_of_odd_mul`), so a step can be taken back when its byte
is known (`step_injective`), and a step from a known state tells its byte (`step_byte_injective`).
Any number of steps over the same bytes keeps different states apart (`extend_injective`). Two byte
strings that differ in one byte therefore have different hashes, wherever the byte is and whatever
follows it: `ofBytes_splice_iff`.

The second part is about the byte strings themselves. The eight bytes of a word, the bytes of a text
and those of an optional text determine what they stand for.
-/

set_option autoImplicit false

namespace Introspect.Hash

open scoped UInt64.CommRing

/-! ### Odd factors -/

/-- A product of words is zero when `2 ^ 64` divides the product of the numbers. -/
theorem mul_eq_zero_iff_dvd (factor word : UInt64) :
    factor * word = 0 ↔ 2 ^ 64 ∣ factor.toNat * word.toNat := by
  rw [← UInt64.toNat_inj, UInt64.toNat_mul, Nat.dvd_iff_mod_eq_zero]
  exact Iff.rfl

/-- An odd factor makes no other word zero. -/
theorem eq_zero_of_odd_mul {factor word : UInt64} (hodd : factor.toNat % 2 = 1)
    (h : factor * word = 0) : word = 0 := by
  have hdvd := (mul_eq_zero_iff_dvd factor word).mp h
  have hcoprime : Nat.Coprime (2 ^ 64) factor.toNat :=
    Nat.Coprime.pow_left 64 (Nat.coprime_two_left.mpr (Nat.odd_iff.mpr hodd))
  have hword : 2 ^ 64 ∣ word.toNat := hcoprime.dvd_of_dvd_mul_left hdvd
  have hlt := word.toNat_lt
  -- A multiple of the modulus below the modulus is zero.
  have hzero : word.toNat = 0 := Nat.eq_zero_of_dvd_of_lt hword hlt
  exact UInt64.toNat_inj.mp hzero

/-- An odd factor can be cancelled. -/
theorem mul_right_injective_of_odd {factor : UInt64} (hodd : factor.toNat % 2 = 1) :
    Function.Injective fun word => word * factor := by
  intro a b hab
  have hdiff : factor * (a - b) = 0 := by
    calc factor * (a - b) = a * factor - b * factor := by ring
      _ = 0 := sub_eq_zero.mpr hab
  exact sub_eq_zero.mp (eq_zero_of_odd_mul hodd hdiff)

/-- The multiplier of the hash is odd. -/
theorem prime_odd : prime.toNat % 2 = 1 := by decide

/-! ### Steps -/

/-- A step can be taken back when its byte is known. -/
theorem step_injective (byte : UInt8) : Function.Injective fun hash => step hash byte := by
  intro a b hab
  have hxor : a ^^^ byte.toUInt64 = b ^^^ byte.toUInt64 := mul_right_injective_of_odd prime_odd hab
  exact (UInt64.xor_left_inj byte.toUInt64).mp hxor

/-- A step from a known state tells its byte. -/
theorem step_byte_injective (hash : UInt64) : Function.Injective (step hash) := by
  intro x y hxy
  have hxor : hash ^^^ x.toUInt64 = hash ^^^ y.toUInt64 := mul_right_injective_of_odd prime_odd hxy
  exact UInt8.toUInt64_inj.mp ((UInt64.xor_right_inj hash).mp hxor)

/-- Hashing more bytes keeps different states apart. -/
theorem extend_injective (bytes : List UInt8) :
    Function.Injective fun hash => extend hash bytes := by
  induction bytes with
  | nil => exact fun _ _ hab => hab
  | cons byte rest ih =>
      intro a b hab
      have hrest : step a byte = step b byte := ih hab
      exact step_injective byte hrest

/-- One byte more is one step more. -/
theorem extend_cons (hash : UInt64) (byte : UInt8) (rest : List UInt8) :
    extend hash (byte :: rest) = extend (step hash byte) rest := rfl

/-- Two byte strings that are the same but for one byte have the same hash only if that byte is the
same, too. -/
theorem ofBytes_splice_iff (front back : List UInt8) (x y : UInt8) :
    ofBytes (front ++ x :: back) = ofBytes (front ++ y :: back) ↔ x = y := by
  constructor
  · intro h
    simp only [ofBytes, extend_append, extend_cons] at h
    -- The bytes behind are hashed alike, and so are those in front.
    have hstep := extend_injective back h
    exact step_byte_injective _ hstep
  · rintro rfl
    rfl

/-! ### Byte strings -/

/-- A byte of a word as a number. -/
theorem toNat_byteAt (word : UInt64) {i : Nat} (hi : i < 8) :
    (word >>> (8 * i).toUInt64).toUInt8.toNat = word.toNat / 2 ^ (8 * i) % 256 := by
  have hshift : (8 * i).toUInt64.toNat % 64 = 8 * i := by
    rw [Nat.toUInt64, UInt64.toNat_ofNat']
    omega
  rw [UInt64.toNat_toUInt8, UInt64.toNat_shiftRight, hshift, Nat.shiftRight_eq_div_pow]

/-- Numbers with the same lowest bytes are the same modulo what those bytes can count. -/
theorem mod_eq_of_bytes {m n count : Nat}
    (h : ∀ i < count, m / 2 ^ (8 * i) % 256 = n / 2 ^ (8 * i) % 256) :
    m % 2 ^ (8 * count) = n % 2 ^ (8 * count) := by
  induction count with
  | zero => rw [Nat.mul_zero, Nat.pow_zero, Nat.mod_one, Nat.mod_one]
  | succ count ih =>
      have hlower := ih fun i hi => h i (Nat.lt_succ_of_lt hi)
      have hlast := h count (Nat.lt_succ_self count)
      -- One byte more counts up to 256 times as far.
      have hpow : 2 ^ (8 * (count + 1)) = 2 ^ (8 * count) * 256 := by
        rw [Nat.mul_succ, Nat.pow_add]
      rw [hpow, Nat.mod_mul, Nat.mod_mul, hlower, hlast]

/-- The bytes of a word determine the word. -/
theorem wordBytes_injective : Function.Injective wordBytes := by
  intro a b hab
  have hbyte : ∀ i < 8, a.toNat / 2 ^ (8 * i) % 256 = b.toNat / 2 ^ (8 * i) % 256 := by
    intro i hi
    have hmem := List.map_inj_left.mp hab i (List.mem_range.mpr hi)
    rw [← toNat_byteAt a hi, ← toNat_byteAt b hi, hmem]
  have hmod : a.toNat % 2 ^ 64 = b.toNat % 2 ^ 64 := mod_eq_of_bytes hbyte
  rw [Nat.mod_eq_of_lt a.toNat_lt, Nat.mod_eq_of_lt b.toNat_lt] at hmod
  exact UInt64.toNat_inj.mp hmod

/-- Listing the bytes of an array from a position on appends those that are left. -/
theorem loop_eq_drop (bytes : ByteArray) (i : Nat) (done : List UInt8) :
    ByteArray.toList.loop bytes i done = done.reverse ++ bytes.data.toList.drop i := by
  fun_induction ByteArray.toList.loop bytes i done with
  | case1 i done hlt ih =>
      have hlen : i < bytes.data.toList.length := by simpa using hlt
      have hget : bytes.get! i = bytes.data.toList[i] := by
        show bytes.data[i]! = _
        rw [getElem!_pos bytes.data i hlt, Array.getElem_toList]
      rw [ih, List.drop_eq_getElem_cons hlen, hget]
      simp
  | case2 i done hge =>
      have hnil : bytes.data.toList.drop i = [] := by
        apply List.drop_eq_nil_of_le
        simpa using Nat.le_of_not_lt hge
      rw [hnil, List.append_nil]

/-- The bytes of a text determine the text. -/
theorem textBytes_injective : Function.Injective textBytes := by
  intro s t hst
  have hlist : ∀ text : String, textBytes text = text.toByteArray.data.toList := by
    intro text
    show ByteArray.toList.loop text.toByteArray 0 [] = _
    rw [loop_eq_drop, List.reverse_nil, List.nil_append, List.drop_zero]
  rw [hlist, hlist] at hst
  exact String.toByteArray_inj.mp (ByteArray.ext (Array.toList_inj.mp hst))

/-- The bytes of an optional text determine whether there is one, and which. -/
theorem optionalTextBytes_injective : Function.Injective optionalTextBytes := by
  intro s t hst
  cases s with
  | none =>
      cases t with
      | none => rfl
      | some t => exact absurd (List.cons.inj hst).1 (by decide)
  | some s =>
      cases t with
      | none => exact absurd (List.cons.inj hst).1 (by decide)
      | some t => exact congrArg some (textBytes_injective (List.cons.inj hst).2)

end Introspect.Hash
