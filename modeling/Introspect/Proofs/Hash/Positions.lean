import Introspect.Proofs.Hash.Reversible
import Introspect.Signature

/-!
# `Introspect.Proofs.Hash.Positions`: what a positional sum sees of the order

A positional sum weights the hash of each entry by its position. When one entry is replaced, the sum
changes by the position times the difference of the hashes (`positionalSumFrom_set`). Two entries
that change places are two replacements, and what remains of their weights is their distance
(`positionalSum_exchange`).

`SeesOrder` says what follows from this modulo `2 ^ 64`. An odd distance can be cancelled, so the
sum changes whenever the two hashes differ. An even distance cannot: the sum stays the same as soon
as the product of distance and difference is a multiple of `2 ^ 64`, which it can be for different
hashes. `sums_see_order` is the main result, for lists of types and lists of names.
-/

set_option autoImplicit false

namespace Introspect.Hash

open scoped UInt64.CommRing

/-! ### Replacing one entry -/

/-- The weight behind a position. -/
theorem weight_succ (position : UInt64) (i : Nat) :
    position + (i + 1).toUInt64 = position + 1 + i.toUInt64 := by
  show position + UInt64.ofNat (i + 1) = position + 1 + UInt64.ofNat i
  rw [UInt64.ofNat_add]
  show position + (UInt64.ofNat i + 1) = position + 1 + UInt64.ofNat i
  ring

/-- An entry that is replaced changes the sum by its weight times the difference of the hashes. -/
theorem positionalSumFrom_set (position : UInt64) (items : List (List UInt8)) (i : Nat)
    (hi : i < items.length) (item : List UInt8) :
    positionalSumFrom position (items.set i item) =
      positionalSumFrom position items +
        (position + i.toUInt64) * (ofBytes item - ofBytes items[i]) := by
  induction items generalizing position i with
  | nil => exact absurd hi (Nat.not_lt_zero i)
  | cons first rest ih =>
      cases i with
      | zero =>
          show ofBytes item * position + positionalSumFrom (position + 1) rest =
            ofBytes first * position + positionalSumFrom (position + 1) rest +
              (position + 0) * (ofBytes item - ofBytes first)
          ring
      | succ i =>
          have hi : i < rest.length := Nat.lt_of_succ_lt_succ hi
          have hrest := ih (position + 1) i hi
          rw [weight_succ]
          show ofBytes first * position + positionalSumFrom (position + 1) (rest.set i item) =
            ofBytes first * position + positionalSumFrom (position + 1) rest +
              (position + 1 + i.toUInt64) * (ofBytes item - ofBytes rest[i])
          rw [hrest]
          ring

/-! ### Exchanging two entries -/

/-- Two entries that change places change the sum by their distance times the difference of the
hashes. -/
theorem positionalSum_exchange (items : List (List UInt8)) {i j : Nat} (hij : i < j)
    (hj : j < items.length) :
    positionalSum ((items.set i items[j]).set j items[i]) =
      positionalSum items + (j - i).toUInt64 * (ofBytes items[i] - ofBytes items[j]) := by
  have hlength : j < (items.set i items[j]).length := by rwa [List.length_set]
  -- The second replacement finds the entry that the list had there from the start.
  have hentry : (items.set i items[j])[j] = items[j] := List.getElem_set_ne (by omega) hlength
  have hdistance : (j - i).toUInt64 = j.toUInt64 - i.toUInt64 := UInt64.ofNat_sub (by omega)
  unfold positionalSum
  rw [positionalSumFrom_set 1 _ j hlength, positionalSumFrom_set 1 items i (by omega), hentry,
    hdistance]
  ring

/-- What a sum over a list says about the order of its entries, when two of them change places. -/
structure SeesOrder {α : Type} (hash : α → UInt64) (sum : List α → UInt64) : Prop where
  /-- the sum changes by the distance times the difference of the hashes -/
  exchange : ∀ (entries : List α) (i j : Nat) (hij : i < j) (hj : j < entries.length),
    sum ((entries.set i entries[j]).set j entries[i]) =
      sum entries + (j - i).toUInt64 * (hash entries[i] - hash entries[j])
  /-- at an odd distance the sum changes exactly when the hashes differ -/
  odd : ∀ (entries : List α) (i j : Nat) (hij : i < j) (hj : j < entries.length), (j - i) % 2 = 1 →
    (sum ((entries.set i entries[j]).set j entries[i]) ≠ sum entries ↔
      hash entries[i] ≠ hash entries[j])
  /-- at any distance it changes exactly when the product is no multiple of the modulus -/
  changes_iff : ∀ (entries : List α) (i j : Nat) (hij : i < j) (hj : j < entries.length),
    sum ((entries.set i entries[j]).set j entries[i]) ≠ sum entries ↔
      ¬ 2 ^ 64 ∣ (j - i) * (hash entries[i] - hash entries[j]).toNat

/-- A distance is odd as a word when it is odd. -/
theorem toUInt64_odd {n : Nat} (h : n % 2 = 1) : n.toUInt64.toNat % 2 = 1 := by
  rw [Nat.toUInt64, UInt64.toNat_ofNat']
  omega

/-- A distance that is taken modulo `2 ^ 64` leaves the same products divisible. -/
theorem toUInt64_mul_eq_zero_iff (n : Nat) (word : UInt64) :
    n.toUInt64 * word = 0 ↔ 2 ^ 64 ∣ n * word.toNat := by
  rw [mul_eq_zero_iff_dvd, Nat.toUInt64, UInt64.toNat_ofNat', Nat.dvd_iff_mod_eq_zero,
    Nat.dvd_iff_mod_eq_zero, Nat.mod_mul_mod]

/-- Every positional sum sees the order in this way, whatever the entries stand for. -/
theorem seesOrder_positionalSum {α : Type} (bytes : α → List UInt8) :
    SeesOrder (fun entry => ofBytes (bytes entry))
      (fun entries => positionalSum (entries.map bytes)) := by
  have hexchange : ∀ (entries : List α) (i j : Nat) (hij : i < j) (hj : j < entries.length),
      positionalSum (((entries.set i entries[j]).set j entries[i]).map bytes) =
        positionalSum (entries.map bytes) +
          (j - i).toUInt64 * (ofBytes (bytes entries[i]) - ofBytes (bytes entries[j])) := by
    intro entries i j hij hj
    have hlength : j < (entries.map bytes).length := by rwa [List.length_map]
    have hsum := positionalSum_exchange (entries.map bytes) hij hlength
    simpa only [List.map_set, List.getElem_map] using hsum
  -- The sum stays the same exactly when nothing is added.
  have hsame : ∀ (entries : List α) (i j : Nat) (hij : i < j) (hj : j < entries.length),
      positionalSum (((entries.set i entries[j]).set j entries[i]).map bytes) =
          positionalSum (entries.map bytes) ↔
        (j - i).toUInt64 * (ofBytes (bytes entries[i]) - ofBytes (bytes entries[j])) = 0 := by
    intro entries i j hij hj
    rw [hexchange entries i j hij hj]
    exact add_eq_left
  refine ⟨hexchange, ?odd, ?changes_iff⟩
  case odd =>
    intro entries i j hij hj hodd
    rw [not_iff_not, hsame entries i j hij hj]
    constructor
    · intro hzero
      exact sub_eq_zero.mp (eq_zero_of_odd_mul (toUInt64_odd hodd) hzero)
    · intro heq
      rw [sub_eq_zero.mpr heq]
      exact mul_zero _
  case changes_iff =>
    intro entries i j hij hj
    rw [not_iff_not, hsame entries i j hij hj]
    exact toUInt64_mul_eq_zero_iff _ _

/-- The sums over lists of types and over lists of names see the order of their entries.

* Two entries that change places change the sum by their distance times the difference of their
  hashes, modulo `2 ^ 64`.
* At an odd distance, that of neighbours in particular, the sum changes exactly when the hashes
  differ.
* At any distance it changes exactly when distance times difference is no multiple of `2 ^ 64`. -/
theorem sums_see_order :
    SeesOrder (fun type : TypeHandle => ofBytes type.bytes) Signature.typeSum ∧
      SeesOrder (fun name : String => ofBytes (textBytes name)) textSum :=
  ⟨seesOrder_positionalSum TypeHandle.bytes, seesOrder_positionalSum textBytes⟩

/-- A number and a text as parameters are told from a text and a number, and two names from the same
names in the other order. -/
theorem sums_see_order_of_neighbours :
    Signature.typeSum [.string, .int32] ≠ Signature.typeSum [.int32, .string] ∧
      textSum ["Y", "X"] ≠ textSum ["X", "Y"] := by
  have htypes : ofBytes TypeHandle.int32.bytes ≠ ofBytes TypeHandle.string.bytes := by decide
  have hnames : ofBytes (textBytes "X") ≠ ofBytes (textBytes "Y") := by decide +kernel
  exact ⟨(sums_see_order.1.odd [.int32, .string] 0 1 (by decide) (by decide) rfl).mpr htypes,
    (sums_see_order.2.odd ["X", "Y"] 0 1 (by decide) (by decide) rfl).mpr hnames⟩

end Introspect.Hash
