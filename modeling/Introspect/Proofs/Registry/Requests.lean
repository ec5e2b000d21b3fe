import Introspect.Proofs.Registry.Assembly

/-!
# `Introspect.Proofs.Registry.Requests`: what every request keeps

A request for a type runs descriptions, which ask for more types, and each of them reserves a handle
and is settled under it in the end. `Traced` collects what these steps must do to a relation between
the registries before and after, and `Traced.request` and `Traced.requestAll` conclude that it holds
across requests for every family of descriptions.

A property that each step keeps is such a relation (`Kept`). The handle of a description was
reserved earlier, so the steps also say that handles are given out in order: a registry never has
fewer of them than before (`Onward`).
-/

set_option autoImplicit false

namespace Introspect.Registry

variable {R : Registry → Registry → Prop} {P : Registry → Prop} {reg next : Registry}

/-! ### Relations across requests -/

/-- The relation holds across everything that requests are made of: array types that are made, and
descriptions that are run between a handle that is reserved and the end under that handle. -/
structure Traced (R : Registry → Registry → Prop) : Prop where
  refl : ∀ reg, R reg reg
  trans : ∀ {a b c : Registry}, R a b → R b c → R a c
  arrayOf : ∀ reg element, R reg (reg.arrayOf element).2
  described : ∀ {reg next : Registry} {native : NativeType} (b : Blueprint),
    reg.known native = none → R (reg.reserve native).2 next →
      R reg (next.settle native (reg.reserve native).1 b).2

namespace Traced

/-- The relation holds across a description if it does across the answers to its requests. -/
theorem run {α : Type} {answer : NativeType → Registry → TypeHandle × Registry} (h : Traced R)
    (hanswer : ∀ native reg, R reg (answer native reg).2) (description : Description α)
    (reg : Registry) : R reg (description.run answer reg).2 := by
  induction description generalizing reg with
  | done a => exact h.refl reg
  | request native next ih => exact h.trans (hanswer native reg) (ih _ _)
  | arrayOf element next ih => exact h.trans (h.arrayOf reg element) (ih _ _)

/-- The relation holds across the answer to a request if it does across the description of a type
that is not known. -/
theorem requestWith {describe : NativeType → Registry → TypeHandle × Registry} (h : Traced R)
    (hdescribe : ∀ native reg, reg.known native = none → R reg (describe native reg).2)
    (native : NativeType) (reg : Registry) : R reg (requestWith describe native reg).2 := by
  fun_induction Registry.requestWith describe native reg with
  | case1 => exact h.refl _
  | case2 element reg hunknown type reserved hreserve inner answered hanswer ih =>
      obtain ⟨rfl, rfl⟩ : type = (reg.reserve (.list element)).1 ∧
          reserved = (reg.reserve (.list element)).2 := by simp [hreserve]
      rw [hanswer] at ih
      exact h.described _ hunknown ih
  | case3 => exact h.refl _
  | case4 _ _ _ hunknown => exact hdescribe _ _ hunknown

/-- The relation holds across a request, however many types are under description. -/
theorem requestUpTo (h : Traced R) (family : Family) (limit : Nat) (native : NativeType)
    (reg : Registry) : R reg (requestUpTo family limit native reg).2 := by
  induction limit generalizing native reg with
  | zero => exact h.requestWith (fun _ reg _ => h.refl reg) native reg
  | succ limit ih =>
      refine h.requestWith (fun native reg hunknown => ?_) native reg
      split
      · exact h.refl reg
      · next description _ => exact h.described _ hunknown (h.run ih description _)

/-- The relation holds across a request. -/
theorem request (h : Traced R) (family : Family) (native : NativeType) (reg : Registry) :
    R reg (request family native reg).2 :=
  h.requestUpTo family family.length native reg

/-- The relation holds across any number of requests. -/
theorem requestAll (h : Traced R) (family : Family) (natives : List NativeType) (reg : Registry) :
    R reg (requestAll family natives reg) := by
  induction natives generalizing reg with
  | nil => exact h.refl reg
  | cons native rest ih => exact h.trans (h.request family native reg) (ih _)

end Traced

/-! ### Handles -/

/-- The handle has been given out. -/
def Given (reg : Registry) (type : TypeHandle) : Prop :=
  ∃ index, 0 < index ∧ index ≤ reg.issued ∧ type = .ofIndex index

/-- A handle stays given out. -/
theorem Given.mono {type : TypeHandle} (h : reg.Given type) (hle : reg.issued ≤ next.issued) :
    next.Given type := by
  obtain ⟨index, hpos, hindex, rfl⟩ := h
  exact ⟨index, hpos, Nat.le_trans hindex hle, rfl⟩

/-- A fresh handle has been given out afterwards. -/
theorem given_fresh (h : reg.issued + 1 ≤ next.issued) : next.Given reg.fresh.1 :=
  ⟨reg.issued + 1, Nat.succ_pos _, h, rfl⟩

/-- While handles are left, a fresh one has not been given out. Handles are words, and the first one
would come back after all the others. -/
theorem not_given_fresh (hleft : reg.issued < UInt64.size) : ¬ reg.Given reg.fresh.1 := by
  rintro ⟨index, hpos, hindex, heq⟩
  have hbits : 0x100000000 + (reg.issued + 1).toUInt64 = 0x100000000 + index.toUInt64 :=
    congrArg TypeHandle.bits heq
  have hwords := congrArg UInt64.toNat ((UInt64.add_right_inj _).mp hbits)
  simp only [Nat.toUInt64, UInt64.toNat_ofNat'] at hwords
  simp only [UInt64.size] at hleft
  omega

/-! ### Properties that are kept -/

/-- The property is kept by the steps that requests are made of. A description is settled under a
handle that was reserved some time before. -/
structure Kept (P : Registry → Prop) : Prop where
  reserve : ∀ {reg : Registry} (native : NativeType), P reg → P (reg.reserve native).2
  arrayOf : ∀ {reg : Registry} (element : TypeHandle), P reg → P (reg.arrayOf element).2
  settle : ∀ {earlier reg : Registry} (native : NativeType) (b : Blueprint), P earlier → P reg →
    earlier.issued < reg.issued → P (reg.settle native (earlier.reserve native).1 b).2

/-- The property holds later on, and no handle was taken back. -/
structure Onward (P : Registry → Prop) (reg next : Registry) : Prop where
  kept : P next
  issued : reg.issued ≤ next.issued

/-- One stretch after another. -/
theorem Onward.trans {last : Registry} (h : Onward P reg next) (h' : Onward P next last) :
    Onward P reg last :=
  ⟨h'.kept, Nat.le_trans h.issued h'.issued⟩

/-- A request for an array type takes no handle back. -/
theorem issued_le_arrayOf (reg : Registry) (element : TypeHandle) :
    reg.issued ≤ (reg.arrayOf element).2.issued := by
  unfold arrayOf
  split
  · exact Nat.le_refl _
  · exact Nat.le_succ _

/-- Naming an array type gives no handle out. -/
theorem issued_nameArraysOf (reg : Registry) (element : TypeHandle) (name : String) :
    (reg.nameArraysOf element name).issued = reg.issued := by
  unfold nameArraysOf
  split <;> rfl

/-- The end of a description takes no handle back. -/
theorem issued_le_settle (reg : Registry) (native : NativeType) (type : TypeHandle)
    (b : Blueprint) : reg.issued ≤ (reg.settle native type b).2.issued := by
  unfold settle
  split
  · exact issued_le_arrayOf reg _
  · rw [issued_nameArraysOf]
    exact Nat.le_refl _

namespace Kept

/-- A type that is declared at once is settled under the handle reserved just before. -/
theorem declare (h : Kept P) (hreg : P reg) (native : NativeType) (b : Blueprint) :
    P (reg.declare native b).2 :=
  h.settle native b hreg (h.reserve native hreg) (Nat.lt_succ_self _)

/-- A description that was run after a handle was reserved can be settled under it. -/
theorem settled (h : Kept P) (hreg : P reg) {native : NativeType} (b : Blueprint)
    (hon : Onward P (reg.reserve native).2 next) :
    Onward P reg (next.settle native (reg.reserve native).1 b).2 := by
  have hissued : reg.issued < next.issued := hon.issued
  exact ⟨h.settle native b hreg hon.kept hissued,
    Nat.le_trans (Nat.le_of_lt hissued) (issued_le_settle next native _ b)⟩

/-- A property that the steps keep holds later on, if it holds at all. -/
theorem traced (h : Kept P) : Traced fun reg next => P reg → Onward P reg next where
  refl _ hreg := ⟨hreg, Nat.le_refl _⟩
  trans hfirst hsecond hreg :=
    have hmiddle := hfirst hreg
    hmiddle.trans (hsecond hmiddle.kept)
  arrayOf reg element hreg := ⟨h.arrayOf element hreg, issued_le_arrayOf reg element⟩
  described b _ hrun hreg := h.settled hreg b (hrun (h.reserve _ hreg))

/-- A request keeps the property. -/
theorem request (h : Kept P) (family : Family) (native : NativeType) (hreg : P reg) :
    P (request family native reg).2 :=
  (h.traced.request family native reg hreg).kept

/-- Any number of requests keep the property. -/
theorem requestAll (h : Kept P) (family : Family) (natives : List NativeType) (hreg : P reg) :
    P (requestAll family natives reg) :=
  (h.traced.requestAll family natives reg hreg).kept

end Kept

end Introspect.Registry
