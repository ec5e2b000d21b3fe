import Introspect.Accessor.Call
import Introspect.Proofs.Registry.Derivation
import Introspect.Proofs.World.Content
import Introspect.Proofs.World.Locking

/-!
# `Introspect.Proofs.Accessor.Target`: an object as the target of a call

A target that is an object, bare or directly in a cell, is taken to the part that belongs to the
type the code was written for. `partOf_eq_some_iff` says which part that is.

Each of the two ways to that part has two outcomes when no one holds the object. Without such a part
the call fails with `notAnInstance` and leaves the world undisturbed, whatever the body is
(`withShared_foreign`, `withExclusive_foreign`). Otherwise the body runs on the part, in the locked
world (`withShared_part`, `withExclusive_part`). `Callee.run_foreign` and `Callee.run_part` say the
same about the body of a method, and `CallPlan.invoke_foreign` and `CallPlan.invoke_part` about a
call, which first chooses one of two bodies.
-/

set_option autoImplicit false

namespace Introspect

namespace World

variable {w locked : World} {target : Value} {object : ObjectRef} {declaring : TypeHandle}
  {depth : Nat} {part : Instance} {α : Type}

/-! ### The part of an object -/

/-- The part of an object that belongs to a type, and how deep it lies. -/
theorem partOf_eq_some_iff :
    w.partOf object declaring = some (depth, part) ↔
      w.registry.PartAt declaring object.type (w.payload object) depth part := by
  simp only [partOf, Option.bind_eq_some_iff, Option.map_eq_some_iff, Prod.mk.injEq,
    Registry.depth?_eq_some_iff]
  constructor
  · rintro ⟨found, ⟨view, hview⟩, part', hpart', rfl, rfl⟩
    obtain rfl : view = part' := by simpa using hview.part_eq.symm.trans hpart'
    exact hview
  · exact fun h => ⟨depth, ⟨part, h⟩, part, h.part_eq, rfl, rfl⟩

/-- An object has no part of a type that it does not derive from. -/
theorem partOf_of_not_derives (h : ¬ w.registry.DerivesFrom object.type declaring) :
    w.partOf object declaring = none := by
  cases hpart : w.partOf object declaring with
  | none => rfl
  | some found => exact absurd (partOf_eq_some_iff.mp hpart).derivesFrom h

/-- A lock does not change the parts of an object. -/
theorem partOf_lock {held : ObjectRef} {mode : Hold}
    (h : w.lock held mode = .ok locked) (object : ObjectRef) (declaring : TypeHandle) :
    locked.partOf object declaring = w.partOf object declaring := by
  rw [(lock_eq h).2]
  rfl

/-- An object that a cell holds directly is at the end of the chain. -/
theorem content_of_opened (h : w.opened target = .object object) :
    w.content target = .object object := by
  cases target with
  | cell cell =>
      have hnests : w.Nests [] (w.cellContent cell) (.object object) := by
        rw [show w.cellContent cell = .object object from h]
        exact .bare rfl
      exact content_of_nests (.inside hnests)
  | _ => exact (content_of_not_cell w rfl).trans h

/-! ### Reading -/

/-- A target of another type fails before the body runs. -/
theorem withShared_foreign (htarget : w.opened target = .object object)
    (hfree : w.Unlocked object) (hpart : w.partOf object declaring = none) (body : SharedBody α) :
    (w.withShared target declaring body).1 = .error (w.notAnInstance object.type declaring) ∧
      Undisturbed w (w.withShared target declaring body).2 := by
  obtain ⟨locked, hlock⟩ := lock_of_unlocked hfree .shared
  have hlocked : locked.partOf object declaring = none := by rw [partOf_lock hlock, hpart]
  simp only [withShared, content_of_opened htarget, readObject, hlock, hlocked, true_and]
  exact undisturbed_unlock hfree hlock

/-- The body runs on the part of the target, under a shared lock. -/
theorem withShared_part (htarget : w.opened target = .object object)
    (hlock : w.lock object .shared = .ok locked)
    (hpart : w.partOf object declaring = some (depth, part)) (body : SharedBody α) :
    w.withShared target declaring body =
      ((body part locked).1, (body part locked).2.unlock object .shared) := by
  have hlocked : locked.partOf object declaring = some (depth, part) := by
    rw [partOf_lock hlock, hpart]
  simp only [withShared, content_of_opened htarget, readObject, hlock, hlocked]

/-! ### Changing -/

/-- An object in a cell is changed like a bare one. -/
theorem withExclusive_object (htarget : w.opened target = .object object) (declaring : TypeHandle)
    (writeBack : WriteBack) (body : ExclusiveBody α) :
    w.withExclusive target declaring writeBack body = w.changeObject object declaring body := by
  cases target with
  | cell cell =>
      have hcell : w.cellContent cell = .object object := htarget
      simp [withExclusive, hcell]
  | object ref =>
      obtain rfl : ref = object := by simpa [opened] using htarget
      rfl
  | _ => simp [opened] at htarget

/-- A target of another type fails before the body runs. -/
theorem withExclusive_foreign (htarget : w.opened target = .object object)
    (hfree : w.Unlocked object) (hpart : w.partOf object declaring = none) (writeBack : WriteBack)
    (body : ExclusiveBody α) :
    (w.withExclusive target declaring writeBack body).1 =
        .error (w.notAnInstance object.type declaring) ∧
      Undisturbed w (w.withExclusive target declaring writeBack body).2 := by
  obtain ⟨locked, hlock⟩ := lock_of_unlocked hfree .exclusive
  have hlocked : locked.partOf object declaring = none := by rw [partOf_lock hlock, hpart]
  rw [withExclusive_object htarget]
  simp only [changeObject, hlock, hlocked, true_and]
  exact undisturbed_unlock hfree hlock

/-- The body runs on the part of the target, under an exclusive lock, and what it made of the part
is put back. -/
theorem withExclusive_part (htarget : w.opened target = .object object)
    (hlock : w.lock object .exclusive = .ok locked)
    (hpart : w.partOf object declaring = some (depth, part)) (writeBack : WriteBack)
    (body : ExclusiveBody α) :
    w.withExclusive target declaring writeBack body =
      ((body part locked).1.1, ((body part locked).2.setPayload object
        ((w.payload object).setPart depth (body part locked).1.2)).unlock object .exclusive) := by
  have hlocked : locked.partOf object declaring = some (depth, part) := by
    rw [partOf_lock hlock, hpart]
  have hpayload : locked.payload object = w.payload object := by rw [(lock_eq hlock).2]; rfl
  rw [withExclusive_object htarget]
  simp only [changeObject, hlock, hlocked, hpayload]

/-- An object is no boxed value type. -/
theorem requireWritable_object (htarget : w.opened target = .object object) :
    w.requireWritable target = .ok () := by
  cases target with
  | struct type data => simp [opened] at htarget
  | _ => rfl

end World

/-! ### Bodies of methods -/

namespace Callee

/-- How a body holds the object that it runs on. -/
def hold (callee : Callee) : Hold := if callee.mutates then .exclusive else .shared

/-- The view that a body gets of a part. -/
def receiver (callee : Callee) (part : Instance) : Receiver :=
  if callee.mutates then .exclusive part else .shared part

variable {callee : Callee} {w locked : World} {target : Value} {object : ObjectRef} {depth : Nat}
  {part : Instance}

/-- A body that reads its receiver, as a body over a view. -/
def reading (callee : Callee) (typeArgs : List TypeHandle) (locals : List Value) :
    World.SharedBody (Value × List Value) := fun view w =>
  let ran := callee.runBody (some (.shared view)) typeArgs locals w
  (answer ran.1, ran.2)

/-- A body that may change its receiver, as a body over a view. -/
def changing (callee : Callee) (typeArgs : List TypeHandle) (locals : List Value) :
    World.ExclusiveBody (Value × List Value) := fun view w =>
  let ran := callee.runBody (some (.exclusive view)) typeArgs locals w
  ((answer ran.1, ran.1.view), ran.2)

/-- What a call gives back: a body that failed, or did not run, leaves the locals as they were. -/
def given (locals : List Value) (result : Except InvokeError (Value × List Value)) :
    Except InvokeError Value × List Value :=
  match result with
  | .ok (v, changed) => (.ok v, changed)
  | .error e => (.error e, locals)

/-- A body that only reads goes through the shared way to its part, any other one through the
exclusive way. -/
theorem run_eq (callee : Callee) (target : Value) (writeBack : WriteBack)
    (typeArgs : List TypeHandle) (locals : List Value) (w : World) :
    callee.run target writeBack typeArgs locals w =
      if callee.mutates then
        let ran := w.withExclusive target callee.owner writeBack (callee.changing typeArgs locals)
        (given locals ran.1, ran.2)
      else
        let ran := w.withShared target callee.owner (callee.reading typeArgs locals)
        (given locals ran.1, ran.2) := by
  have hgiven : ∀ ran : Except InvokeError (Value × List Value) × World,
      (match ran.1 with
        | .ok (v, changed) => ((Except.ok v, changed), ran.2)
        | .error e => ((Except.error e, locals), ran.2)) = (given locals ran.1, ran.2) := by
    rintro ⟨result, after⟩
    cases result <;> rfl
  cases hmutates : callee.mutates with
  | false =>
      simp only [run, hmutates, Bool.false_eq_true, if_false]
      exact hgiven (w.withShared target callee.owner (callee.reading typeArgs locals))
  | true =>
      simp only [run, hmutates, if_true]
      exact hgiven (w.withExclusive target callee.owner writeBack
        (callee.changing typeArgs locals))

/-- On an object of another type the body does not run. -/
theorem run_foreign (htarget : w.opened target = .object object) (hfree : w.Unlocked object)
    (hpart : w.partOf object callee.owner = none) (writeBack : WriteBack)
    (typeArgs : List TypeHandle) (locals : List Value) :
    (callee.run target writeBack typeArgs locals w).1 =
        (.error (w.notAnInstance object.type callee.owner), locals) ∧
      w.Undisturbed (callee.run target writeBack typeArgs locals w).2 := by
  rw [run_eq]
  split
  · obtain ⟨hresult, hafter⟩ := World.withExclusive_foreign htarget hfree hpart writeBack
      (callee.changing typeArgs locals)
    exact ⟨by simp only [hresult, given], hafter⟩
  · obtain ⟨hresult, hafter⟩ := World.withShared_foreign htarget hfree hpart
      (callee.reading typeArgs locals)
    exact ⟨by simp only [hresult, given], hafter⟩

/-- The world after a body that ran on a part of an object: what it made of the part is put back, if
it may change it. -/
def keep (callee : Callee) (object : ObjectRef) (depth : Nat) (data : Instance)
    (ran : Outcome × World) : World :=
  if callee.mutates then ran.2.setPayload object (data.setPart depth ran.1.view) else ran.2

/-- On an object of the right type the body runs on the part that belongs to its type, in a world
where the object is held. The call gives back what the body does. -/
theorem run_part (htarget : w.opened target = .object object)
    (hlock : w.lock object callee.hold = .ok locked)
    (hpart : w.partOf object callee.owner = some (depth, part)) (writeBack : WriteBack)
    (typeArgs : List TypeHandle) (locals : List Value) {ran : Outcome × World}
    (hran : callee.runBody (some (callee.receiver part)) typeArgs locals locked = ran) :
    callee.run target writeBack typeArgs locals w =
      (given locals (answer ran.1),
        (callee.keep object depth (w.payload object) ran).unlock object callee.hold) := by
  subst hran
  rw [run_eq]
  unfold hold at hlock
  unfold hold receiver keep
  split
  · next hmutates =>
      rw [if_pos hmutates] at hlock
      rw [World.withExclusive_part htarget hlock hpart]
      rfl
  · next hmutates =>
      rw [if_neg hmutates] at hlock
      rw [World.withShared_part htarget hlock hpart]
      rfl

end Callee

/-! ### Calls -/

namespace CallPlan

/-- The body in the target's slot, for a virtual call, if it is another one than the resolved. -/
def replacement (plan : CallPlan) (target : Value) (w : World) : Option Callee :=
  match plan.dispatch with
  | .virtual slot => overrideFor w target slot plan.method
  | _ => none

/-- The body that a call runs. -/
def chosen (plan : CallPlan) (target : Value) (w : World) : Callee :=
  (plan.replacement target w).getD plan.callee

/-- How a call ends after a body that was run: the locals come back into the arguments when the body
succeeded. -/
def bringBack (plan : CallPlan) (args : List Value) (outcome : Outcome) (after : World) :
    (Except InvokeError Value × List Value) × World :=
  match outcome.result with
  | .ok v =>
    let (args, after) := plan.arguments.copyOut outcome.args args after
    ((.ok v, args), after)
  | .error e => ((.error e, args), after)

variable {plan : CallPlan} {target : Value} {args locals : List Value} {w locked : World}
  {object : ObjectRef} {depth : Nat} {part : Instance}

/-- The result of a call is that of its body. -/
theorem bringBack_result (outcome : Outcome) (after : World) :
    (plan.bringBack args outcome after).1.1 = outcome.result := by
  unfold bringBack
  split
  · next h => rw [h]
  · next h => rw [h]

/-- A call with a target runs the body that was chosen for it. -/
theorem invoke_chosen (h : plan.dispatch ≠ .static) (target : Value)
    (args : List Value) (w : World) :
    plan.invoke target args w = plan.arguments.call args w
      ((plan.chosen target w).run target plan.writeBack plan.typeArgs) := by
  unfold invoke chosen replacement
  cases hdispatch : plan.dispatch with
  | static => exact absurd hdispatch h
  | direct => rfl
  | virtual slot => rfl

/-- A call fails without an effect when the chosen body is for objects of another type. -/
theorem invoke_foreign (hdispatch : plan.dispatch ≠ .static)
    (htarget : w.opened target = .object object) (hfree : w.Unlocked object)
    (hin : plan.arguments.copyIn w args = .ok locals)
    (hpart : w.partOf object (plan.chosen target w).owner = none) :
    (plan.invoke target args w).1 =
        (.error (w.notAnInstance object.type (plan.chosen target w).owner), args) ∧
      w.Undisturbed (plan.invoke target args w).2 := by
  obtain ⟨hresult, hafter⟩ := Callee.run_foreign htarget hfree hpart plan.writeBack plan.typeArgs
    locals
  have hcall := ArgPlan.call_error plan.arguments args locals locals w
    ((plan.chosen target w).run target plan.writeBack plan.typeArgs locals w).2
    ((plan.chosen target w).run target plan.writeBack plan.typeArgs)
    (w.notAnInstance object.type (plan.chosen target w).owner) hin (Prod.ext hresult rfl)
  rw [invoke_chosen hdispatch, hcall]
  exact ⟨rfl, hafter⟩

/-- A call runs the chosen body on the part of the object that belongs to the type of that body, in
a world where the object is held, and ends with what the body leaves behind. -/
theorem invoke_part {callee : Callee} (hdispatch : plan.dispatch ≠ .static)
    (hchosen : plan.chosen target w = callee) (htarget : w.opened target = .object object)
    (hlock : w.lock object callee.hold = .ok locked)
    (hin : plan.arguments.copyIn w args = .ok locals)
    (hpart : w.partOf object callee.owner = some (depth, part)) {ran : Outcome × World}
    (hran : callee.runBody (some (callee.receiver part)) plan.typeArgs locals locked = ran) :
    plan.invoke target args w = plan.bringBack args ran.1
      ((callee.keep object depth (w.payload object) ran).unlock object callee.hold) := by
  have hrun := Callee.run_part htarget hlock hpart plan.writeBack plan.typeArgs locals hran
  rw [invoke_chosen hdispatch, hchosen]
  simp only [ArgPlan.call, hin, hrun, bringBack]
  unfold Callee.given Callee.answer
  cases ran.1.result <;> rfl

end CallPlan

end Introspect
