import Introspect.Proofs.Accessor.Compiled
import Introspect.Proofs.Registry.Assembly
import Introspect.Sample.Family

/-!
# `Introspect.Proofs.Accessor.Safety`: accessors on objects of unrelated types

An instance accessor works on objects of the type that declares its member, and of the types derived
from it. `run_of_unrelated` says what it does on any other object. Most of the time nothing happens:
the call fails with a target mismatch, before any code of a member runs, and neither the heap nor
the arguments change.

A virtual call looks into the dispatch table of the object's type before it looks at the object, and
never asks how that type relates to the declaring one. When the slot holds a method of a type that
the object has a part of, that method runs, whatever it is: `describe_runs_on_animal` shows one that
has nothing to do with the one that was called.
-/

set_option autoImplicit false

namespace Introspect

namespace Access

variable {access : Access} {target : Value} {w : World} {object : ObjectRef}
  {declaring : TypeHandle} {locals : List Value}

/-- The type whose part the code works on that is run in the end. -/
def worksOn (access : Access) (target : Value) (w : World) : Option TypeHandle :=
  access.owner.map fun owner => ((access.replacement target w).map Callee.owner).getD owner

/-- What a call answers with when the code of its member gives a result. A write has no result. -/
def answer (access : Access) (result : Except InvokeError Value) : Except InvokeError Value :=
  match access with
  | write .. => result.map fun _ => .null
  | _ => result

/-- An access through a method is a call of that method. -/
theorem run_of_plan {plan : CallPlan} (hplan : access.plan? = some plan)
    (htarget : w.opened target = .object object) :
    (access.run target w).1.1 = access.answer (plan.invoke target access.args w).1.1 ∧
      (access.run target w).2 = (plan.invoke target access.args w).2 ∧
      ((plan.invoke target access.args w).1.2 = access.args →
        (access.run target w).1.2 = access.args) := by
  cases access with
  | read reader =>
      cases reader with
      | call found =>
          obtain rfl : found = plan := by simpa [plan?] using hplan
          exact ⟨rfl, rfl, fun _ => rfl⟩
      | _ => simp [plan?] at hplan
  | write writer v =>
      cases writer with
      | call isStatic found =>
          obtain rfl : found = plan := by simpa [plan?] using hplan
          have hwritable : (if isStatic then .ok () else w.requireWritable target) =
              (.ok () : Except InvokeError Unit) := by
            rw [World.requireWritable_object htarget, ite_self]
          simp only [run, Writer.run, hwritable, answer, args, implies_true, and_true]
          cases (found.invoke target [v] w).1.1 <;> rfl
      | _ => simp [plan?] at hplan
  | invoke found args =>
      obtain rfl : found = plan := by simpa [plan?] using hplan
      exact ⟨rfl, rfl, id⟩

/-- The chosen body of an access through a method is on the type that the access works on. -/
theorem worksOn_of_plan {plan : CallPlan} (hplan : access.plan? = some plan)
    (howner : access.worksOn target w = some declaring) :
    plan.dispatch ≠ .static ∧ (plan.chosen target w).owner = declaring := by
  obtain ⟨owner, howner', hchosen⟩ := Option.map_eq_some_iff.mp howner
  have hplanOwner : plan.dispatch ≠ .static ∧ plan.callee.owner = owner := by
    cases access with
    | read reader => cases reader <;> simp_all [plan?, Access.owner]
    | write writer v => cases writer <;> simp_all [plan?, Access.owner]
    | invoke found args => simp_all [plan?, Access.owner]
  refine ⟨hplanOwner.1, ?_⟩
  rw [← hchosen, ← hplanOwner.2, replacement, hplan]
  unfold CallPlan.chosen
  simp only [Option.bind_some]
  cases plan.replacement target w <;> rfl

/-- The arguments of an access through a method are marshalled for that method. -/
theorem locals_of_plan {plan : CallPlan} (hplan : access.plan? = some plan) (w : World) :
    access.locals w = plan.arguments.copyIn w access.args := by
  cases access with
  | read reader => cases reader <;> simp_all [plan?, Access.locals]
  | write writer v => cases writer <;> simp_all [plan?, Access.locals]
  | invoke found args => simp_all [plan?, Access.locals]

/-- An access without a method that needs a target is to a field. -/
theorem field_of_no_plan (hplan : access.plan? = none) (howner : access.owner = some declaring) :
    (∃ get, access = .read (.field declaring get)) ∨
      ∃ type set v, access = .write (.field declaring type set) v := by
  cases access with
  | read reader =>
      cases reader with
      | field found get =>
          obtain rfl : found = declaring := by simpa [owner] using howner
          exact .inl ⟨get, rfl⟩
      | call plan => simp [plan?] at hplan
      | _ => simp [owner] at howner
  | write writer v =>
      cases writer with
      | field found type set =>
          obtain rfl : found = declaring := by simpa [owner] using howner
          exact .inr ⟨type, set, v, rfl⟩
      | call isStatic plan => simp [plan?] at hplan
      | _ => simp [owner] at howner
  | invoke plan args => simp [plan?] at hplan

/-- The value that goes into a field is the one that was written, converted. -/
theorem cast_of_locals {type : TypeHandle}
    {set : Instance → Value → Code (Except InvokeError Unit × Instance)} {v : Value}
    (hlocals : (write (.field declaring type set) v).locals w = .ok locals) :
    ∃ new, w.cast v type = .ok new ∧ locals = [new] := by
  cases hcast : w.cast v type with
  | error e => simp [Access.locals, hcast, Except.map] at hlocals
  | ok new => exact ⟨new, rfl, by simpa [Access.locals, hcast, Except.map, eq_comm] using hlocals⟩

/-- The code of a field does not run on an object of another type. -/
theorem run_foreign_field (hplan : access.plan? = none) (howner : access.owner = some declaring)
    (htarget : w.opened target = .object object) (hfree : w.Unlocked object)
    (hlocals : access.locals w = .ok locals) (hpart : w.partOf object declaring = none) :
    (access.run target w).1 = (.error (w.notAnInstance object.type declaring), access.args) ∧
      w.Undisturbed (access.run target w).2 := by
  rcases field_of_no_plan hplan howner with ⟨get, rfl⟩ | ⟨type, set, v, rfl⟩
  · obtain ⟨hresult, hafter⟩ := World.withShared_foreign htarget hfree hpart
      fun view w => (get view).run w
    exact ⟨Prod.ext hresult rfl, hafter⟩
  · obtain ⟨new, hcast, -⟩ := cast_of_locals hlocals
    obtain ⟨hresult, hafter⟩ := World.withExclusive_foreign htarget hfree hpart .store
      fun view w => (set view new).run w
    simp only [run, Writer.run, World.requireWritable_object htarget, hcast, hresult, args,
      Except.map, true_and]
    exact hafter

/-- An access fails without an effect when the code is for objects of another type. -/
theorem run_foreign (howner : access.worksOn target w = some declaring)
    (htarget : w.opened target = .object object) (hfree : w.Unlocked object)
    (hlocals : access.locals w = .ok locals) (hpart : w.partOf object declaring = none) :
    (access.run target w).1 = (.error (w.notAnInstance object.type declaring), access.args) ∧
      w.Undisturbed (access.run target w).2 := by
  cases hplan : access.plan? with
  | some plan =>
      obtain ⟨hdispatch, rfl⟩ := worksOn_of_plan hplan howner
      obtain ⟨hcall, hundisturbed⟩ := CallPlan.invoke_foreign hdispatch htarget hfree
        ((locals_of_plan hplan w).symm.trans hlocals) hpart
      obtain ⟨hresult, hafter, hargs⟩ := run_of_plan hplan htarget
      rw [hafter]
      refine ⟨Prod.ext ?_ (hargs (by rw [hcall])), hundisturbed⟩
      rw [hresult, hcall]
      cases access <;> rfl
  | none =>
      have hreplacement : access.replacement target w = none := by simp [replacement, hplan]
      have howner' : access.owner = some declaring := by
        simpa [worksOn, hreplacement] using howner
      exact run_foreign_field hplan howner' htarget hfree hlocals hpart

/-- A call of a replaced method has the result of the method that replaces it, run on the part of
the object that belongs to the type of that method. -/
theorem run_replacement {plan : CallPlan} {callee : Callee} {depth : Nat} {part : Instance}
    (hplan : access.plan? = some plan) (howner : access.owner ≠ none)
    (hcallee : plan.replacement target w = some callee)
    (htarget : w.opened target = .object object) (hfree : w.Unlocked object)
    (hlocals : access.locals w = .ok locals)
    (hpart : w.partOf object callee.owner = some (depth, part)) :
    ∃ locked, w.lock object callee.hold = .ok locked ∧
      (access.run target w).1.1 = access.answer
        (callee.runBody (some (callee.receiver part)) plan.typeArgs locals locked).1.result := by
  obtain ⟨declaring, howner⟩ := Option.ne_none_iff_exists'.mp howner
  have hworks : access.worksOn target w = some callee.owner := by
    simp [worksOn, howner, replacement, hplan, hcallee]
  have hchosen : plan.chosen target w = callee := by simp [CallPlan.chosen, hcallee]
  obtain ⟨hdispatch, -⟩ := worksOn_of_plan hplan hworks
  obtain ⟨locked, hlock⟩ := World.lock_of_unlocked hfree callee.hold
  have hinvoke := CallPlan.invoke_part hdispatch hchosen htarget hlock
    ((locals_of_plan hplan w).symm.trans hlocals) hpart rfl
  refine ⟨locked, hlock, (run_of_plan hplan htarget).1.trans ?_⟩
  rw [hinvoke, CallPlan.bringBack_result]

/-- An accessor of an instance member, on an object that no one holds and whose type neither is the
type that declares the member nor derives from it, with arguments that can be marshalled:

* unless a virtual call finds the method of a type that the object has a part of, the access fails
  with a target mismatch, the arguments are as before, and nothing has changed in the world,
  whatever the code of the members is;
* otherwise that method runs on that part, and its result is that of the access. -/
theorem run_of_unrelated {reg : Registry} {sig : Signature}
    (hcompiled : access.Compiled reg sig declaring) (hinstance : access.owner ≠ none)
    (htarget : w.opened target = .object object) (hfree : w.Unlocked object)
    (hlocals : access.locals w = .ok locals)
    (hunrelated : ¬ w.registry.DerivesFrom object.type declaring) :
    ((∀ callee, access.replacement target w = some callee →
        w.partOf object callee.owner = none) →
      ∃ e, e.kind = .targetMismatch ∧ (access.run target w).1 = (.error e, access.args) ∧
        w.Undisturbed (access.run target w).2) ∧
    ∀ callee depth part, access.replacement target w = some callee →
      w.partOf object callee.owner = some (depth, part) →
      ∃ plan locked, access.plan? = some plan ∧ w.lock object callee.hold = .ok locked ∧
        (access.run target w).1.1 = access.answer
          (callee.runBody (some (callee.receiver part)) plan.typeArgs locals locked).1.result := by
  have howner := hcompiled.owner_eq hinstance
  refine ⟨fun hnone => ?_, fun callee depth part hreplaced hpart => ?_⟩
  · cases hreplaced : access.replacement target w with
    | none =>
        have hworks : access.worksOn target w = some declaring := by
          simp [worksOn, howner, hreplaced]
        exact ⟨_, rfl, run_foreign hworks htarget hfree hlocals
          (World.partOf_of_not_derives hunrelated)⟩
    | some callee =>
        have hworks : access.worksOn target w = some callee.owner := by
          simp [worksOn, howner, hreplaced]
        exact ⟨_, rfl, run_foreign hworks htarget hfree hlocals (hnone callee hreplaced)⟩
  · obtain ⟨plan, hplan, hcallee⟩ := Option.bind_eq_some_iff.mp hreplaced
    obtain ⟨locked, hlock, hresult⟩ := run_replacement hplan hinstance hcallee htarget hfree hlocals
      hpart
    exact ⟨plan, locked, hplan, hlock, hresult⟩

/-- A type with a virtual method. -/
def meter : TypeHandle × Registry :=
  Registry.initial.declare (.described "Meter") <| (Blueprint.reference "Meter").withMethod
    (MethodInfo.reading "Meter" "Level" [] .int32 (pure (.int32 3))).asVirtual

/-- A type that has nothing to do with it. -/
def label : TypeHandle × Registry := meter.2.declare (.described "Label") (.reference "Label")

/-- An object of the second type. -/
def labelled : World :=
  { World.ofRegistry label.2 with objects := #[.mk "Label" none []] }

/-- A request for the virtual method. -/
def levelRequest : Signature := .method meter.1 "Level" [] Flags.standard

/-- A label has no level. -/
theorem run_of_unrelated_label :
    ∃ plan : CallPlan, (invoke plan []).Compiled label.2 levelRequest meter.1 ∧
      plan.dispatch = .virtual 0 ∧
      labelled.opened (.object ⟨0, label.1⟩) = .object ⟨0, label.1⟩ ∧
      labelled.Unlocked ⟨0, label.1⟩ ∧
      (invoke plan []).locals labelled = .ok [] ∧
      ¬ labelled.registry.DerivesFrom label.1 meter.1 ∧
      ∃ e, e.kind = .targetMismatch ∧
        ((invoke plan []).run (.object ⟨0, label.1⟩) labelled).1 = (.error e, []) := by
  obtain ⟨prepared, n, hcompile, hdeclaring, hdispatch, hlocals, hnone⟩ :
      ∃ prepared n, Compiler.method.compile label.2 levelRequest = (.ok prepared, n) ∧
        prepared.signature.declaring? = some meter.1 ∧ prepared.action.dispatch = .virtual 0 ∧
        (invoke prepared.action []).locals labelled = .ok [] ∧
        (invoke prepared.action []).replacement (.object ⟨0, label.1⟩) labelled = none :=
    ⟨_, _, rfl, rfl, rfl, rfl, rfl⟩
  have hcompiled := Compiled.invoke [] hcompile hdeclaring
  have hfree : labelled.Unlocked ⟨0, label.1⟩ := ⟨rfl, fun _ => rfl⟩
  have hunrelated : ¬ labelled.registry.DerivesFrom label.1 meter.1 :=
    Registry.not_derivesFrom_of_base_object rfl rfl (by decide) (by decide)
  have hinstance : (invoke prepared.action []).owner ≠ none := by simp [owner, hdispatch]
  have htarget : labelled.opened (.object ⟨0, label.1⟩) = .object ⟨0, label.1⟩ := rfl
  obtain ⟨e, hkind, hrun, -⟩ := (run_of_unrelated hcompiled hinstance htarget hfree hlocals
    hunrelated).1 fun callee hcallee => by simp [hnone] at hcallee
  exact ⟨_, hcompiled, hdispatch, htarget, hfree, hlocals, hunrelated, e, hkind, hrun⟩

/-- The type of animals among the sample types. -/
def animal : TypeHandle := (Sample.registry.natives.lookup (.described "Animal")).getD .unregistered

/-- The type of persons among the sample types. -/
def person : TypeHandle := (Sample.registry.natives.lookup (.described "Person")).getD .unregistered

/-- An animal in a world without persons. -/
def zoo : World := { Sample.world with objects := #[Sample.newAnimal "Rex" 4 10] }

/-- A request for what a person says. -/
def describeRequest : Signature := .method person "Describe" [] Flags.standard

/-- What a call compiled for a request answers with, as a text. -/
def said (compiled : Except ReflectError (Prepared CallPlan)) (target : Value) (w : World) :
    Option (Option TypeHandle × Option TypeHandle × String) :=
  match compiled with
  | .ok prepared =>
    match ((invoke prepared.action []).run target w).1.1 with
    | .ok (.string text) =>
      some (prepared.signature.declaring?, (invoke prepared.action []).owner, text)
    | _ => none
  | .error _ => none

/-- A person has a virtual method in a slot where an animal has another one. A call that was
compiled for the former runs the latter on an animal, which is no person. -/
theorem describe_runs_on_animal :
    ∃ plan : CallPlan, (invoke plan []).Compiled Sample.registry describeRequest person ∧
      (invoke plan []).owner = some person ∧
      zoo.opened (.object ⟨0, animal⟩) = .object ⟨0, animal⟩ ∧ zoo.Unlocked ⟨0, animal⟩ ∧
      ¬ zoo.registry.DerivesFrom animal person ∧
      ((invoke plan []).run (.object ⟨0, animal⟩) zoo).1.1 =
        .ok (.string "Rex makes a sound") := by
  have hsaid : said (Compiler.method.compile Sample.registry describeRequest).1
      (.object ⟨0, animal⟩) zoo = some (some person, some person, "Rex makes a sound") := by
    decide +kernel
  have hbases : Sample.registry.baseOf animal = some .object ∧
      Sample.registry.baseOf .object = none ∧ animal ≠ person ∧ .object ≠ person := by
    decide +kernel
  have hregistry : zoo.registry = Sample.registry := by
    simp only [zoo, Sample.world, World.ofRegistry]
  have hunrelated : ¬ zoo.registry.DerivesFrom animal person := by
    rw [hregistry]
    exact Registry.not_derivesFrom_of_base_object hbases.1 hbases.2.1 hbases.2.2.1 hbases.2.2.2
  have hfree : zoo.Unlocked ⟨0, animal⟩ := ⟨rfl, fun _ => rfl⟩
  rcases hcompile : Compiler.method.compile Sample.registry describeRequest with ⟨result, n⟩
  rw [hcompile] at hsaid
  cases result with
  | error e => simp [said] at hsaid
  | ok prepared =>
      simp only [said] at hsaid
      split at hsaid
      · next text htext =>
          simp only [Option.some.injEq, Prod.mk.injEq] at hsaid
          obtain ⟨hdeclaring, howner, rfl⟩ := hsaid
          exact ⟨_, .invoke [] hcompile hdeclaring, howner, rfl, hfree, hunrelated, htext⟩
      · simp at hsaid

end Access

end Introspect
