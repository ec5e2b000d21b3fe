import Introspect.Proofs.Accessor.Safety
import Introspect.Proofs.Dispatch.Owners
import Introspect.Proofs.Registry.Builtins
import Introspect.Proofs.Resolver.Declaring

/-!
# `Introspect.Proofs.Accessor.Inherited`: inherited members on objects of derived types

A member that answers a request on a type may be declared on a base of that type, and the object
that it is used on may be of a type further down. The code of the member gets neither the object nor
the part of the requested type, but the part of the type that declares the code.

`RunsOn` says that an access ran its code on a part of an object, and how it ended; a failure can
then only come from the code. `runsOn_of_part` says that this is so wherever there is a part of the
type that the access works on. That type lies above the type of the object (`worksOn_derived`): the
resolver found the member on a base of the requested type, and what a virtual call runs instead is
in the dispatch table of the object's type. So the object has such a part, and `runsOn_derived`
draws the conclusion.
-/

set_option autoImplicit false

namespace Introspect

namespace Resolver

/-- The root type has no members. -/
theorem HasMembers.ne_object {reg : Registry} {type : TypeHandle} (h : HasMembers reg type)
    (hreg : reg.Grounded) : type ≠ .object := by
  rintro rfl
  obtain ⟨info, hinfo, hmembers⟩ := h
  obtain rfl := Option.some.inj (hreg.get_object.symm.trans hinfo)
  simp [TypeInfo.bare] at hmembers

/-- A type with a method has members. -/
theorem hasMembers_of_methodAt {reg : Registry} {ref : MethodRef} {method : MethodInfo}
    (h : reg.methodAt ref = some method) : HasMembers reg ref.declaring := by
  obtain ⟨info, hinfo, hmethod⟩ := Option.bind_eq_some_iff.mp h
  refine ⟨info, hinfo, .inr fun hnil => ?_⟩
  simp [hnil] at hmethod

end Resolver

namespace Access

variable {access : Access} {target : Value} {w : World} {object : ObjectRef}
  {owner declaring : TypeHandle} {depth : Nat} {part : Instance} {locals : List Value}

/-- An access to the object `target` ran code on the part that the object has of a type, while the
object was locked. It has the result of that code. What the code made of the part has been put back,
if it may change it, and the object has been unlocked. -/
inductive RunsOn (target : Value) (w : World) (object : ObjectRef) (owner : TypeHandle)
    (depth : Nat) (part : Instance) : Access → List Value → Prop
  /-- a field was read -/
  | read {get : Instance → Code (Except InvokeError Value)} {locked after : World}
      {result : Except InvokeError Value} :
      w.lock object .shared = .ok locked → (get part).run locked = (result, after) →
      (read (.field owner get)).run target w = ((result, []), after.unlock object .shared) →
      RunsOn target w object owner depth part (.read (.field owner get)) []
  /-- a field was written -/
  | write {type : TypeHandle}
      {set : Instance → Value → Code (Except InvokeError Unit × Instance)} {v new : Value}
      {locked after : World} {result : Except InvokeError Unit} {changed : Instance} :
      w.lock object .exclusive = .ok locked →
      (set part new).run locked = ((result, changed), after) →
      (write (.field owner type set) v).run target w = ((result.map fun _ => .null, [v]),
        (after.setPayload object ((w.payload object).setPart depth changed)).unlock object
          .exclusive) →
      RunsOn target w object owner depth part (.write (.field owner type set) v) [new]
  /-- the body of a method ran -/
  | call {access : Access} {plan : CallPlan} {callee : Callee} {locals : List Value}
      {locked : World} {ran : Outcome × World} :
      access.plan? = some plan → plan.chosen target w = callee → callee.owner = owner →
      w.lock object callee.hold = .ok locked →
      callee.runBody (some (callee.receiver part)) plan.typeArgs locals locked = ran →
      (access.run target w).1.1 = access.answer ran.1.result →
      (access.run target w).2 = (plan.bringBack access.args ran.1
        ((callee.keep object depth (w.payload object) ran).unlock object callee.hold)).2 →
      RunsOn target w object owner depth part access locals

/-- The code of a field runs on the part of the type that declares the field. -/
theorem runsOn_of_field (hplan : access.plan? = none) (howner : access.owner = some owner)
    (htarget : w.opened target = .object object) (hfree : w.Unlocked object)
    (hlocals : access.locals w = .ok locals) (hpart : w.partOf object owner = some (depth, part)) :
    RunsOn target w object owner depth part access locals := by
  rcases field_of_no_plan hplan howner with ⟨get, rfl⟩ | ⟨type, set, v, rfl⟩
  · obtain rfl : [] = locals := Except.ok.inj hlocals
    obtain ⟨locked, hlock⟩ := World.lock_of_unlocked hfree .shared
    refine .read hlock rfl ?_
    simp only [run, Reader.run, World.withShared_part htarget hlock hpart]
  · obtain ⟨new, hcast, rfl⟩ := cast_of_locals hlocals
    obtain ⟨locked, hlock⟩ := World.lock_of_unlocked hfree .exclusive
    refine .write hlock rfl ?_
    simp only [run, Writer.run, World.requireWritable_object htarget, hcast,
      World.withExclusive_part htarget hlock hpart]

/-- The code of an access runs on the part of the type that the access works on. -/
theorem runsOn_of_part (howner : access.worksOn target w = some owner)
    (htarget : w.opened target = .object object) (hfree : w.Unlocked object)
    (hlocals : access.locals w = .ok locals) (hpart : w.partOf object owner = some (depth, part)) :
    RunsOn target w object owner depth part access locals := by
  cases hplan : access.plan? with
  | some plan =>
      obtain ⟨hdispatch, rfl⟩ := worksOn_of_plan hplan howner
      obtain ⟨locked, hlock⟩ := World.lock_of_unlocked hfree (plan.chosen target w).hold
      have hinvoke := CallPlan.invoke_part hdispatch rfl htarget hlock
        ((locals_of_plan hplan w).symm.trans hlocals) hpart rfl
      obtain ⟨hresult, hafter, -⟩ := run_of_plan hplan htarget
      refine .call hplan rfl rfl hlock rfl ?_ ?_
      · rw [hresult, hinvoke, CallPlan.bringBack_result]
      · rw [hafter, hinvoke]
  | none =>
      have hreplacement : access.replacement target w = none := by simp [replacement, hplan]
      have howner' : access.owner = some owner := by
        simpa [worksOn, hreplacement] using howner
      exact runsOn_of_field hplan howner' htarget hfree hlocals hpart

/-- What a virtual call runs instead of the resolved method is in the dispatch table of the object's
type. -/
theorem exists_entry_of_replacement {callee : Callee} (htarget : w.opened target = .object object)
    (h : access.replacement target w = some callee) :
    ∃ info entry method, w.registry.get object.type = some info ∧ entry ∈ info.dispatchTable ∧
      w.registry.methodAt entry = some method ∧ callee = method.on entry.declaring := by
  obtain ⟨plan, -, hcallee⟩ := Option.bind_eq_some_iff.mp h
  unfold CallPlan.replacement at hcallee
  split at hcallee
  · exact CallPlan.exists_entry_of_override htarget hcallee
  · cases hcallee

variable {reg : Registry} {sig : Signature}

/-- An access of an instance member works on a type that the type of the object derives from. It is
not the root type. -/
theorem worksOn_derived (hreached : Registry.Reached reg)
    (hlater : Relation.ReflTransGen Registry.Moves reg w.registry)
    (hleft : w.registry.issued ≤ UInt64.size) (hcompiled : access.Compiled reg sig declaring)
    (hinstance : access.owner ≠ none) (htarget : w.opened target = .object object)
    (hderives : w.registry.DerivesFrom object.type sig.target) :
    ∃ owner, access.worksOn target w = some owner ∧
      w.registry.DerivesFrom object.type owner ∧ owner ≠ .object := by
  have howner := hcompiled.owner_eq hinstance
  have hnow : Registry.Reached w.registry := Relation.ReflTransGen.trans hreached hlater
  cases hreplaced : access.replacement target w with
  | none =>
      -- The chain from the object's type to the requested one goes on to the declaring type. The
      -- latter was found when the accessor was compiled, and bases have stayed since.
      obtain ⟨habove, hmembers⟩ := hcompiled.declaring hreached.keyed
      have hgrounded := hreached.grounded
        (Nat.le_trans (Registry.issued_le_of_moves hlater) hleft)
      exact ⟨declaring, by simp [worksOn, howner, hreplaced],
        hderives.trans ((hreached.keeps hlater hleft).derivesFrom habove),
        hmembers.ne_object hgrounded⟩
  | some callee =>
      -- The requested type does not matter here: the slot is looked up from the object's type.
      obtain ⟨info, entry, method, hinfo, hentry, hmethod, rfl⟩ :=
        exists_entry_of_replacement htarget hreplaced
      exact ⟨entry.declaring, by simp [worksOn, howner, hreplaced, MethodInfo.on],
        hnow.tablesOfBases hleft _ _ hinfo entry hentry,
        (Resolver.hasMembers_of_methodAt hmethod).ne_object (hnow.grounded hleft)⟩

/-- An instance field, property or method that was found for a request on a type is declared on that
type or above it. Take an object that no one holds, bare or directly in a cell, of the type of the
request or of any type derived from it, where bases are embedded and the object has the storage that
its type asks for. The object has exactly one part of the type that declares the code of the access:
of the type that declares the member, or of the one that declares the method which a virtual call
runs instead. Once the values that go in are marshalled, the access runs the code on this part, and
the result is that of the code. -/
theorem runsOn_derived (hreached : Registry.Reached reg)
    (hlater : Relation.ReflTransGen Registry.Moves reg w.registry)
    (hleft : w.registry.issued ≤ UInt64.size) (hembeds : w.registry.EmbedsBases)
    (hcompiled : access.Compiled reg sig declaring) (hinstance : access.owner ≠ none)
    (htarget : w.opened target = .object object) (hfree : w.Unlocked object)
    (hderives : w.registry.DerivesFrom object.type sig.target)
    (hfits : w.registry.Fits object.type (w.payload object)) :
    reg.DerivesFrom sig.target declaring ∧
    ∃ owner depth part, access.worksOn target w = some owner ∧
      (access.replacement target w = none → owner = declaring) ∧
      w.registry.PartAt owner object.type (w.payload object) depth part ∧
      (∀ depth' part', w.registry.PartAt owner object.type (w.payload object) depth' part' →
        depth' = depth ∧ part' = part) ∧
      ∀ locals, access.locals w = .ok locals →
        RunsOn target w object owner depth part access locals := by
  have hgrounded : w.registry.Grounded :=
    Registry.Reached.grounded (Relation.ReflTransGen.trans hreached hlater) hleft
  have hroot : w.registry.baseOf .object = none := by
    simp [Registry.baseOf, hgrounded.get_object, TypeInfo.bare]
  obtain ⟨owner, hworks, habove, hobject⟩ := worksOn_derived hreached hlater hleft hcompiled
    hinstance htarget hderives
  obtain ⟨depth, part, hpart⟩ := Registry.exists_partAt hroot hembeds habove hobject hfits
  have hfound : w.partOf object owner = some (depth, part) := World.partOf_eq_some_iff.mpr hpart
  refine ⟨(hcompiled.declaring hreached.keyed).1, owner, depth, part, hworks, fun hnone => ?_,
    hpart, fun depth' part' hother => ?_, fun locals hlocals =>
      runsOn_of_part hworks htarget hfree hlocals hfound⟩
  · have hdeclaring : access.worksOn target w = some declaring := by
      simp [worksOn, hcompiled.owner_eq hinstance, hnone]
    exact Option.some.inj (hworks.symm.trans hdeclaring)
  · have hsame := (World.partOf_eq_some_iff.mpr hother).symm.trans hfound
    simpa using hsame

/-- Types of ships: a boat has a hull, and a ferry is a boat. Hulls have a length. -/
def ships : Family :=
  [(.described "Hull", pure ((Blueprint.reference "Hull").withField
    (.ofSlot "Hull" "Length" "length" .int32 .int32))),
  (.described "Boat", do
    let hull ← Description.typeOf (.described "Hull")
    return (Blueprint.reference "Boat").extending "Boat" hull),
  (.described "Ferry", do
    let boat ← Description.typeOf (.described "Boat")
    return (Blueprint.reference "Ferry").extending "Ferry" boat)]

/-- The descriptions of ships say where the instances of their bases lie. -/
theorem ships_embedBase : ∀ entry ∈ ships, entry.2.Always Blueprint.EmbedsBase := by
  intro entry hentry
  simp only [ships, List.mem_cons, List.not_mem_nil, or_false] at hentry
  rcases hentry with rfl | rfl | rfl
  · exact fun _ => rfl
  · exact fun _ hnone => nomatch hnone
  · exact fun _ hnone => nomatch hnone

/-- The registry after ferries were asked for, and boats and hulls through them. -/
def shipyard : Registry := (Registry.request ships (.described "Ferry") .initial).2

/-- The hull of a ferry. -/
def longHull : Instance := .mk "Hull" none [("length", .value (.int32 120))]

/-- A world with a ferry. -/
def harbour : World :=
  { World.ofRegistry shipyard with
    objects := #[.mk "Ferry" (some (.mk "Boat" (some longHull) [])) []] }

/-- A request for the length of boats. -/
def lengthRequest : Signature := .field (.ofIndex 9) "Length" .read Flags.standard

/-- The length of a boat is read from the hull inside the boat that a ferry has in it. -/
theorem runsOn_derived_ferry :
    ∃ (ferry : ObjectRef) (boat hull : TypeHandle) (reader : Reader),
      shipyard.find "Boat" = some boat ∧ shipyard.find "Hull" = some hull ∧
      lengthRequest.target = boat ∧ (read reader).Compiled shipyard lengthRequest hull ∧
      harbour.opened (.object ferry) = .object ferry ∧ harbour.Unlocked ferry ∧
      harbour.registry.baseOf ferry.type = some boat ∧ harbour.registry.baseOf boat = some hull ∧
      harbour.registry.Fits ferry.type (harbour.payload ferry) ∧
      harbour.registry.PartAt hull ferry.type (harbour.payload ferry) 2 longHull ∧
      RunsOn (.object ferry) harbour ferry hull 2 longHull (.read reader) [] ∧
      ((read reader).run (.object ferry) harbour).1.1 = .ok (.int32 120) := by
  have hrest : Registry.AtRest ships shipyard := .request _ .initial
  have hleft : shipyard.issued ≤ UInt64.size := by decide
  have hembeds : shipyard.EmbedsBases := hrest.embedsBases ships_embedBase
  let ferry : ObjectRef := ⟨0, .ofIndex 8⟩
  obtain ⟨prepared, n, hcompile, hdeclaring, howner, hnone, hlocals, hrun⟩ :
      ∃ (prepared : Prepared Reader) (n : Nat),
        Compiler.getter.compile shipyard lengthRequest = (.ok prepared, n) ∧
        prepared.signature.declaring? = some (.ofIndex 10) ∧
        (read prepared.action).owner = some (.ofIndex 10) ∧
        (read prepared.action).replacement (.object ferry) harbour = none ∧
        (read prepared.action).locals harbour = .ok [] ∧
        ((read prepared.action).run (.object ferry) harbour).1.1 = .ok (.int32 120) :=
    ⟨_, _, rfl, rfl, rfl, rfl, rfl, rfl⟩
  have hcompiled := Compiled.read hcompile hdeclaring
  have htarget : harbour.opened (.object ferry) = .object ferry := rfl
  have hfree : harbour.Unlocked ferry := ⟨rfl, fun _ => rfl⟩
  have hboat : harbour.registry.baseOf ferry.type = some (.ofIndex 9) := rfl
  have hfits : harbour.registry.Fits ferry.type (harbour.payload ferry) :=
    .embedding rfl rfl rfl rfl (.embedding rfl rfl rfl rfl (.plain rfl rfl))
  obtain ⟨-, owner, depth, part, -, howned, hpart, hunique, hruns⟩ :=
    runsOn_derived hrest.reached .refl hleft hembeds hcompiled (by simp [howner]) htarget hfree
      (.single hboat) hfits
  obtain rfl : owner = .ofIndex 10 := howned hnone
  have hhull : harbour.partOf ferry (.ofIndex 10) = some (2, longHull) := rfl
  obtain ⟨rfl, rfl⟩ := hunique _ _ (World.partOf_eq_some_iff.mp hhull)
  exact ⟨ferry, .ofIndex 9, .ofIndex 10, prepared.action, by decide, by decide, rfl, hcompiled,
    htarget, hfree, hboat, rfl, hfits, hpart, hruns [] hlocals, hrun⟩

end Access

end Introspect
