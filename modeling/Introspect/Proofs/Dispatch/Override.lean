import Introspect.Proofs.Accessor.Compiled
import Introspect.Proofs.Dispatch.Tables

/-!
# `Introspect.Proofs.Dispatch.Override`: virtual calls run the nearest method

An accessor that was compiled for a virtual method fixes the slot of that method. A call looks the
slot up in the dispatch table of the object's type. `chosen_nearest` says that the body that is
chosen is that of the nearest method of the signature, and `partAt_of_nearest` that the object has a
part of the type that declares this method, as it has one of each type that its own type derives
from (`exists_partAt`). `invoke_nearest` puts both together: on every object of a type derived from
the declaring one, the call runs the nearest method on that part of the object.

The registry that the accessor was compiled in may have grown by the time of the call. The object
has the storage that its type asks for (`Fits`): an instance of the base inside an instance of each
type that declares one.
-/

set_option autoImplicit false

namespace Introspect

/-- A method as the body of a call, on a type. -/
def MethodInfo.on (method : MethodInfo) (owner : TypeHandle) : Callee :=
  ⟨owner, method.body, method.mutates⟩

namespace Registry

/-- Storage that was made for a type: where the type declares a base, an instance of the type's own
native type that embeds storage made for the base. -/
inductive Fits (reg : Registry) : TypeHandle → Instance → Prop
  | plain {type : TypeHandle} {info : TypeInfo} {data : Instance} :
      reg.get type = some info → info.embedsBase = none → Fits reg type data
  | embedding {type base : TypeHandle} {info : TypeInfo} {data inner : Instance} :
      reg.get type = some info → info.embedsBase = some data.native → info.base = some base →
      data.base = some inner → Fits reg base inner → Fits reg type data

variable {reg : Registry} {type : TypeHandle} {method : MethodInfo} {ref : MethodRef}
  {data : Instance}

/-- Every base but the root type is embedded: an instance of it lies inside those of the type. -/
def EmbedsBases (reg : Registry) : Prop :=
  ∀ type info, reg.get type = some info → info.embedsBase = none → ∀ base ∈ info.base,
    base = .object

/-- An object has a part of each type that its own type derives from, the root type excepted. -/
theorem exists_partAt {target : TypeHandle} (hroot : reg.baseOf .object = none)
    (hembeds : reg.EmbedsBases) (hderives : reg.DerivesFrom type target)
    (hobject : target ≠ .object) (hfits : reg.Fits type data) :
    ∃ depth part, reg.PartAt target type data depth part := by
  induction hderives using Relation.ReflTransGen.head_induction_on generalizing data with
  | refl => exact ⟨0, data, .self⟩
  | @head type base hbase hrest ih =>
      by_cases htype : type = target
      · exact ⟨0, data, htype ▸ .self⟩
      · obtain ⟨info, hinfo, hinfoBase⟩ := Option.bind_eq_some_iff.mp hbase
        cases hfits with
        | plain hinfo' hnone =>
            -- Only the root type is left for a base without an instance, and nothing is above it.
            obtain rfl := Option.some.inj (hinfo.symm.trans hinfo')
            obtain rfl := hembeds _ _ hinfo hnone base hinfoBase
            obtain heq | ⟨next, hnext, -⟩ := hrest.cases_head
            · exact absurd heq.symm hobject
            · simp [hroot] at hnext
        | embedding hinfo' hnative hbase' hinner hfitsBase =>
            obtain rfl := Option.some.inj (hinfo.symm.trans hinfo')
            obtain rfl := Option.some.inj (hinfoBase.symm.trans hbase')
            obtain ⟨depth, part, hpart⟩ := ih hfitsBase
            exact ⟨depth + 1, part, .embedded htype hinfo hinfoBase hnative hinner hpart⟩

/-- An object has a part of the type that declares the nearest method. -/
theorem partAt_of_nearest (hreg : Assembled reg) (h : reg.Nearest method type ref)
    (hfits : reg.Fits type data) : ∃ depth part, reg.PartAt ref.declaring type data depth part := by
  obtain ⟨root, hroot, hmethods, -, hbase⟩ := hreg.root
  obtain ⟨hderives, found, hfound, -⟩ := h.spec
  refine exists_partAt (by simp [baseOf, hroot, hbase]) ?_ hderives ?_ hfits
  · exact fun type info hinfo hnone base hinfoBase =>
      (hreg.sound _ _ hinfo).embeds base hinfoBase hnone
  · intro hobject
    simp [methodAt, hobject, hroot, hmethods] at hfound

end Registry

namespace CallPlan

variable {w : World} {target : Value} {object : ObjectRef} {method : MethodInfo}
  {plan : CallPlan}

/-- A virtual method that has a slot is called through it. -/
theorem dispatchOf_virtual {slot : Nat} (hvirtual : method.dispatches = true)
    (hslot : method.slot = some slot) : dispatchOf method = .virtual slot := by
  simp only [MethodInfo.dispatches, Bool.and_eq_true, Bool.not_eq_true'] at hvirtual
  simp only [dispatchOf, hvirtual.1, hvirtual.2, hslot]

/-- An accessor that was compiled for a virtual method looks at the slot of that method. -/
theorem compiled_virtual {reg : Registry} (hreg : reg.Assembled) {sig : Signature}
    {prepared : Prepared CallPlan} {n : Nat}
    (hcompile : Compiler.method.compile reg sig = (.ok prepared, n))
    (hmethod : reg.methodAt prepared.action.method = some method)
    (hvirtual : method.dispatches = true) :
    ∃ slot, method.slot = some slot ∧ prepared.action.dispatch = .virtual slot ∧
      prepared.action.callee = method.on prepared.action.method.declaring := by
  obtain ⟨found, -, -, hprepare⟩ := Compiler.compile_eq_ok hcompile
  cases hmember : found.member with
  | method ref =>
      rw [hmember] at hprepare
      have hplan : ofMethod reg ref prepared.signature.typeArgs .store = .ok prepared.action :=
        hprepare
      obtain ⟨info, resolved, hinfo, hresolved, hshape⟩ := ofMethod_eq_ok hplan
      rw [hshape] at hmethod ⊢
      obtain rfl : resolved = method := by
        simpa [Registry.methodAt, hinfo, hresolved] using hmethod
      obtain ⟨slot, hslot, -⟩ := (hreg.sound _ _ hinfo).own hresolved hvirtual
      exact ⟨slot, hslot, dispatchOf_virtual hvirtual hslot, rfl⟩
  | _ =>
      rw [hmember] at hprepare
      simp [Compiler.method] at hprepare

/-- A call chooses the body of the method in the slot, whether that is the resolved one or not. -/
theorem chosen_of_slot {slot : Nat} {info : TypeInfo} {entry : MethodRef} {found : MethodInfo}
    (hdispatch : plan.dispatch = .virtual slot)
    (hcallee : plan.callee = method.on plan.method.declaring)
    (hmethod : w.registry.methodAt plan.method = some method)
    (htarget : w.opened target = .object object) (hinfo : w.registry.get object.type = some info)
    (hentry : info.dispatchTable[slot]? = some entry)
    (hfound : w.registry.methodAt entry = some found) :
    plan.chosen target w = found.on entry.declaring := by
  have hruntime : runtimeType w target = some object.type := by
    simp only [runtimeType, htarget]
  obtain ⟨owner, howner, hindex⟩ := Option.bind_eq_some_iff.mp hfound
  unfold chosen replacement overrideFor
  simp only [hdispatch, hruntime, Option.bind_eq_bind, Option.bind_some, hinfo, hentry]
  by_cases hsame : entry = plan.method
  · subst hsame
    obtain rfl := Option.some.inj (hmethod.symm.trans hfound)
    simp [hcallee]
  · simp [hsame, howner, hindex, MethodInfo.on]

/-- On an object of a type derived from the declaring one, the accessor of a virtual method chooses
the nearest method of the same signature. -/
theorem chosen_nearest {reg : Registry} (hreg : reg.Assembled)
    (hlater : Relation.ReflTransGen Registry.Builds reg w.registry) {sig : Signature}
    {prepared : Prepared CallPlan} {n : Nat}
    (hcompile : Compiler.method.compile reg sig = (.ok prepared, n))
    (hmethod : reg.methodAt prepared.action.method = some method)
    (hvirtual : method.dispatches = true) (htarget : w.opened target = .object object)
    (hderives : w.registry.DerivesFrom object.type prepared.action.method.declaring) :
    ∃ nearest override, w.registry.Nearest method object.type nearest ∧
      w.registry.methodAt nearest = some override ∧
      prepared.action.dispatch ≠ .static ∧
      prepared.action.chosen target w = override.on nearest.declaring := by
  obtain ⟨slot, hslot, hdispatch, hcallee⟩ := compiled_virtual hreg hcompile hmethod hvirtual
  have hassembled : w.registry.Assembled := hreg.trans hlater
  have hmethod' := (hreg.keeps hlater).methodAt hmethod
  obtain ⟨slot', info, entry, found, hslot', hinfo, hentry, hfound, hsame⟩ :=
    Registry.slot_of_derives hassembled hderives hmethod' hvirtual
  obtain rfl := Option.some.inj (hslot.symm.trans hslot')
  obtain ⟨found', hfound', hnearest⟩ := (hassembled.sound _ _ hinfo).nearest hentry
  obtain rfl := Option.some.inj (hfound.symm.trans hfound')
  exact ⟨entry, found, hnearest.congr hsame, hfound, by simp [hdispatch],
    chosen_of_slot hdispatch hcallee hmethod' htarget hinfo hentry hfound⟩

/-- A call of a virtual method, on an object of the type that declares it or of one derived from
that type, bare or directly in a cell: there is one nearest method of the same signature on the base
chain of the object's type, the object has a part of the type that declares this nearest method, and
once the arguments are marshalled and the object is held, the call runs the body of the nearest
method on that part, and ends with what the body leaves behind. -/
theorem invoke_nearest {reg : Registry} (hreg : reg.Assembled)
    (hlater : Relation.ReflTransGen Registry.Builds reg w.registry) {sig : Signature}
    {prepared : Prepared CallPlan} {n : Nat}
    (hcompile : Compiler.method.compile reg sig = (.ok prepared, n))
    (hmethod : reg.methodAt prepared.action.method = some method)
    (hvirtual : method.dispatches = true) (htarget : w.opened target = .object object)
    (hderives : w.registry.DerivesFrom object.type prepared.action.method.declaring)
    (hfits : w.registry.Fits object.type (w.payload object)) :
    ∃ nearest override depth part,
      w.registry.Nearest method object.type nearest ∧
      (∀ other, w.registry.Nearest method object.type other → other = nearest) ∧
      w.registry.methodAt nearest = some override ∧
      w.registry.PartAt nearest.declaring object.type (w.payload object) depth part ∧
      ∀ args locals locked, prepared.action.arguments.copyIn w args = .ok locals →
        w.lock object (override.on nearest.declaring).hold = .ok locked →
        ∃ ran, ran = (override.body ⟨some ((override.on nearest.declaring).receiver part), locals,
            prepared.action.typeArgs⟩).run locked ∧
          (prepared.action.invoke target args w).1.1 = ran.1.result ∧
          prepared.action.invoke target args w = prepared.action.bringBack args ran.1
            (((override.on nearest.declaring).keep object depth (w.payload object) ran).unlock
              object (override.on nearest.declaring).hold) := by
  have hassembled : w.registry.Assembled := hreg.trans hlater
  obtain ⟨nearest, override, hnearest, hoverride, hdispatch, hchosen⟩ :=
    chosen_nearest hreg hlater hcompile hmethod hvirtual htarget hderives
  obtain ⟨depth, part, hpart⟩ := Registry.partAt_of_nearest hassembled hnearest hfits
  refine ⟨nearest, override, depth, part, hnearest,
    fun other hother => Registry.Nearest.unique hassembled hother hnearest, hoverride, hpart,
    fun args locals locked hin hlock => ?_⟩
  have hinvoke := invoke_part hdispatch hchosen htarget hlock hin
    (World.partOf_eq_some_iff.mpr hpart) rfl
  exact ⟨_, rfl, by rw [hinvoke, bringBack_result]; rfl, hinvoke⟩

/-- A type with a virtual method. -/
def figure : TypeHandle × Registry :=
  Registry.initial.declare (.described "Figure") <| (Blueprint.reference "Figure").withMethod
    (MethodInfo.reading "Figure" "Name" [] .string (pure (.string "figure"))).asVirtual

/-- A type that overrides this method. -/
def squareBlueprint : Blueprint :=
  ((Blueprint.reference "Square").extending "Square" figure.1).withMethod
    (MethodInfo.reading "Square" "Name" [] .string (pure (.string "square"))).asVirtual

/-- The second type, below the first one. -/
def square : TypeHandle × Registry := figure.2.declare (.described "Square") squareBlueprint

/-- An object of the second type. -/
def drawn : World :=
  { World.ofRegistry square.2 with objects := #[.mk "Square" (some (.mk "Figure" none [])) []] }

/-- A description with one method is orderly when its base is. -/
theorem orderly_of_one_method {b : Blueprint} {reg : Registry} {only : MethodInfo}
    (hbase : ∀ base, b.base = some base → (reg.get base).isSome)
    (hembeds : b.base.isSome = b.embedsBase.isSome) (hmethods : b.methods = [only]) :
    b.Orderly reg := by
  refine ⟨hbase, hembeds, fun {i j method other} hmethod hother _ _ _ => ?_⟩
  rw [hmethods] at hmethod hother
  have hi := (List.getElem?_eq_some_iff.mp hmethod).1
  have hj := (List.getElem?_eq_some_iff.mp hother).1
  simp only [List.length_singleton] at hi hj
  omega

/-- A figure and a square are declared one after the other. -/
theorem assembled_figure : figure.2.Assembled ∧
    Relation.ReflTransGen Registry.Builds figure.2 square.2 := by
  refine ⟨Registry.builds_declare rfl rfl (orderly_of_one_method ?_ rfl rfl),
    Registry.builds_declare rfl rfl (orderly_of_one_method ?_ rfl rfl)⟩
  · intro base hbase
    simp [Blueprint.reference, Blueprint.withMethod, Blueprint.ofKind] at hbase
  · intro base hbase
    obtain rfl : figure.1 = base := Option.some.inj hbase
    rfl

/-- Asked for its name as a figure, a square runs the method that overrides the figure's. -/
theorem invoke_nearest_square :
    ∃ (prepared : Prepared CallPlan) (n : Nat) (method : MethodInfo),
      figure.2.Assembled ∧ Relation.ReflTransGen Registry.Builds figure.2 drawn.registry ∧
      Compiler.method.compile figure.2 (.method figure.1 "Name" [] Flags.standard) =
        (.ok prepared, n) ∧
      figure.2.methodAt prepared.action.method = some method ∧ method.dispatches = true ∧
      drawn.opened (.object ⟨0, square.1⟩) = .object ⟨0, square.1⟩ ∧
      drawn.registry.DerivesFrom square.1 prepared.action.method.declaring ∧
      drawn.registry.Fits square.1 (drawn.payload ⟨0, square.1⟩) ∧
      ∃ nearest override part locked, nearest = ⟨square.1, 0⟩ ∧
        drawn.registry.methodAt nearest = some override ∧
        (prepared.action.invoke (.object ⟨0, square.1⟩) [] drawn).1.1 =
          ((override.body ⟨some ((override.on square.1).receiver part), [],
            prepared.action.typeArgs⟩).run locked).1.result ∧
        (prepared.action.invoke (.object ⟨0, square.1⟩) [] drawn).1.1 =
          .ok (.string "square") := by
  obtain ⟨hfigure, hlater⟩ := assembled_figure
  obtain ⟨prepared, n, method, hcompile, hmethod, hvirtual, hdeclaring, hsignature, hin, hname⟩ :
      ∃ (prepared : Prepared CallPlan) (n : Nat) (method : MethodInfo),
        Compiler.method.compile figure.2 (.method figure.1 "Name" [] Flags.standard) =
          (.ok prepared, n) ∧
        figure.2.methodAt prepared.action.method = some method ∧ method.dispatches = true ∧
        prepared.action.method.declaring = figure.1 ∧
        (method.name = "Name" ∧ method.paramTypes = []) ∧
        prepared.action.arguments.copyIn drawn [] = .ok [] ∧
        (prepared.action.invoke (.object ⟨0, square.1⟩) [] drawn).1.1 = .ok (.string "square") :=
    ⟨_, _, _, rfl, rfl, rfl, rfl, ⟨rfl, rfl⟩, rfl, rfl⟩
  have htarget : drawn.opened (.object ⟨0, square.1⟩) = .object ⟨0, square.1⟩ := rfl
  have hderives : drawn.registry.DerivesFrom square.1 prepared.action.method.declaring := by
    rw [hdeclaring]
    exact .single rfl
  have hfits : drawn.registry.Fits square.1 (drawn.payload ⟨0, square.1⟩) :=
    .embedding rfl rfl rfl rfl (.plain rfl rfl)
  obtain ⟨nearest, override, depth, part, hnearest, hunique, hoverride, -, hrun⟩ :=
    invoke_nearest hfigure hlater hcompile hmethod hvirtual htarget hderives hfits
  obtain ⟨info, made, hinfo, hmade, hmadeVirtual, hmadeName, hmadeTypes⟩ :
      ∃ info made, drawn.registry.get square.1 = some info ∧ info.methods[0]? = some made ∧
        made.dispatches = true ∧ made.name = "Name" ∧ made.paramTypes = [] :=
    ⟨_, _, rfl, rfl, rfl, rfl, rfl⟩
  have hsame : made.SameSignature method :=
    ⟨hmadeName.trans hsignature.1.symm, hmadeTypes.trans hsignature.2.symm⟩
  have hsquare : nearest = ⟨square.1, 0⟩ :=
    (hunique _ (.here hinfo hmade hmadeVirtual hsame)).symm
  subst hsquare
  obtain ⟨locked, hlock⟩ := World.lock_of_unlocked
    (show drawn.Unlocked ⟨0, square.1⟩ from ⟨rfl, fun _ => rfl⟩) (override.on square.1).hold
  obtain ⟨ran, rfl, hresult, -⟩ := hrun [] [] locked hin hlock
  exact ⟨prepared, n, method, hfigure, hlater, hcompile, hmethod, hvirtual, htarget, hderives,
    hfits, _, override, part, locked, rfl, hoverride, hresult, hname⟩

end CallPlan

end Introspect
