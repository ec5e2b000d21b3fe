import Introspect.Proofs.Dispatch.Extension
import Introspect.Proofs.Dispatch.Override
import Introspect.Proofs.Registry.Variants

/-!
# `Introspect.Proofs.Dispatch.Owners`: what a type has from its bases

A virtual call may run the method of any type whose handle is in a slot of the dispatch table. These
are types that the table's own type derives from, in every registry that registration leads to,
whatever was published first (`Reached.tablesOfBases`). Descriptors do not change their bases when
more types are published (`Reached.keeps`), so derivation stays as well (`Keeps.derivesFrom`).

An object embeds instances of its bases where descriptions that declare a base also say where its
instance lies. For such a family every base but the root type is embedded (`AtRest.embedsBases`).
-/

set_option autoImplicit false

namespace Introspect

/-- A description that does not say where the instance of a base lies declares no base. -/
def Blueprint.EmbedsBase (b : Blueprint) : Prop := b.embedsBase = none → b.base = none

namespace Registry

variable {reg next : Registry} {type base : TypeHandle} {family : Family}

/-! ### Bases stay -/

/-- A type that derives from another one does so in a registry with more types. -/
theorem Keeps.derivesFrom (h : Keeps reg next) (hderives : reg.DerivesFrom type base) :
    next.DerivesFrom type base := by
  have hstep : ∀ type base, reg.baseOf type = some base → next.baseOf type = some base := by
    intro type base hbase
    obtain ⟨info, hinfo, hinfoBase⟩ := Option.bind_eq_some_iff.mp hbase
    obtain ⟨later, hlater, hagrees⟩ := h _ _ hinfo
    simp [baseOf, hlater, hagrees.base, hinfoBase]
  exact Relation.ReflTransGen.mono hstep _ _ hderives

/-- The types of a registry are kept from step to step. -/
theorem carried_keeps (first : Registry) : Carried (Keeps first) where
  of_types_eq h htypes := h.trans (keeps_of_types_eq htypes)
  publishArray name hsame h := h.trans (keeps_publishArray name hsame)
  publishBuilt hnew _ h := h.trans (keeps_publish hnew)

/-- Registration that goes on takes no handle back. -/
theorem issued_le_of_moves (h : Relation.ReflTransGen Moves reg next) :
    reg.issued ≤ next.issued := by
  induction h with
  | refl => exact Nat.le_refl _
  | tail _ hmove ih => exact Nat.le_trans ih hmove.issued_le

/-- Registration that goes on keeps all types, while handles are left. -/
theorem Reached.keeps (h : Reached reg) (hlater : Relation.ReflTransGen Moves reg next)
    (hleft : next.issued ≤ UInt64.size) : Keeps reg next := by
  induction hlater with
  | refl => exact .refl reg
  | tail hsteps hmove ih =>
      have hbefore := Nat.le_trans hmove.issued_le hleft
      have hreached : Reached _ := Relation.ReflTransGen.trans h hsteps
      exact (carried_keeps reg).moves (hreached.ledger hbefore) (ih hbefore) hmove hleft

/-- A registry that registration leads to is keyed. -/
theorem Reached.keyed (h : Reached reg) : reg.Keyed := by
  induction h with
  | refl => exact keyed_initial
  | tail _ hmove ih =>
      cases hmove with
      | reserve => exact keyed_of_types_eq ih rfl
      | arrayOf element => exact keyed_arrayOf ih element
      | settle | settleArray => exact keyed_settle ih _ _ _

/-! ### The methods in dispatch tables -/

/-- Dispatch tables have methods of types only that their own type derives from. -/
def TablesOfBases (reg : Registry) : Prop :=
  ∀ type info, reg.get type = some info → ∀ entry ∈ info.dispatchTable,
    reg.DerivesFrom type entry.declaring

/-- The table of a type that was built last has methods of its own, and others that were in the
table of its base. -/
theorem derivesFrom_of_mem_build {b : Blueprint} {entry : MethodRef} (hnew : reg.get type = none)
    (hreg : reg.TablesOfBases) (hentry : entry ∈ (b.build type reg).dispatchTable) :
    (reg.publish (b.build type reg)).DerivesFrom type entry.declaring := by
  rcases (extends_build hnew b).entries entry hentry with hold | ⟨i, method, -, rfl⟩
  · obtain ⟨s, hs⟩ := List.getElem?_of_mem hold
    obtain ⟨base, baseInfo, hbase, hbaseInfo, hslot⟩ := baseTable_eq_some hs
    have hderives : reg.DerivesFrom base entry.declaring :=
      hreg base baseInfo hbaseInfo entry (List.mem_of_getElem? hslot)
    have hstep : (reg.publish (b.build type reg)).baseOf type = some base := by
      have hget : (reg.publish (b.build type reg)).get type = some (b.build type reg) :=
        get_publish_self reg _
      rw [baseOf, hget]
      exact hbase
    exact .head hstep ((keeps_publish hnew).derivesFrom hderives)
  · exact .refl

/-- Tables are not changed later. -/
theorem carried_tablesOfBases : Carried TablesOfBases where
  of_types_eq h htypes type info hinfo entry hentry :=
    (keeps_of_types_eq htypes).derivesFrom
      (h type info ((get_of_types_eq htypes type).symm.trans hinfo) entry hentry)
  publishArray {reg array element} name hsame h := by
    intro type info hinfo entry hentry
    rw [get_publish] at hinfo
    split at hinfo
    · obtain rfl := Option.some.inj hinfo
      exact absurd hentry List.not_mem_nil
    · exact (keeps_publishArray name hsame).derivesFrom (h type info hinfo entry hentry)
  publishBuilt {reg built b} hnew _ h := by
    intro type info hinfo entry hentry
    rw [get_publish] at hinfo
    split at hinfo
    · next htype =>
        obtain rfl : type = built := htype
        obtain rfl := Option.some.inj hinfo
        exact derivesFrom_of_mem_build hnew h hentry
    · exact (keeps_publish hnew).derivesFrom (h type info hinfo entry hentry)

/-- The tables of a registry that registration leads to have methods of bases, while handles are
left, whichever of a type and its base was published first. -/
theorem Reached.tablesOfBases (h : Reached reg) (hleft : reg.issued ≤ UInt64.size) :
    reg.TablesOfBases := by
  refine carried_tablesOfBases.reached (fun type info hinfo entry hentry => ?_) h hleft
  rw [tables_initial.get hinfo] at hentry
  exact absurd hentry List.not_mem_nil

/-! ### The instances of bases -/

/-- Between requests, all bases but the root type are embedded, if the descriptions of the family
that declare a base say where its instance lies. -/
theorem AtRest.embedsBases (hfamily : ∀ entry ∈ family, entry.2.Always Blueprint.EmbedsBase)
    (h : AtRest family reg) : reg.EmbedsBases := by
  have harray : ∀ (array element : TypeHandle) (name : String),
      (arrayInfo array element name).embedsBase = none →
        ∀ base ∈ (arrayInfo array element name).base, base = .object :=
    fun _ _ _ _ base hbase => (Option.some.inj hbase).symm
  have hevery : reg.Every fun _ info =>
      info.embedsBase = none → ∀ base ∈ info.base, base = .object := by
    induction h with
    | initial =>
        refine every_initial fun info hinfo _ => ?_
        have hbases : ∀ info ∈ builtins, ∀ base ∈ info.base, base = .object := by decide
        exact hbases info hinfo
    | request native _ ih =>
        refine every_requestUpTo harray (fun {b} hb type reg _ hnone base hbase => ?_) hfamily _
          native ih
        have hbuilt : (if b.kind = .root then none else some (b.base.getD .object)) = some base :=
          hbase
        rw [hb hnone] at hbuilt
        split at hbuilt
        · cases hbuilt
        · exact (Option.some.inj hbuilt).symm
    | arrayOf element _ ih => exact every_arrayOf harray ih element
  exact fun type info hinfo => hevery.get hinfo

end Registry

namespace CallPlan

/-- What a virtual call runs instead of the resolved method is a method in the dispatch table of the
object's type. -/
theorem exists_entry_of_override {w : World} {target : Value} {object : ObjectRef} {slot : Nat}
    {resolved : MethodRef} {callee : Callee} (htarget : w.opened target = .object object)
    (h : overrideFor w target slot resolved = some callee) :
    ∃ info entry method, w.registry.get object.type = some info ∧ entry ∈ info.dispatchTable ∧
      w.registry.methodAt entry = some method ∧ callee = method.on entry.declaring := by
  have hruntime : runtimeType w target = some object.type := by simp only [runtimeType, htarget]
  simp only [overrideFor, hruntime, Option.bind_eq_bind, Option.bind_some] at h
  obtain ⟨info, hinfo, h⟩ := Option.bind_eq_some_iff.mp h
  obtain ⟨entry, hentry, h⟩ := Option.bind_eq_some_iff.mp h
  split at h
  · cases h
  · obtain ⟨owner, howner, h⟩ := Option.bind_eq_some_iff.mp h
    obtain ⟨method, hmethod, h⟩ := Option.bind_eq_some_iff.mp h
    have hcallee : method.on entry.declaring = callee := Option.some.inj h
    exact ⟨info, entry, method, hinfo, List.mem_of_getElem? hentry,
      by simp [Registry.methodAt, howner, hmethod], hcallee.symm⟩

end CallPlan

end Introspect
