import Introspect.Proofs.Registry.Assignability
import Introspect.Proofs.Registry.Builtins

/-!
# `Introspect.Proofs.Registry.Relations`: two ways to relate types

The registry asks whether values of a type can be stored at another one (`isAssignable`), and a
query whether a type inherits from another one or implements it (`inheritsOrImplements`). Both come
down to derivation and implementation, but they put the questions in different orders.
`isAssignable` tries the bases first, and the interfaces when that fails. `inheritsOrImplements`
looks at what the target is: for a published interface it asks for implementation alone, for
anything else for derivation alone, and no type inherits from itself.

So they part, apart from a type and itself, at an interface that stands among the bases of a type
without being implemented by it, and nowhere else (`related_alike_iff`). Where no interface is used
as a base there is no such pair, and a type is accepted exactly when it is the target, inherits from
it or implements it (`isAssignable_iff_inheritsOrImplements`).
-/

set_option autoImplicit false

namespace Introspect.Registry

variable {reg : Registry} {type base source target : TypeHandle}

/-- A type derives from itself and from its bases. -/
theorem derivesFrom_iff : reg.DerivesFrom type base ↔ type = base ∨ base ∈ reg.bases type := by
  constructor
  · intro h
    obtain heq | ⟨next, hnext, hderives⟩ := h.cases_head
    · exact .inl heq
    · exact .inr (mem_bases_iff.mpr ⟨next, hnext, hderives⟩)
  · rintro (rfl | hbase)
    · exact .refl
    · exact derivesFrom_of_mem_bases hbase

/-- Inheritance is derivation from another type, and every type inherits from the root type. -/
theorem inherits_iff : reg.inherits type base = true ↔
    type ≠ base ∧ (base = .object ∨ reg.DerivesFrom type base) := by
  simp only [inherits, Bool.and_eq_true, Bool.or_eq_true, bne_iff_ne, beq_iff_eq,
    List.contains_iff_mem, derivesFrom_iff]
  refine and_congr_right fun hne => or_congr_right ?_
  exact (or_iff_right hne).symm

/-- Acceptance is derivation or implementation, and the root type accepts every type. -/
theorem isAssignable_iff_derivesFrom : reg.isAssignable target source = true ↔
    target = .object ∨ reg.DerivesFrom source target ∨
      reg.isInterface target = true ∧ reg.implements source target = true := by
  rw [isAssignable_iff, derivesFrom_iff, eq_comm (a := target) (b := source)]
  tauto

/-- At an interface, only implementation counts. -/
theorem inheritsOrImplements_of_interface (hinterface : reg.isInterface base = true) :
    reg.inheritsOrImplements type base = reg.implements type base := by
  simp [inheritsOrImplements, implementsInterface, hinterface]

/-- At any other type, only inheritance counts. -/
theorem inheritsOrImplements_of_class (hclass : reg.isInterface base = false) :
    reg.inheritsOrImplements type base = reg.inherits type base := by
  simp [inheritsOrImplements, hclass]

/-- A type that is no interface accepts a type exactly when this inherits from it or is the same. -/
theorem isAssignable_iff_of_class (hclass : reg.isInterface target = false) :
    reg.isAssignable target source = true ↔
      source = target ∨ reg.inheritsOrImplements source target = true := by
  rw [inheritsOrImplements_of_class hclass, isAssignable_iff_derivesFrom, inherits_iff, hclass]
  by_cases hsame : source = target
  · subst hsame
    exact iff_of_true (.inr (.inl .refl)) (.inl rfl)
  · simp [hsame]

/-- An interface that is not used as a base accepts a type exactly when this implements it or is the
same. -/
theorem isAssignable_iff_of_interface (hinterface : reg.isInterface target = true)
    (hobject : target ≠ .object) (hbases : target ∉ reg.bases source) :
    reg.isAssignable target source = true ↔
      source = target ∨ reg.inheritsOrImplements source target = true := by
  rw [inheritsOrImplements_of_interface hinterface, isAssignable_iff_derivesFrom, derivesFrom_iff]
  simp [hobject, hbases, hinterface]

/-- The two relations part at an interface that is among the bases of a type, or is the root type,
without being implemented, and nowhere else. -/
theorem related_alike_iff :
    (reg.isAssignable target source = true ↔
      source = target ∨ reg.inheritsOrImplements source target = true) ↔
    ¬ (reg.isInterface target = true ∧ source ≠ target ∧ reg.implements source target = false ∧
      (target = .object ∨ target ∈ reg.bases source)) := by
  cases hkind : reg.isInterface target with
  | false => simp [isAssignable_iff_of_class hkind]
  | true =>
      by_cases hbase : target = .object ∨ target ∈ reg.bases source
      · have haccepted : reg.isAssignable target source = true := by
          rw [isAssignable_iff_derivesFrom, derivesFrom_iff]
          exact hbase.imp_right fun hmem => .inl (.inr hmem)
        rw [inheritsOrImplements_of_interface hkind]
        cases himplements : reg.implements source target <;> simp [haccepted, hbase]
      · obtain ⟨hobject, hbases⟩ := not_or.mp hbase
        simp [isAssignable_iff_of_interface hkind hobject hbases, hobject, hbases]

/-- Where no interface is used as a base, neither by declaration nor as the root type, the two
relations agree: a type is accepted exactly when it is the target, inherits from it or implements
it. This holds for every type and every target, be they published or not. -/
theorem isAssignable_iff_inheritsOrImplements (hroot : reg.isInterface .object = false)
    (hbases : ∀ type base, reg.baseOf type = some base → reg.isInterface base = false)
    (type base : TypeHandle) : reg.isAssignable base type = true ↔
      type = base ∨ reg.inheritsOrImplements type base = true := by
  refine related_alike_iff.mpr ?_
  rintro ⟨hinterface, -, -, rfl | hmem⟩
  · simp [hroot] at hinterface
  · -- The last step to a base is from a type that has it as its direct base.
    obtain ⟨next, hnext, hderives⟩ := mem_bases_iff.mp hmem
    obtain rfl | ⟨last, -, hlast⟩ := hderives.cases_tail
    · simp [hbases _ _ hnext] at hinterface
    · simp [hbases _ _ hlast] at hinterface

/-- The root type is a class. -/
theorem Grounded.isInterface_object (h : reg.Grounded) : reg.isInterface .object = false := by
  simp only [isInterface, h.get_object]
  rfl

/-- No interface is used as a base when no descriptor has one. -/
theorem isInterface_base_of_every
    (h : reg.Every fun _ info => ∀ base ∈ info.base, reg.isInterface base = false) :
    ∀ type base, reg.baseOf type = some base → reg.isInterface base = false := by
  intro type base hbase
  obtain ⟨info, hinfo, hbase⟩ := Option.bind_eq_some_iff.mp hbase
  exact h.get hinfo base hbase

/-- Gates are accepted where doors are, from which they inherit, and where what can be closed is,
which they implement through a circle of interfaces. -/
theorem isAssignable_iff_inheritsOrImplements_gateway :
    gateway.isInterface .object = false ∧
    (∀ type base, gateway.baseOf type = some base → gateway.isInterface base = false) ∧
    ∃ closable door gate, gateway.find "IClosable" = some closable ∧
      gateway.find "Door" = some door ∧ gateway.find "Gate" = some gate ∧
      gateway.inheritsOrImplements gate door = true ∧ gateway.isAssignable door gate = true ∧
      gateway.inheritsOrImplements gate closable = true ∧
      gateway.isAssignable closable gate = true ∧ gateway.isAssignable gate door = false := by
  have hrest : AtRest gates gateway := AtRest.initial.request _
  have hroot : gateway.isInterface .object = false :=
    (hrest.reached.grounded (by decide)).isInterface_object
  have hbases : ∀ type base, gateway.baseOf type = some base → gateway.isInterface base = false :=
    isInterface_base_of_every (show ∀ entry ∈ gateway.types, _ by decide)
  have hagree := isAssignable_iff_inheritsOrImplements hroot hbases
  have hdoor : gateway.inheritsOrImplements (.ofIndex 8) (.ofIndex 9) = true := by decide
  have hclosable : gateway.inheritsOrImplements (.ofIndex 8) (.ofIndex 11) = true := by decide
  have hback : ¬ (TypeHandle.ofIndex 9 = .ofIndex 8 ∨
      gateway.inheritsOrImplements (.ofIndex 9) (.ofIndex 8) = true) := by decide
  refine ⟨hroot, hbases, .ofIndex 11, .ofIndex 9, .ofIndex 8, by decide, by decide, by decide,
    hdoor, (hagree _ _).mpr (.inr hdoor), hclosable, (hagree _ _).mpr (.inr hclosable), ?_⟩
  exact Bool.eq_false_iff.mpr fun haccepted => hback ((hagree _ _).mp haccepted)

end Introspect.Registry
