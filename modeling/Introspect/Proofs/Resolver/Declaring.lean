import Introspect.Proofs.Accessor.Forms
import Introspect.Proofs.Resolver.Binding

/-!
# `Introspect.Proofs.Resolver.Declaring`: where resolved members are declared

A field, property or method that answers a request is declared on the target type of the request or
on one of its bases, because the chain that is searched has these types only. `declaring_of_resolve`
says so for every request, and that the type which declares the code of the member is published and
has members.
-/

set_option autoImplicit false

namespace Introspect

namespace Registry

variable {reg : Registry} {type : TypeHandle} {flags : Flags} {chain : List TypeInfo}
  {info : TypeInfo}

/-- The types that are searched for members are those that the first one derives from. -/
theorem derivesFrom_of_typeChain (hkeyed : reg.Keyed) (h : reg.typeChain type flags = .ok chain)
    (hinfo : info ∈ chain) : reg.DerivesFrom type info.handle := by
  unfold typeChain at h
  split at h
  · obtain ⟨part, hpart, hget⟩ := get_of_infos h hinfo
    obtain rfl := List.mem_singleton.mp hpart
    rw [hkeyed.handle_eq hget]
    exact .refl
  · obtain ⟨part, hpart, hget⟩ := get_of_infos h hinfo
    rw [hkeyed.handle_eq hget]
    cases List.mem_cons.mp hpart with
    | inl heq => exact heq ▸ .refl
    | inr hbase => exact derivesFrom_of_mem_bases hbase

end Registry

namespace Resolver

variable {reg : Registry} {sig : Signature} {found : Resolution} {declaring : TypeHandle}

/-- A field request is answered by its target, name, direction and flags alone. -/
theorem resolve_of_field (hkind : sig.kind = .field) :
    resolve reg sig = resolve reg (.field sig.target sig.nameText sig.direction sig.flags) := by
  unfold resolve
  rw [hkind]
  rfl

/-- So is a property request. -/
theorem resolve_of_property (hkind : sig.kind = .property) :
    resolve reg sig = resolve reg (.property sig.target sig.nameText sig.direction sig.flags) := by
  unfold resolve
  rw [hkind]
  rfl

/-- A type that is published and has members to be found. -/
def HasMembers (reg : Registry) (type : TypeHandle) : Prop :=
  ∃ info, reg.get type = some info ∧ (info.fields ≠ [] ∨ info.methods ≠ [])

/-- The code of a field, property or method that answers a request is declared on a type that the
target of the request derives from, and which is published with members. -/
theorem declaring_of_resolve (hkeyed : reg.Keyed) (h : resolve reg sig = .ok found)
    (hdeclaring : found.member.declaring? = some declaring) :
    reg.DerivesFrom sig.target declaring ∧ HasMembers reg declaring := by
  have hnil : ∀ {α : Type} {items : List α} {index : Nat} {item : α},
      items[index]? = some item → items ≠ [] := by
    rintro α items index item hitem rfl
    simp at hitem
  have honChain : ∀ {type : TypeHandle} {flags : Flags} {chain : List TypeInfo} {info : TypeInfo},
      reg.typeChain type flags = .ok chain → info ∈ chain →
      (info.fields ≠ [] ∨ info.methods ≠ []) →
      reg.DerivesFrom type info.handle ∧ HasMembers reg info.handle :=
    fun hchain hinfo hmembers => ⟨Registry.derivesFrom_of_typeChain hkeyed hchain hinfo, _,
      Registry.get_of_typeChain hkeyed hchain hinfo, hmembers⟩
  cases hkind : sig.kind with
  | field =>
      rw [resolve_of_field hkind] at h
      obtain ⟨chain, hchain, hfirst⟩ := resolve_field_eq_ok_iff.mp h
      obtain ⟨front, info, back, rfl, -, hinfo⟩ := firstOn_eq_some_iff.mp hfirst
      obtain ⟨chosen, hchosen, rfl⟩ := fieldOn_eq_some.mp hinfo
      obtain rfl : info.handle = declaring := Option.some.inj hdeclaring
      exact honChain hchain (by simp)
        (.inl (hnil (mem_positions_iff.mp (mem_of_pick hchosen)).1))
  | property =>
      rw [resolve_of_property hkind] at h
      obtain ⟨chain, _, _, ⟨ref, method⟩, _, _, hchain, haccessor, hmember⟩ := accessor_of_resolve h
      obtain ⟨info, hinfo, hhandle, hmethod, -⟩ := exists_of_findAccessor haccessor
      rw [hmember] at hdeclaring
      obtain rfl : info.handle = declaring := hhandle.symm.trans (Option.some.inj hdeclaring)
      exact honChain hchain hinfo (.inr (hnil hmethod))
  | method =>
      obtain ⟨chain, front, info, back, index, method, hchain, rfl, -, hchosen, rfl⟩ :=
        (resolve_method_eq_ok_iff hkind).mp h
      obtain ⟨exact, haccepting⟩ := mem_accepting_of_chosen hchosen
      obtain rfl : info.handle = declaring := Option.some.inj hdeclaring
      exact honChain hchain (by simp) (.inr (hnil (mem_accepting_iff.mp haccepting).1))
  | constructor =>
      -- What creates an instance is no member that works on one.
      obtain ⟨info, -, ⟨-, -, element, rfl⟩ | ⟨-, -, rfl⟩ | hdeclared⟩ :=
        resolve_constructor_eq_ok hkind h
      · cases hdeclaring
      · cases hdeclaring
      · obtain ⟨index, ctor, exact, rfl, -⟩ := declaredConstructor_eq_ok hdeclared
        cases hdeclaring
  | element =>
      obtain ⟨element, hmember⟩ := element_of_resolve hkind h
      rw [hmember] at hdeclaring
      cases hdeclaring
  | mapping =>
      unfold resolve at h
      rw [hkind] at h
      cases h

end Resolver

namespace Access

/-- The member of a compiled accessor is declared on a type that the target of the request derives
from, and which is published with members. -/
theorem Compiled.declaring {access : Access} {reg : Registry} {sig : Signature}
    {declaring : TypeHandle} (h : access.Compiled reg sig declaring) (hkeyed : reg.Keyed) :
    reg.DerivesFrom sig.target declaring ∧ Resolver.HasMembers reg declaring := by
  have hresolved : ∀ {β : Type} {compiler : Compiler β} {prepared : Prepared β} {n : Nat},
      compiler.compile reg sig = (.ok prepared, n) →
      prepared.signature.declaring? = some declaring →
      reg.DerivesFrom sig.target declaring ∧ Resolver.HasMembers reg declaring := by
    intro β compiler prepared n hcompile hdeclaring
    obtain ⟨found, hfound, hsig, -⟩ := Compiler.compile_eq_ok hcompile
    rw [hsig] at hdeclaring
    exact Resolver.declaring_of_resolve hkeyed hfound hdeclaring
  cases h with
  | read hcompile hdeclaring => exact hresolved hcompile hdeclaring
  | write v hcompile hdeclaring => exact hresolved hcompile hdeclaring
  | invoke args hcompile hdeclaring => exact hresolved hcompile hdeclaring

end Access

end Introspect
