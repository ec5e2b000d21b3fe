import Introspect.Accessor
import Introspect.Proofs.Registry.Handles
import Mathlib.Data.List.Forall2

/-!
# `Introspect.Proofs.Resolver.Chain`: the types that are searched for members

A request is answered from a chain of descriptors: that of the target type and, unless only declared
members count, those of its bases. `typeChain_eq_ok` says that the chain is there when all of these
types are published, and `get_of_typeChain` that each descriptor of it is found again under its own
handle.

An accessor is looked up by name along the chain. Whatever `findAccessor` finds is a method of one
of these types, without type arguments, so a call of it can always be prepared
(`ofMethod_of_findAccessor`).
-/

set_option autoImplicit false

namespace Introspect

/-- Treating the items of a list one after another succeeds when it succeeds for each. -/
theorem mapM_eq_ok_iff {ε α β : Type} {f : α → Except ε β} {items : List α} {results : List β} :
    items.mapM f = .ok results ↔ List.Forall₂ (fun a b => f a = .ok b) items results := by
  induction items generalizing results with
  | nil =>
      rw [List.mapM_nil, List.forall₂_nil_left_iff]
      exact ⟨fun h => (Except.ok.inj h).symm, fun h => by rw [h]; rfl⟩
  | cons item rest ih =>
      rw [List.mapM_cons, List.forall₂_cons_left_iff]
      cases hitem : f item with
      | error e => simp [bind, Except.bind]
      | ok result =>
          cases hrest : rest.mapM f with
          | error e =>
              have hnone : ∀ others, ¬ List.Forall₂ (fun a b => f a = .ok b) rest others :=
                fun others h => by simp [ih.mpr h] at hrest
              simp [bind, Except.bind, hnone]
          | ok others =>
              have hothers : ∀ found, List.Forall₂ (fun a b => f a = .ok b) rest found ↔
                  others = found := fun found => by rw [← ih, hrest, Except.ok.injEq]
              simp [bind, Except.bind, pure, Except.pure, hothers, eq_comm]

/-- Each result is that of the item at its position. -/
theorem map_eq_of_mapM {ε α β : Type} {f : α → Except ε β} {items : List α} {results : List β}
    (h : items.mapM f = .ok results) : items.map f = results.map .ok := by
  rw [← List.forall₂_eq_eq_eq, List.forall₂_map_left_iff, List.forall₂_map_right_iff]
  exact mapM_eq_ok_iff.mp h

/-- Each item has a result. -/
theorem exists_of_mapM_eq_ok {ε α β : Type} {f : α → Except ε β} {items : List α} {results : List β}
    (h : items.mapM f = .ok results) {item : α} (hitem : item ∈ items) :
    ∃ result ∈ results, f item = .ok result := by
  have hmem : f item ∈ results.map .ok := by
    rw [← map_eq_of_mapM h]
    exact List.mem_map_of_mem hitem
  obtain ⟨result, hresult, heq⟩ := List.mem_map.mp hmem
  exact ⟨result, hresult, heq.symm⟩

/-- There are results when each item has one. -/
theorem exists_mapM_eq_ok {ε α β : Type} {f : α → Except ε β} {items : List α}
    (h : ∀ item ∈ items, ∃ result, f item = .ok result) :
    ∃ results, items.mapM f = .ok results := by
  induction items with
  | nil => exact ⟨[], rfl⟩
  | cons item rest ih =>
      obtain ⟨result, hresult⟩ := h item List.mem_cons_self
      obtain ⟨results, hresults⟩ := ih fun other hother => h other (.tail _ hother)
      exact ⟨result :: results, mapM_eq_ok_iff.mpr (.cons hresult (mapM_eq_ok_iff.mp hresults))⟩

/-- There are no results only if one item has none, and the error is that of the item. -/
theorem exists_of_mapM_eq_error {ε α β : Type} {f : α → Except ε β} {items : List α} {e : ε}
    (h : items.mapM f = .error e) : ∃ item ∈ items, f item = .error e := by
  induction items with
  | nil => cases h
  | cons item rest ih =>
      rw [List.mapM_cons] at h
      cases hitem : f item with
      | error other =>
          rw [hitem] at h
          obtain rfl : other = e := Except.error.inj h
          exact ⟨item, List.mem_cons_self, hitem⟩
      | ok result =>
          rw [hitem] at h
          cases hrest : rest.mapM f with
          | error other =>
              rw [hrest] at h
              obtain rfl : other = e := Except.error.inj h
              obtain ⟨found, hfound, hfails⟩ := ih hrest
              exact ⟨found, .tail _ hfound, hfails⟩
          | ok results =>
              rw [hrest] at h
              cases h

namespace Registry

variable {reg : Registry} {type : TypeHandle} {flags : Flags} {chain : List TypeInfo}
  {info : TypeInfo}

/-- A descriptor is there for every published type. -/
theorem info_eq_ok_iff : reg.info type = .ok info ↔ reg.get type = some info := by
  unfold Registry.info
  cases reg.get type <;> simp

/-- A type is published, and so are its bases. -/
def Registered (reg : Registry) (type : TypeHandle) : Prop :=
  ∀ part ∈ type :: reg.bases type, (reg.get part).isSome = true

/-- The chain of a registered type is there. -/
theorem typeChain_eq_ok (h : reg.Registered type) (flags : Flags) :
    ∃ chain, reg.typeChain type flags = .ok chain := by
  have hall : ∀ types : List TypeHandle, (∀ part ∈ types, (reg.get part).isSome = true) →
      ∃ chain, reg.infos types = .ok chain := by
    intro types hparts
    refine exists_mapM_eq_ok fun part hpart => ?_
    obtain ⟨info, hinfo⟩ := Option.isSome_iff_exists.mp (hparts part hpart)
    exact ⟨info, info_eq_ok_iff.mpr hinfo⟩
  unfold typeChain
  split
  · exact hall [type] fun part hpart => h part (by simp_all)
  · exact hall _ h

/-- What is found for a list of types was found for one of them. -/
theorem get_of_infos {types : List TypeHandle} (h : reg.infos types = .ok chain)
    (hinfo : info ∈ chain) : ∃ part ∈ types, reg.get part = some info := by
  have hmem : Except.ok info ∈ types.map reg.info := by
    rw [map_eq_of_mapM h]
    exact List.mem_map_of_mem hinfo
  obtain ⟨part, hpart, hfound⟩ := List.mem_map.mp hmem
  exact ⟨part, hpart, info_eq_ok_iff.mp hfound⟩

/-- Every descriptor of a chain is found under its own handle. -/
theorem get_of_typeChain (hkeyed : reg.Keyed) (h : reg.typeChain type flags = .ok chain)
    (hinfo : info ∈ chain) : reg.get info.handle = some info := by
  obtain ⟨types, htypes⟩ : ∃ types, reg.infos types = .ok chain := by
    unfold typeChain at h
    split at h
    · exact ⟨_, h⟩
    · exact ⟨_, h⟩
  obtain ⟨part, -, hpart⟩ := get_of_infos htypes hinfo
  rwa [hkeyed.handle_eq hpart]

/-- Without the type itself there is no chain. -/
theorem typeChain_of_error {e : ReflectError} (h : reg.info type = .error e) (flags : Flags) :
    reg.typeChain type flags = .error e := by
  unfold typeChain infos
  split
  · rw [List.mapM_cons, h]
    rfl
  · rw [List.mapM_cons, h]
    rfl

/-- A chain starts at the type itself, and goes on with its bases unless only declared members
count. -/
theorem typeChain_of_ok (h : reg.info type = .ok info) (flags : Flags) :
    reg.typeChain type flags =
      if flags.contains Flags.declaredOnly then .ok [info]
      else (reg.infos (reg.bases type)).map (info :: ·) := by
  unfold typeChain
  split
  · rw [infos, List.mapM_cons, h]
    rfl
  · rw [infos, List.mapM_cons, h]
    show (reg.infos (reg.bases type)).bind _ = _
    cases reg.infos (reg.bases type) <;> rfl

/-- A list of types has no descriptors only if one of them is not published. -/
theorem exists_of_infos_eq_error {types : List TypeHandle} {e : ReflectError}
    (h : reg.infos types = .error e) :
    ∃ part ∈ types, reg.get part = none ∧ e = .unknownType (reg.nameOf part) := by
  obtain ⟨part, hpart, hinfo⟩ := exists_of_mapM_eq_error h
  refine ⟨part, hpart, ?_⟩
  rw [Registry.info] at hinfo
  cases hget : reg.get part with
  | some info => simp [hget] at hinfo
  | none =>
      rw [hget] at hinfo
      exact ⟨rfl, (Except.error.inj hinfo).symm⟩

end Registry

namespace Resolver

variable {reg : Registry} {type : TypeHandle} {flags : Flags} {chain : List TypeInfo}

/-- What is found at a position satisfies the test. -/
theorem mem_positions_iff {α : Type} {p : α → Bool} {items : List α} {index : Nat} {item : α} :
    (index, item) ∈ positions p items ↔ items[index]? = some item ∧ p item = true := by
  simp only [positions, List.mem_map, List.mem_filter, Prod.exists, Prod.mk.injEq]
  constructor
  · rintro ⟨found, position, ⟨hmem, hp⟩, rfl, rfl⟩
    exact ⟨List.mem_zipIdx_iff_getElem?.mp hmem, hp⟩
  · rintro ⟨hitem, hp⟩
    exact ⟨item, index, ⟨List.mem_zipIdx_iff_getElem?.mpr hitem, hp⟩, rfl, rfl⟩

/-- Each position is found once. -/
theorem nodup_positions {α : Type} (p : α → Bool) (items : List α) :
    ((positions p items).map Prod.fst).Nodup := by
  have hsub : ((positions p items).map Prod.fst).Sublist (items.zipIdx.map Prod.snd) := by
    rw [positions, List.map_map]
    exact List.filter_sublist.map _
  refine hsub.nodup ?_
  rw [List.zipIdx_map_snd]
  exact List.nodup_range'

/-- An accessor is a method on the chain that answers to the name. -/
theorem exists_of_findAccessor {name : String} {ref : MethodRef} {method : MethodInfo}
    (h : findAccessor chain name flags = some (ref, method)) :
    ∃ info ∈ chain, ref.declaring = info.handle ∧ info.methods[ref.index]? = some method ∧
      accessorMatches name flags method = true := by
  obtain ⟨info, hinfo, hfound⟩ := List.exists_of_findSome?_eq_some h
  obtain ⟨⟨index, found⟩, hhead, heq⟩ := Option.map_eq_some_iff.mp hfound
  obtain ⟨hmethod, hmatches⟩ := mem_positions_iff.mp (List.mem_of_mem_head? hhead)
  obtain ⟨rfl, rfl⟩ := Prod.mk.inj heq
  exact ⟨info, hinfo, rfl, hmethod, hmatches⟩

/-- A call of an accessor can be prepared. -/
theorem ofMethod_of_findAccessor (hkeyed : reg.Keyed)
    (hchain : reg.typeChain type flags = .ok chain) {name : String} {wanted : Flags}
    {ref : MethodRef} {method : MethodInfo}
    (h : findAccessor chain name wanted = some (ref, method)) (writeBack : WriteBack) :
    ∃ info plan, reg.get ref.declaring = some info ∧ info.methods[ref.index]? = some method ∧
      CallPlan.ofMethod reg ref [] writeBack = .ok plan := by
  obtain ⟨info, hmem, hdeclaring, hmethod, hmatches⟩ := exists_of_findAccessor h
  have hinfo : reg.get ref.declaring = some info := by
    rw [hdeclaring]
    exact Registry.get_of_typeChain hkeyed hchain hmem
  have harity : method.arity = 0 := by
    simp only [accessorMatches, Bool.and_eq_true, beq_iff_eq] at hmatches
    exact hmatches.1.1
  cases hplan : CallPlan.ofMethod reg ref [] writeBack with
  | ok plan => exact ⟨info, plan, hinfo, hmethod, rfl⟩
  | error e =>
      simp [CallPlan.ofMethod, Registry.info, hinfo, hmethod, harity, bind, Except.bind, pure,
        Except.pure] at hplan

end Resolver

end Introspect
