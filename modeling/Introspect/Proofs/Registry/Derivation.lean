import Introspect.Registry
import Mathlib.Data.List.Nodup
import Mathlib.Data.List.Perm.Subperm
import Mathlib.Logic.Relation

/-!
# `Introspect.Proofs.Registry.Derivation`: base types and embedded parts

`DerivesFrom` is derivation along declared bases, as a relation. An object of a type embeds, one
inside another, the parts of the types that it derives from; `PartAt` says where the part of one of
them is. There is one for those types only (`PartAt.derivesFrom`).

The search for a part is cut off after as many steps as there are types. That is never too early:
bases that lead to a type without passing it before are all different (`nodup_of_leads`) and all
published, so `length_le_of_leads` bounds their number. `depth?_eq_some_iff` draws the conclusion
that the search finds every part, and nothing else. The list of bases is cut off in the same way,
and `mem_bases_iff` says that it has every type above another one.
-/

set_option autoImplicit false

namespace Introspect.Registry

variable {reg : Registry} {type base target : TypeHandle} {data part : Instance} {depth : Nat}

/-- A type is the other one, or derives from it along declared bases. -/
def DerivesFrom (reg : Registry) : TypeHandle → TypeHandle → Prop :=
  Relation.ReflTransGen fun type base => reg.baseOf type = some base

/-- An instance of `type` with storage `data` holds its part of type `target` a number of embedded
bases down. The first type on the way that is the target counts. -/
inductive PartAt (reg : Registry) (target : TypeHandle) :
    TypeHandle → Instance → Nat → Instance → Prop
  | self {data : Instance} : PartAt reg target target data 0 data
  | embedded {type base : TypeHandle} {info : TypeInfo} {data inner part : Instance} {depth : Nat} :
      type ≠ target → reg.get type = some info → info.base = some base →
      info.embedsBase = some data.native → data.base = some inner →
      PartAt reg target base inner depth part → PartAt reg target type data (depth + 1) part

/-- A type right below the root type derives from no third type. -/
theorem not_derivesFrom_of_base_object (hbase : reg.baseOf type = some .object)
    (hroot : reg.baseOf .object = none) (hne : type ≠ target) (hobject : .object ≠ target) :
    ¬ reg.DerivesFrom type target := by
  intro h
  obtain h | ⟨base, hstep, h⟩ := h.cases_head
  · exact hne h
  · obtain rfl := Option.some.inj (hbase.symm.trans hstep)
    obtain h | ⟨base, hstep, -⟩ := h.cases_head
    · exact hobject h
    · simp [hroot] at hstep

/-! ### The search finds parts only -/

/-- The depth that a search answers with is that of a part. -/
theorem partAt_of_depthOf {limit : Nat} (h : reg.depthOf target limit type data = some depth) :
    ∃ part, reg.PartAt target type data depth part := by
  induction limit generalizing type data depth with
  | zero =>
      unfold depthOf at h
      split at h
      · next htype =>
          obtain rfl : 0 = depth := by simpa using h
          subst htype
          exact ⟨data, .self⟩
      · simp at h
  | succ limit ih =>
      unfold depthOf at h
      split at h
      · next htype =>
          obtain rfl : 0 = depth := by simpa using h
          subst htype
          exact ⟨data, .self⟩
      · next htype =>
          simp only [Option.bind_eq_bind, Option.bind_eq_some_iff] at h
          obtain ⟨info, hinfo, native, hembeds, h⟩ := h
          split at h
          · next hnative =>
              simp only [Option.bind_eq_some_iff] at h
              obtain ⟨inner, hinner, base, hbase, h⟩ := h
              simp only [Option.map_eq_map, Option.map_eq_some_iff] at h
              obtain ⟨below, hbelow, rfl⟩ := h
              obtain ⟨part, hpart⟩ := ih hbelow
              exact ⟨part, .embedded htype hinfo hbase (hnative ▸ hembeds) hinner hpart⟩
          · simp at h

/-- A part is where its depth says. -/
theorem PartAt.part_eq (h : reg.PartAt target type data depth part) :
    data.part depth = some part := by
  induction h with
  | self => rfl
  | embedded _ _ _ _ hinner _ ih => simp [Instance.part, hinner, ih]

/-- An object embeds parts of the types only that it derives from. -/
theorem PartAt.derivesFrom (h : reg.PartAt target type data depth part) :
    reg.DerivesFrom type target := by
  induction h with
  | self => exact .refl
  | embedded _ hinfo hbase _ _ _ ih => exact .head (by simp [baseOf, hinfo, hbase]) ih

/-! ### The search is long enough -/

/-- The bases that lead from a type to the target, the target left out. -/
inductive Leads (reg : Registry) (target : TypeHandle) : List TypeHandle → TypeHandle → Prop
  | arrived : Leads reg target [] target
  | up {type base : TypeHandle} {rest : List TypeHandle} :
      type ≠ target → reg.baseOf type = some base → Leads reg target rest base →
      Leads reg target (type :: rest) type

variable {chain chain' rest : List TypeHandle}

/-- There is one way only from a type to the target. -/
theorem Leads.unique (h : reg.Leads target chain type) (h' : reg.Leads target chain' type) :
    chain = chain' := by
  induction h generalizing chain' with
  | arrived =>
      cases h' with
      | arrived => rfl
      | up hne _ _ => exact absurd rfl hne
  | up hne hbase _ ih =>
      cases h' with
      | arrived => exact absurd rfl hne
      | up _ hbase' hrest' =>
          obtain rfl := Option.some.inj (hbase.symm.trans hbase')
          rw [ih hrest']

/-- The way goes on from each of its types. -/
theorem Leads.suffix {front : List TypeHandle} {middle : TypeHandle}
    (h : reg.Leads target (front ++ middle :: rest) type) :
    reg.Leads target (middle :: rest) middle := by
  induction front generalizing type with
  | nil =>
      cases h with
      | up hne hbase hrest => exact .up hne hbase hrest
  | cons first front ih =>
      cases h with
      | up _ _ hrest => exact ih hrest

/-- A way that arrives passes no type twice: from the second time on it would be as long as from the
first. -/
theorem nodup_of_leads (h : reg.Leads target chain type) : chain.Nodup := by
  induction h with
  | arrived => exact List.nodup_nil
  | @up type base rest hne hbase hrest ih =>
      refine List.nodup_cons.mpr ⟨fun hmem => ?_, ih⟩
      obtain ⟨front, back, rfl⟩ := List.append_of_mem hmem
      have hlong : reg.Leads target (type :: (front ++ type :: back)) type := .up hne hbase hrest
      have hlen := congrArg List.length (hlong.unique hrest.suffix)
      simp only [List.length_cons, List.length_append] at hlen
      omega

/-- A type that has a base is published. -/
theorem mem_types_of_baseOf (h : reg.baseOf type = some base) :
    type ∈ reg.types.map Prod.fst := by
  simp only [baseOf, get, Option.bind_eq_some_iff] at h
  obtain ⟨info, hinfo, -⟩ := h
  obtain ⟨front, back, htypes, -⟩ := List.lookup_eq_some_iff.mp hinfo
  simp [htypes]

/-- All types on the way are published. -/
theorem subset_types_of_leads (h : reg.Leads target chain type) :
    chain ⊆ reg.types.map Prod.fst := by
  induction h with
  | arrived => exact List.nil_subset _
  | up _ hbase _ ih => exact List.cons_subset.mpr ⟨mem_types_of_baseOf hbase, ih⟩

/-- No way to a target is longer than there are types. -/
theorem length_le_of_leads (h : reg.Leads target chain type) : chain.length ≤ reg.types.length := by
  have hle := ((nodup_of_leads h).subperm (subset_types_of_leads h)).length_le
  rwa [List.length_map] at hle

/-- A part lies as deep as the way to its type is long. -/
theorem PartAt.leads (h : reg.PartAt target type data depth part) :
    ∃ chain, reg.Leads target chain type ∧ chain.length = depth := by
  induction h with
  | self => exact ⟨[], .arrived, rfl⟩
  | embedded hne hinfo hbase _ _ _ ih =>
      obtain ⟨chain, hchain, rfl⟩ := ih
      exact ⟨_ :: chain, .up hne (by simp [baseOf, hinfo, hbase]) hchain, rfl⟩

/-- A part is found when the search is as long as the part is deep. -/
theorem depthOf_of_partAt {limit : Nat} (h : reg.PartAt target type data depth part)
    (hlimit : depth ≤ limit) : reg.depthOf target limit type data = some depth := by
  induction h generalizing limit with
  | self => cases limit <;> simp [depthOf]
  | embedded hne hinfo hbase hembeds hinner _ ih =>
      cases limit with
      | zero => omega
      | succ limit =>
          have hbelow := ih (Nat.le_of_succ_le_succ hlimit)
          simp [depthOf, hne, hinfo, hembeds, hinner, hbase, hbelow]

/-- A search answers with a depth exactly when the part is there. -/
theorem depth?_eq_some_iff :
    reg.depth? type target data = some depth ↔ ∃ part, reg.PartAt target type data depth part := by
  refine ⟨partAt_of_depthOf, fun ⟨part, hpart⟩ => ?_⟩
  obtain ⟨chain, hchain, rfl⟩ := hpart.leads
  exact depthOf_of_partAt hpart (length_le_of_leads hchain)

/-! ### The list of bases is long enough -/

/-- Where a type derives from the target, some bases lead there. -/
theorem exists_leads (h : reg.DerivesFrom type target) : ∃ chain, reg.Leads target chain type := by
  induction h using Relation.ReflTransGen.head_induction_on with
  | refl => exact ⟨[], .arrived⟩
  | @head type base hbase _ ih =>
      by_cases htype : type = target
      · exact ⟨[], htype ▸ .arrived⟩
      · obtain ⟨chain, hchain⟩ := ih
        exact ⟨type :: chain, .up htype hbase hchain⟩

/-- A chain of bases has only types that its first one derives from. -/
theorem derivesFrom_of_mem_chainFrom {limit : Nat} {start : Option TypeHandle}
    (h : target ∈ reg.chainFrom limit start) :
    ∃ first, start = some first ∧ reg.DerivesFrom first target := by
  fun_induction chainFrom reg limit start with
  | case1 => cases h
  | case2 => cases h
  | case3 limit type ih =>
      refine ⟨type, rfl, ?_⟩
      cases List.mem_cons.mp h with
      | inl heq => exact heq ▸ .refl
      | inr hrest =>
          obtain ⟨base, hbase, hderives⟩ := ih hrest
          exact .head hbase hderives

/-- A chain of bases has the target when it is longer than the way there. -/
theorem mem_chainFrom_of_leads {limit : Nat} (h : reg.Leads target chain type)
    (hlimit : chain.length < limit) : target ∈ reg.chainFrom limit (some type) := by
  induction h generalizing limit with
  | arrived =>
      obtain ⟨rest, rfl⟩ := Nat.exists_eq_add_of_lt hlimit
      exact List.mem_cons_self
  | @up type base rest _ hbase _ ih =>
      rw [List.length_cons] at hlimit
      obtain ⟨more, rfl⟩ : ∃ more, limit = more + 1 := ⟨limit - 1, by omega⟩
      rw [chainFrom, hbase]
      exact .tail _ (ih (by omega))

/-- The bases of a type are the types that its direct base derives from. -/
theorem mem_bases_iff : target ∈ reg.bases type ↔
    ∃ base, reg.baseOf type = some base ∧ reg.DerivesFrom base target := by
  constructor
  · exact derivesFrom_of_mem_chainFrom
  · rintro ⟨base, hbase, hderives⟩
    obtain ⟨chain, hchain⟩ := exists_leads hderives
    rw [bases, hbase]
    exact mem_chainFrom_of_leads hchain (Nat.lt_succ_of_le (length_le_of_leads hchain))

/-- A type derives from each of its bases. -/
theorem derivesFrom_of_mem_bases (h : target ∈ reg.bases type) : reg.DerivesFrom type target := by
  obtain ⟨base, hbase, hderives⟩ := mem_bases_iff.mp h
  exact .head hbase hderives

/-- A base of a base is a base. -/
theorem mem_bases_trans {middle : TypeHandle} (hmiddle : middle ∈ reg.bases type)
    (htarget : target ∈ reg.bases middle) : target ∈ reg.bases type := by
  obtain ⟨base, hbase, hderives⟩ := mem_bases_iff.mp hmiddle
  exact mem_bases_iff.mpr ⟨base, hbase, hderives.trans (derivesFrom_of_mem_bases htarget)⟩

end Introspect.Registry
