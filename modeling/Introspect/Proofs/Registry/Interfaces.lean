import Introspect.Proofs.Registry.Derivation
import Mathlib.Algebra.Order.BigOperators.Group.List
import Mathlib.Algebra.Order.Ring.Nat

/-!
# `Introspect.Proofs.Registry.Interfaces`: the search for an interface

A type implements what it declares, what its bases declare, and what interfaces of any of these
declare in turn. `Reaches` is the walk from type to type that this takes, as a relation, and
`implements_iff` says that the search decides it: some type that is reached declares the interface.

The search keeps two lists, the types it has seen and the types it still has to look at. What it
finds is declared at the end of a walk (`declares_of_searchInterface`). When it finds nothing, it
leaves no walk out: no type that was seen declares the interface, and whatever lies right above one
was seen as well or is still to be looked at. `Explored` states that invariant.

Declarations of interfaces may lead in circles. Each type is looked at once, and `remaining`
counts the steps that the unseen ones can still cost, so the search is never cut short
(`exists_explored`).
-/

set_option autoImplicit false

namespace Introspect.Registry

variable {reg : Registry} {type interface : TypeHandle} {info : TypeInfo} {limit : Nat}
  {seen pending : List TypeHandle}

/-- A type lies right above another one: as its base, or as an interface that it declares. -/
def Above (reg : Registry) (type above : TypeHandle) : Prop :=
  ∃ info, reg.get type = some info ∧ (info.base = some above ∨ above ∈ info.interfaces)

/-- A walk upwards, along bases and declared interfaces. -/
def Reaches (reg : Registry) : TypeHandle → TypeHandle → Prop :=
  Relation.ReflTransGen reg.Above

/-- A published type declares an interface. -/
def Declares (reg : Registry) (type interface : TypeHandle) : Prop :=
  ∃ info, reg.get type = some info ∧ interface ∈ info.interfaces

/-- What the search goes on with after a published type is what lies right above it. -/
theorem mem_above_iff {above : TypeHandle} (hinfo : reg.get type = some info) :
    above ∈ info.base.toList ++ info.interfaces.reverse ↔ reg.Above type above := by
  simp [Above, hinfo]

/-- Derivation is a walk. -/
theorem DerivesFrom.reaches {base : TypeHandle} (h : reg.DerivesFrom type base) :
    reg.Reaches type base := by
  have hstep : ∀ type base, reg.baseOf type = some base → reg.Above type base := by
    intro type base hbase
    obtain ⟨info, hinfo, hbase⟩ := Option.bind_eq_some_iff.mp hbase
    exact ⟨info, hinfo, .inl hbase⟩
  exact Relation.ReflTransGen.mono hstep _ _ h

/-! ### What is found is declared -/

/-- What a search finds is declared at the end of a walk from a type that was to be looked at. -/
theorem declares_of_searchInterface
    (h : reg.searchInterface interface limit seen pending = true) :
    ∃ type ∈ pending, ∃ last, reg.Reaches type last ∧ reg.Declares last interface := by
  fun_induction searchInterface reg interface limit seen pending with
  | case1 => cases h
  | case2 => cases h
  | case3 limit seen type pending _ ih =>
      obtain ⟨start, hstart, hfound⟩ := ih h
      exact ⟨start, .tail _ hstart, hfound⟩
  | case4 limit seen type pending _ _ ih =>
      obtain ⟨start, hstart, hfound⟩ := ih h
      exact ⟨start, .tail _ hstart, hfound⟩
  | case5 limit seen type pending _ info hinfo hdeclared =>
      exact ⟨type, List.mem_cons_self, type, .refl, info, hinfo, hdeclared⟩
  | case6 limit seen type pending _ info hinfo _ ih =>
      obtain ⟨start, hstart, last, hreaches, hdeclares⟩ := ih h
      cases List.mem_append.mp hstart with
      | inl habove =>
          have hstep : reg.Above type start := (mem_above_iff hinfo).mp habove
          exact ⟨type, List.mem_cons_self, last, .head hstep hreaches, hdeclares⟩
      | inr hpending => exact ⟨start, .tail _ hpending, last, hreaches, hdeclares⟩

/-! ### No walk is left out -/

/-- The state of a search that has found nothing yet. -/
structure Explored (reg : Registry) (interface : TypeHandle) (seen pending : List TypeHandle) :
    Prop where
  /-- what lies right above a type that was seen is not forgotten -/
  above : ∀ type ∈ seen, ∀ above, reg.Above type above → above ∈ seen ∨ above ∈ pending
  undeclared : ∀ type ∈ seen, ¬ reg.Declares type interface

/-- A type that was seen before need not be looked at again. -/
theorem Explored.skip (h : reg.Explored interface seen (type :: pending)) (hseen : type ∈ seen) :
    reg.Explored interface seen pending where
  above := by
    intro start hstart above habove
    cases h.above start hstart above habove with
    | inl hold => exact .inl hold
    | inr hnew =>
        cases List.mem_cons.mp hnew with
        | inl heq => exact .inl (heq ▸ hseen)
        | inr hrest => exact .inr hrest
  undeclared := h.undeclared

/-- A type that declares nothing wanted was seen when all that lies right above it is to be looked
at. -/
theorem Explored.look {more : List TypeHandle}
    (h : reg.Explored interface seen (type :: pending))
    (hmore : ∀ above, reg.Above type above → above ∈ more)
    (hundeclared : ¬ reg.Declares type interface) :
    reg.Explored interface (type :: seen) (more ++ pending) where
  above := by
    intro start hstart above habove
    cases List.mem_cons.mp hstart with
    | inl heq => exact .inr (List.mem_append_left _ (hmore above (heq ▸ habove)))
    | inr hstart =>
        cases h.above start hstart above habove with
        | inl hold => exact .inl (.tail _ hold)
        | inr hnew =>
            cases List.mem_cons.mp hnew with
            | inl heq => exact .inl (heq ▸ List.mem_cons_self)
            | inr hrest => exact .inr (List.mem_append_right _ hrest)
  undeclared := by
    intro start hstart
    cases List.mem_cons.mp hstart with
    | inl heq => exact heq ▸ hundeclared
    | inr hstart => exact h.undeclared start hstart

/-- When nothing is left to look at, no walk from a type that was seen ends at a declaration. -/
theorem Explored.not_declares (h : reg.Explored interface seen []) {last : TypeHandle}
    (hseen : type ∈ seen) (hreaches : reg.Reaches type last) : ¬ reg.Declares last interface := by
  induction hreaches using Relation.ReflTransGen.head_induction_on with
  | refl => exact h.undeclared _ hseen
  | head hstep _ ih =>
      cases h.above _ hseen _ hstep with
      | inl habove => exact ih habove
      | inr hpending => exact absurd hpending List.not_mem_nil

/-! ### The search is never cut short -/

/-- The steps that looking at a type can cost: for itself, its base and its interfaces. -/
def cost (entry : TypeHandle × TypeInfo) : Nat := entry.2.interfaces.length + 2

/-- The steps that the types which were not seen can still cost. -/
def remaining (reg : Registry) (seen : List TypeHandle) : Nat :=
  (reg.types.map fun entry => if entry.1 ∈ seen then 0 else cost entry).sum

/-- At first nothing was seen, and the limit is above all costs. -/
theorem searchLimit_eq (reg : Registry) : reg.searchLimit = 2 + reg.remaining [] := by
  have hfold : ∀ (costs : List Nat) (start : Nat),
      costs.foldl (· + ·) start = start + costs.sum := by
    intro costs
    induction costs with
    | nil => intro start; rfl
    | cons first rest ih =>
        intro start
        rw [List.foldl_cons, ih, List.sum_cons, Nat.add_assoc]
  rw [searchLimit, hfold]
  simp [remaining, cost]

/-- Looking at one more type adds no costs. -/
theorem remaining_cons_le (reg : Registry) (type : TypeHandle) (seen : List TypeHandle) :
    reg.remaining (type :: seen) ≤ reg.remaining seen := by
  refine List.sum_le_sum fun entry _ => ?_
  by_cases hseen : entry.1 ∈ seen
  · simp [hseen]
  · rw [if_neg hseen]
    split <;> omega

/-- Looking at a published type for the first time pays for all that lies right above it. -/
theorem remaining_cons_of_get (hinfo : reg.get type = some info) (hnew : type ∉ seen) :
    reg.remaining (type :: seen) + (info.interfaces.length + 2) ≤ reg.remaining seen := by
  have hsplit : reg.remaining seen = reg.remaining (type :: seen) +
      (reg.types.map fun entry => if entry.1 = type then cost entry else 0).sum := by
    unfold remaining
    rw [← List.sum_map_add]
    refine congrArg List.sum (List.map_congr_left fun entry _ => ?_)
    by_cases htype : entry.1 = type
    · simp [htype, hnew]
    · simp [htype]
  have hentry : (type, info) ∈ reg.types := by
    obtain ⟨front, back, htypes, -⟩ := List.lookup_eq_some_iff.mp hinfo
    simp [htypes]
  have hle : cost (type, info) ≤
      (reg.types.map fun entry => if entry.1 = type then cost entry else 0).sum :=
    List.le_sum_of_mem (List.mem_map.mpr ⟨_, hentry, if_pos rfl⟩)
  rw [hsplit]
  exact Nat.add_le_add_left hle _

/-- A search that finds nothing has seen everything above the types that it was to look at, if it
may take as many steps as they can cost. -/
theorem exists_explored (h : reg.searchInterface interface limit seen pending = false)
    (hexplored : reg.Explored interface seen pending)
    (hlimit : pending.length + reg.remaining seen ≤ limit) :
    ∃ all, reg.Explored interface all [] ∧ seen ⊆ all ∧ pending ⊆ all := by
  fun_induction searchInterface reg interface limit seen pending with
  | case1 seen pending =>
      obtain rfl : pending = [] := List.length_eq_zero_iff.mp (by omega)
      exact ⟨seen, hexplored, List.Subset.refl _, List.nil_subset _⟩
  | case2 limit seen => exact ⟨seen, hexplored, List.Subset.refl _, List.nil_subset _⟩
  | case3 limit seen type pending hseen ih =>
      rw [List.length_cons] at hlimit
      obtain ⟨all, hall, hseenAll, hpending⟩ := ih h (hexplored.skip hseen) (by omega)
      exact ⟨all, hall, hseenAll, List.cons_subset.mpr ⟨hseenAll hseen, hpending⟩⟩
  | case4 limit seen type pending _ hnone ih =>
      rw [List.length_cons] at hlimit
      have hle := remaining_cons_le reg type seen
      -- Nothing lies above a type that is not published.
      have hnext : reg.Explored interface (type :: seen) ([] ++ pending) :=
        hexplored.look (by simp [Above, hnone]) (by simp [Declares, hnone])
      obtain ⟨all, hall, hseenAll, hpending⟩ := ih h hnext (by omega)
      obtain ⟨htype, hseenAll⟩ := List.cons_subset.mp hseenAll
      exact ⟨all, hall, hseenAll, List.cons_subset.mpr ⟨htype, hpending⟩⟩
  | case5 => cases h
  | case6 limit seen type pending hnew info hinfo hdeclared ih =>
      rw [List.length_cons] at hlimit
      have hle := remaining_cons_of_get hinfo hnew
      have hbase : info.base.toList.length ≤ 1 := by cases info.base <;> simp
      have hnext := hexplored.look (fun above => (mem_above_iff hinfo).mpr)
        (by simp [Declares, hinfo, hdeclared])
      obtain ⟨all, hall, hseenAll, hpending⟩ := ih h hnext (by
        simp only [List.length_append, List.length_reverse]
        omega)
      obtain ⟨htype, hseenAll⟩ := List.cons_subset.mp hseenAll
      obtain ⟨-, hpending⟩ := List.append_subset.mp hpending
      exact ⟨all, hall, hseenAll, List.cons_subset.mpr ⟨htype, hpending⟩⟩

/-- The search decides whether a walk leads to a type that declares the interface. -/
theorem implements_iff : reg.implements type interface = true ↔
    ∃ last, reg.Reaches type last ∧ reg.Declares last interface := by
  constructor
  · intro h
    obtain ⟨start, hstart, hfound⟩ := declares_of_searchInterface h
    rwa [List.mem_singleton.mp hstart] at hfound
  · rintro ⟨last, hreaches, hdeclares⟩
    by_contra hnot
    have hnone : reg.searchInterface interface reg.searchLimit [] [type] = false := by
      simpa [implements] using hnot
    have hstart : reg.Explored interface [] [type] := ⟨by simp, by simp⟩
    have hlimit : [type].length + reg.remaining [] ≤ reg.searchLimit := by
      rw [searchLimit_eq, List.length_singleton]
      omega
    obtain ⟨all, hall, -, htype⟩ := exists_explored hnone hstart hlimit
    exact hall.not_declares (htype List.mem_cons_self) hreaches hdeclares

/-- What is implemented above a type is implemented by it. -/
theorem implements_of_reaches {above : TypeHandle} (hreaches : reg.Reaches type above)
    (h : reg.implements above interface = true) : reg.implements type interface = true := by
  obtain ⟨last, hlast, hdeclares⟩ := implements_iff.mp h
  exact implements_iff.mpr ⟨last, hreaches.trans hlast, hdeclares⟩

/-- An interface lies above the types that implement it. -/
theorem reaches_of_implements (h : reg.implements type interface = true) :
    reg.Reaches type interface := by
  obtain ⟨last, hlast, info, hinfo, hdeclared⟩ := implements_iff.mp h
  exact hlast.tail ⟨info, hinfo, .inr hdeclared⟩

end Introspect.Registry
