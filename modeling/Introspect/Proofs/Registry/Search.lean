import Introspect.Proofs.Registry.Interfaces

/-!
# `Introspect.Proofs.Registry.Search`: the search for an interface ends

`searchInterface` is given a number of steps that it may take. `Search` is the same loop without
such a number: it runs until it has found a declaration or has nothing left to look at, and where
interfaces declare each other in a circle nothing but the list of the types that were seen stops it.

It does end. A turn either takes a type off the list of those to look at, or pays for what it puts
there with the cost of a type that was not seen before, so no search takes more turns than
`pending.length + reg.remaining seen` (`exists_search`). Each turn leaves one way to go on, so two
runs of one search agree (`Search.unique`).

`implements_decides_reachability` sums up: the search ends with the answer that `implements` gives,
and that answer says whether a walk along bases and declared interfaces leads to a published type
that declares the interface.
-/

set_option autoImplicit false

namespace Introspect.Registry

variable {reg : Registry} {type interface : TypeHandle} {limit turns turns' : Nat}
  {seen pending : List TypeHandle} {answer answer' : Bool}

/-- A search without a limit: when it has seen some types and has others to look at, it ends after
so many turns, with an answer. -/
inductive Search (reg : Registry) (interface : TypeHandle) :
    List TypeHandle → List TypeHandle → Nat → Bool → Prop
  /-- nothing is left to look at -/
  | exhausted {seen : List TypeHandle} : Search reg interface seen [] 0 false
  /-- a type that was seen before is passed over -/
  | again {seen pending : List TypeHandle} {type : TypeHandle} {turns : Nat} {answer : Bool} :
      type ∈ seen → Search reg interface seen pending turns answer →
      Search reg interface seen (type :: pending) (turns + 1) answer
  /-- so is a type that is not published, but it counts as seen -/
  | unpublished {seen pending : List TypeHandle} {type : TypeHandle} {turns : Nat}
      {answer : Bool} :
      type ∉ seen → reg.get type = none →
      Search reg interface (type :: seen) pending turns answer →
      Search reg interface seen (type :: pending) (turns + 1) answer
  /-- a type that declares the interface is found -/
  | declared {seen pending : List TypeHandle} {type : TypeHandle} {info : TypeInfo} :
      type ∉ seen → reg.get type = some info → interface ∈ info.interfaces →
      Search reg interface seen (type :: pending) 1 true
  /-- from any other type the search goes on with what lies right above it -/
  | above {seen pending : List TypeHandle} {type : TypeHandle} {info : TypeInfo} {turns : Nat}
      {answer : Bool} :
      type ∉ seen → reg.get type = some info → interface ∉ info.interfaces →
      Search reg interface (type :: seen)
        (info.base.toList ++ info.interfaces.reverse ++ pending) turns answer →
      Search reg interface seen (type :: pending) (turns + 1) answer

/-- A search ends in one way only. -/
theorem Search.unique (h : reg.Search interface seen pending turns answer)
    (h' : reg.Search interface seen pending turns' answer') :
    turns = turns' ∧ answer = answer' := by
  induction h generalizing turns' answer' with
  | exhausted =>
      cases h'
      exact ⟨rfl, rfl⟩
  | again hseen _ ih =>
      cases h' with
      | again _ hrest =>
          obtain ⟨rfl, rfl⟩ := ih hrest
          exact ⟨rfl, rfl⟩
      | unpublished hnew | declared hnew | above hnew => exact absurd hseen hnew
  | unpublished hnew hnone _ ih =>
      cases h' with
      | again hseen => exact absurd hseen hnew
      | unpublished _ _ hrest =>
          obtain ⟨rfl, rfl⟩ := ih hrest
          exact ⟨rfl, rfl⟩
      | declared _ hinfo | above _ hinfo => simp [hnone] at hinfo
  | declared hnew hinfo hdeclared =>
      cases h' with
      | again hseen => exact absurd hseen hnew
      | unpublished _ hnone => simp [hnone] at hinfo
      | declared => exact ⟨rfl, rfl⟩
      | above _ hinfo' hundeclared =>
          obtain rfl := Option.some.inj (hinfo.symm.trans hinfo')
          exact absurd hdeclared hundeclared
  | above hnew hinfo hundeclared _ ih =>
      cases h' with
      | again hseen => exact absurd hseen hnew
      | unpublished _ hnone => simp [hnone] at hinfo
      | declared _ hinfo' hdeclared =>
          obtain rfl := Option.some.inj (hinfo.symm.trans hinfo')
          exact absurd hdeclared hundeclared
      | above _ hinfo' _ hrest =>
          obtain rfl := Option.some.inj (hinfo.symm.trans hinfo')
          obtain ⟨rfl, rfl⟩ := ih hrest
          exact ⟨rfl, rfl⟩

/-- A search ends, and a limit that allows for all that it can cost does not change its answer. -/
theorem exists_search (hlimit : pending.length + reg.remaining seen ≤ limit) :
    ∃ turns ≤ pending.length + reg.remaining seen,
      reg.Search interface seen pending turns
        (reg.searchInterface interface limit seen pending) := by
  fun_induction searchInterface reg interface limit seen pending with
  | case1 seen pending =>
      obtain rfl : pending = [] := List.length_eq_zero_iff.mp (by omega)
      exact ⟨0, Nat.zero_le _, .exhausted⟩
  | case2 limit seen => exact ⟨0, Nat.zero_le _, .exhausted⟩
  | case3 limit seen type pending hseen ih =>
      rw [List.length_cons] at hlimit ⊢
      obtain ⟨turns, hturns, hsearch⟩ := ih (by omega)
      exact ⟨turns + 1, by omega, .again hseen hsearch⟩
  | case4 limit seen type pending hnew hnone ih =>
      rw [List.length_cons] at hlimit ⊢
      have hle := remaining_cons_le reg type seen
      obtain ⟨turns, hturns, hsearch⟩ := ih (by omega)
      exact ⟨turns + 1, by omega, .unpublished hnew hnone hsearch⟩
  | case5 limit seen type pending hnew info hinfo hdeclared =>
      rw [List.length_cons] at hlimit ⊢
      exact ⟨1, by omega, .declared hnew hinfo hdeclared⟩
  | case6 limit seen type pending hnew info hinfo hundeclared ih =>
      -- A type that is looked at for the first time pays for the entries that it adds.
      rw [List.length_cons] at hlimit ⊢
      have hle := remaining_cons_of_get hinfo hnew
      have hmore : (info.base.toList ++ info.interfaces.reverse ++ pending).length ≤
          1 + info.interfaces.length + pending.length := by
        have hbase : info.base.toList.length ≤ 1 := by cases info.base <;> simp
        simp only [List.length_append, List.length_reverse]
        omega
      obtain ⟨turns, hturns, hsearch⟩ := ih (by omega)
      exact ⟨turns + 1, by omega, .above hnew hinfo hundeclared hsearch⟩

/-- The search that `implements` makes ends within the limit that it is given. -/
theorem search_implements (reg : Registry) (type interface : TypeHandle) :
    ∃ turns ≤ reg.searchLimit, reg.Search interface [] [type] turns
      (reg.implements type interface) := by
  have hlimit : [type].length + reg.remaining [] ≤ reg.searchLimit := by
    rw [searchLimit_eq, List.length_singleton]
    omega
  obtain ⟨turns, hturns, hsearch⟩ : ∃ turns ≤ [type].length + reg.remaining [],
      reg.Search interface [] [type] turns (reg.implements type interface) := exists_search hlimit
  exact ⟨turns, Nat.le_trans hturns hlimit, hsearch⟩

/-- The search for an interface ends on every graph of types, whether or not declarations lead in
circles, and it decides reachability: a type implements an interface exactly when some published
type that can be reached from it, along bases and declared interfaces, declares the interface. -/
theorem implements_decides_reachability (reg : Registry) (type interface : TypeHandle) :
    (∃ turns ≤ reg.searchLimit,
      reg.Search interface [] [type] turns (reg.implements type interface)) ∧
    (∀ turns answer, reg.Search interface [] [type] turns answer →
      turns ≤ reg.searchLimit ∧ answer = reg.implements type interface) ∧
    (reg.implements type interface = true ↔
      ∃ last, reg.Reaches type last ∧ reg.Declares last interface) := by
  obtain ⟨turns, hturns, hsearch⟩ := search_implements reg type interface
  refine ⟨⟨turns, hturns, hsearch⟩, fun turns' answer hother => ?_, implements_iff⟩
  obtain ⟨rfl, rfl⟩ := hsearch.unique hother
  exact ⟨hturns, rfl⟩

end Introspect.Registry
