import Introspect.Proofs.Accessor.Forms
import Introspect.Proofs.Resolver.Listing

/-!
# `Introspect.Proofs.Resolver.OwnAccessor`: the accessor that a property names

A property descriptor names its getter and its setter. A request that is answered through a
descriptor looks for the named method along the whole chain of types, and it takes the first method
that has the name (`findAccessor_method`). With `Flags.ignoreCase` a method may have the name in
another spelling, and the search, other than the choice of the descriptor, does not prefer the one
that is spelled as the descriptor says.

`own_accessor_named_iff` says when the method is the named one. It is so exactly if every method in
another spelling stands behind one in the very spelling, and always if the case of names counts.
`getter_of_other_property` shows a property that is read through the getter of another one.
-/

set_option autoImplicit false

namespace Introspect.Resolver

variable {reg : Registry} {type : TypeHandle} {name : String} {flags : Flags}
  {direction : Direction} {chain : List TypeInfo} {found : Resolution}

/-! ### The first method of a name -/

/-- The first entry of a list that passes a test is found at its position. -/
theorem head?_positions {α : Type} (p : α → Bool) (items : List α) :
    (positions p items).head?.map (·.2) = items.find? p := by
  conv_rhs => rw [← List.zipIdx_map_fst 0 items, List.find?_map]
  simp [positions, List.head?_filter, Function.comp_def]

/-- The accessor of a name is the first method along the chain that matches. -/
theorem findAccessor_method (chain : List TypeInfo) (name : String) (flags : Flags) :
    (findAccessor chain name flags).map (·.2) =
      (chain.flatMap TypeInfo.methods).find? (accessorMatches name flags) := by
  induction chain with
  | nil => rfl
  | cons info rest ih =>
      have hhead := head?_positions (accessorMatches name flags) info.methods
      rw [List.flatMap_cons, List.find?_append, ← hhead, ← ih, findAccessor, List.findSome?_cons]
      cases (positions (accessorMatches name flags) info.methods).head? with
      | none => rfl
      | some first => rfl

/-- A method of the very name answers to it, whether or not case counts. -/
theorem accessorMatches_self {method : MethodInfo} (harity : method.arity = 0)
    (hbinding : flags.matchesBinding method.visibility method.isStatic = true) :
    accessorMatches method.name flags method = true := by
  simp [accessorMatches, harity, hbinding, namesEqual, asciiEqual]

/-- When case counts, a method that answers to a name has that name. -/
theorem name_of_accessorMatches (hcase : flags.contains Flags.ignoreCase = false)
    {method : MethodInfo} (h : accessorMatches name flags method = true) : method.name = name := by
  simp only [accessorMatches, namesEqual, hcase, Bool.and_eq_true] at h
  simpa using h.1.2

/-- Along a chain, each method that answers to a name in another spelling stands behind one that has
the name itself. -/
def SpelledFirst (chain : List TypeInfo) (flags : Flags) (name : String) : Prop :=
  ∀ ahead method behind, chain.flatMap TypeInfo.methods = ahead ++ method :: behind →
    accessorMatches name flags method = true → method.name ≠ name →
      ∃ earlier ∈ ahead, accessorMatches name flags earlier = true ∧ earlier.name = name

/-- The first method that answers to a name has that name exactly if no other spelling comes
first. -/
theorem named_iff_spelledFirst {accessor : MethodRef × MethodInfo}
    (h : findAccessor chain name flags = some accessor) :
    accessor.2.name = name ↔ SpelledFirst chain flags name := by
  have hfirst := findAccessor_method chain name flags
  rw [h, Option.map_some, eq_comm, List.find?_eq_some_iff_append] at hfirst
  obtain ⟨hmatches, before, after, hsplit, hbefore⟩ := hfirst
  constructor
  · intro hnamed ahead method behind hother hmethod hspelled
    -- Nothing matches in front of the first match, so the other one stands behind it.
    rw [hsplit] at hother
    rcases List.append_eq_append_iff.mp hother with ⟨between, rfl, hback⟩ | ⟨between, hahead, hback⟩
    · cases between with
      | nil =>
          obtain ⟨rfl, -⟩ := List.cons.inj hback
          exact absurd hnamed hspelled
      | cons first rest =>
          obtain ⟨rfl, -⟩ := List.cons.inj hback
          exact ⟨accessor.2, by simp, hmatches, hnamed⟩
    · cases between with
      | nil =>
          obtain ⟨rfl, -⟩ := List.cons.inj hback
          exact absurd hnamed hspelled
      | cons first rest =>
          obtain ⟨rfl, -⟩ := List.cons.inj hback
          have hnot := hbefore method (by simp [hahead])
          simp [hmethod] at hnot
  · intro hspelled
    by_contra hother
    obtain ⟨earlier, hearlier, hmatch, -⟩ := hspelled before accessor.2 after hsplit hmatches hother
    have hnot := hbefore earlier hearlier
    simp [hmatch] at hnot

/-! ### The accessor of a property -/

/-- The property descriptor through which a request was answered. -/
def propertyAt (reg : Registry) (found : Resolution) : Option PropertyInfo :=
  (descriptor? found).bind fun place =>
    (reg.get place.1).bind fun info => info.properties[place.2]?

/-- The method that a property is read or written through. -/
def accessorAt (reg : Registry) (found : Resolution) : Option MethodInfo :=
  match found.member with
  | .property _ _ accessor => reg.methodAt accessor
  | _ => none

/-- What was found by name is the method at its place. -/
theorem methodAt_of_findAccessor (hkeyed : reg.Keyed)
    (hchain : reg.typeChain type flags = .ok chain)
    {wanted : Flags} {accessor : MethodRef × MethodInfo}
    (h : findAccessor chain name wanted = some accessor) :
    reg.methodAt accessor.1 = some accessor.2 := by
  obtain ⟨info, hinfo, hdeclaring, hmethod, -⟩ := exists_of_findAccessor h
  rw [Registry.methodAt, hdeclaring, Registry.get_of_typeChain hkeyed hchain hinfo]
  exact hmethod

/-- A request that is answered through a descriptor gets the accessor that this descriptor leads
to. -/
theorem answered_of_descriptor (hkeyed : reg.Keyed) (hchain : reg.typeChain type flags = .ok chain)
    (h : resolve reg (.property type name direction flags) = .ok found) {property : PropertyInfo}
    (hproperty : propertyAt reg found = some property) :
    ∃ accessor, accessorOf chain flags direction property = some accessor ∧
      accessorAt reg found = some accessor.2 := by
  obtain ⟨chain', hchain', hsearch⟩ := resolve_property_eq_ok h
  obtain rfl : chain = chain' := by simpa [hchain] using hchain'
  cases hsearch with
  | bare _ hbare => simp [propertyAt, hbare] at hproperty
  | @declared front back info hsplit _ hanswer =>
      have hinfo : info ∈ chain := by simp [hsplit]
      obtain ⟨chosen, accessor, hchosen, haccessor, hmember⟩ := answered_of_propertyOn hanswer
      have hplace := (mem_positions_iff.mp (mem_of_pick hchosen)).1
      have hdescriptor : descriptor? found = some (info.handle, chosen.1) := by
        rw [descriptor?, hmember]
      obtain rfl : chosen.2 = property := by
        simpa [propertyAt, hdescriptor, Registry.get_of_typeChain hkeyed hchain hinfo, hplace]
          using hproperty
      refine ⟨accessor, haccessor, ?_⟩
      obtain ⟨wanted, hfound⟩ := findAccessor_of_accessorOf haccessor
      rw [accessorAt, hmember]
      exact methodAt_of_findAccessor hkeyed hchain hfound

/-- A property that names an accessor which is there leads to the first method that answers to the
name. -/
theorem accessorOf_own {property : PropertyInfo} {own : String}
    (hown : ownAccessor property direction = some own)
    (hthere : ∃ info ∈ chain, ∃ method ∈ info.methods, method.name = own ∧ method.arity = 0 ∧
      flags.matchesBinding method.visibility method.isStatic = true) :
    ∃ accessor, findAccessor chain own flags = some accessor ∧
      accessorOf chain flags direction property = some accessor := by
  obtain ⟨info, hinfo, method, hmethod, rfl, harity, hbinding⟩ := hthere
  have hfind : ((chain.flatMap TypeInfo.methods).find?
      (accessorMatches method.name flags)).isSome = true :=
    List.find?_isSome.mpr ⟨method, List.mem_flatMap.mpr ⟨info, hinfo, hmethod⟩,
      accessorMatches_self harity hbinding⟩
  rw [← findAccessor_method, Option.isSome_map] at hfind
  obtain ⟨accessor, haccessor⟩ := Option.isSome_iff_exists.mp hfind
  refine ⟨accessor, haccessor, ?_⟩
  rw [accessorOf, hown, Option.bind_some, haccessor, Option.some_or]

/-- A property that names an accessor which can be found under its very name is read or written
through a method of that name exactly if no method in another spelling comes first along the chain.
When case counts, it always is. -/
theorem own_accessor_named_iff (hkeyed : reg.Keyed)
    (hchain : reg.typeChain type flags = .ok chain)
    (h : resolve reg (.property type name direction flags) = .ok found) {property : PropertyInfo}
    (hproperty : propertyAt reg found = some property) {own : String}
    (hown : ownAccessor property direction = some own)
    (hthere : ∃ info ∈ chain, ∃ method ∈ info.methods, method.name = own ∧ method.arity = 0 ∧
      flags.matchesBinding method.visibility method.isStatic = true) :
    ∃ accessor, accessorAt reg found = some accessor ∧
      (accessor.name = own ↔ SpelledFirst chain flags own) ∧
      (flags.contains Flags.ignoreCase = false → accessor.name = own) := by
  obtain ⟨accessor, hfound, hleads⟩ := accessorOf_own hown hthere
  obtain ⟨other, hother, hat⟩ := answered_of_descriptor hkeyed hchain h hproperty
  obtain rfl : accessor = other := Option.some.inj (hleads.symm.trans hother)
  refine ⟨accessor.2, hat, named_iff_spelledFirst hfound, ?_⟩
  intro hcase
  obtain ⟨-, -, -, -, hmatches⟩ := exists_of_findAccessor hfound
  exact name_of_accessorMatches hcase hmatches

/-- On an account, the property is written through the method that it names. -/
theorem own_accessor_named_iff_account :
    account.2.Keyed ∧ ∃ chain found property accessor,
      account.2.typeChain account.1 Flags.standard = .ok chain ∧
      resolve account.2 (.property account.1 "Owner" .write Flags.standard) = .ok found ∧
      propertyAt account.2 found = some property ∧
      ownAccessor property .write = some "set_Owner" ∧
      (∃ info ∈ chain, ∃ method ∈ info.methods, method.name = "set_Owner" ∧ method.arity = 0 ∧
        Flags.standard.matchesBinding method.visibility method.isStatic = true) ∧
      accessorAt account.2 found = some accessor ∧ accessor.name = "set_Owner" := by
  have hkeyed : account.2.Keyed := Registry.keyed_declare Registry.keyed_initial _ _
  obtain ⟨chain, found, property, hchain, hfound, hproperty, hown, hthere⟩ :
      ∃ chain found property, account.2.typeChain account.1 Flags.standard = .ok chain ∧
        resolve account.2 (.property account.1 "Owner" .write Flags.standard) = .ok found ∧
        propertyAt account.2 found = some property ∧
        ownAccessor property .write = some "set_Owner" ∧
        ∃ info ∈ chain, ∃ method ∈ info.methods, method.name = "set_Owner" ∧ method.arity = 0 ∧
          Flags.standard.matchesBinding method.visibility method.isStatic = true :=
    ⟨_, _, _, rfl, rfl, rfl, rfl, _, List.mem_cons_self, _, .tail _ (.head _), rfl, rfl, rfl⟩
  obtain ⟨accessor, hat, -, hnamed⟩ :=
    own_accessor_named_iff hkeyed hchain hfound hproperty hown hthere
  exact ⟨hkeyed, chain, found, property, accessor, hchain, hfound, hproperty, hown, hthere, hat,
    hnamed (by decide)⟩

/-- Without regard to case, the property `value` is read through `get_Value`, the getter of the
property `Value`, although its own getter `get_value` is there. -/
theorem getter_of_other_property :
    ∃ chain found property accessor,
      Sample.registry.typeChain tangle (Flags.standard ∪ Flags.ignoreCase) = .ok chain ∧
      resolve Sample.registry
        (.property tangle "value" .read (Flags.standard ∪ Flags.ignoreCase)) = .ok found ∧
      propertyAt Sample.registry found = some property ∧
      ownAccessor property .read = some "get_value" ∧
      (∃ info ∈ chain, ∃ method ∈ info.methods, method.name = "get_value" ∧ method.arity = 0 ∧
        (Flags.standard ∪ Flags.ignoreCase).matchesBinding method.visibility method.isStatic =
          true) ∧
      accessorAt Sample.registry found = some accessor ∧ accessor.name = "get_Value" := by
  have hruns : ((Sample.registry.typeChain tangle (Flags.standard ∪ Flags.ignoreCase)).toOption.all
        (·.any (·.methods.any fun m => m.name == "get_value" && m.arity == 0 &&
          (Flags.standard ∪ Flags.ignoreCase).matchesBinding m.visibility m.isStatic))) = true ∧
      (Sample.registry.typeChain tangle
        (Flags.standard ∪ Flags.ignoreCase)).toOption.isSome = true ∧
      ((resolve Sample.registry (.property tangle "value" .read
        (Flags.standard ∪ Flags.ignoreCase))).toOption.bind fun found =>
          (propertyAt Sample.registry found).bind (ownAccessor · .read)) = some "get_value" ∧
      ((resolve Sample.registry (.property tangle "value" .read
        (Flags.standard ∪ Flags.ignoreCase))).toOption.bind fun found =>
          (accessorAt Sample.registry found).map (·.name)) = some "get_Value" := by
    decide +kernel
  obtain ⟨hthere, hchain, hown, hnamed⟩ := hruns
  cases hchains : Sample.registry.typeChain tangle (Flags.standard ∪ Flags.ignoreCase) with
  | error e => simp [hchains, Except.toOption] at hchain
  | ok chain =>
      cases hfound : resolve Sample.registry
          (.property tangle "value" .read (Flags.standard ∪ Flags.ignoreCase)) with
      | error e => simp [hfound, Except.toOption] at hown
      | ok found =>
          simp only [hfound, Except.toOption, Option.bind_some] at hown hnamed
          obtain ⟨property, hproperty, hown⟩ := Option.bind_eq_some_iff.mp hown
          obtain ⟨accessor, haccessor, hname⟩ := Option.map_eq_some_iff.mp hnamed
          refine ⟨chain, found, property, accessor, rfl, rfl, hproperty, hown, ?_, haccessor, hname⟩
          simpa [hchains, Except.toOption, and_assoc] using hthere

end Introspect.Resolver
