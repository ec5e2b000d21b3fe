import Introspect.Proofs.Resolver.Binding
import Introspect.Proofs.Resolver.Listing

/-!
# `Introspect.Proofs.Resolver.Queries`: what a query lists for a request that resolves

A query for one name and a request for it walk the same chain, but they choose in different ways. A
query takes the first member along the chain that matches (`field_eq_ok_iff`, `method_eq_ok_iff`):
hiding changes nothing about that, because what hides a match is an earlier match. A request stops
at the first type with a match. Of several on that type it takes the one that is spelled as
requested, and it passes by methods with another number of type arguments.

`listed_iff_resolved` says exactly when the two agree. The field that is found is listed if no field
before it on its type matches, and the method that is found if no method before it on the chain has
the name and the parameter types, with type arguments or without. When names are compared as they
are, a field is always listed, and so is a method unless one with type arguments stands before it.
`query_lists_total` shows a field that is found and another one that is listed.
-/

set_option autoImplicit false

namespace Introspect

namespace Query

variable {α : Type} {members : TypeInfo → List α} {wanted : α → Bool} {hides : α → α → Bool}
  {declaring : TypeHandle} {found : List (Declared α)} {chain front back : List TypeInfo}
  {info : TypeInfo}

/-! ### The first match along a chain -/

/-- The members along a chain, each with the type that declares it. -/
def along (members : TypeInfo → List α) (chain : List TypeInfo) : List (Declared α) :=
  chain.flatMap fun info => (members info).map (Declared.mk info.handle)

/-- The members in front of a position on a type and on the types before that one. -/
def before (members : TypeInfo → List α) (front : List TypeInfo) (info : TypeInfo) (index : Nat) :
    List α :=
  front.flatMap members ++ (members info).take index

section First

variable {test : α → Bool} (hhides : ∀ a b, hides a b = true → test b = true → test a = true)

include hhides

/-- A member is the first that passes a test if it is wanted and none has passed so far. -/
theorem find?_add (found : List (Declared α)) (member : α) :
    (add wanted hides declaring found member).find? (fun d => test d.member) =
      (found.find? fun d => test d.member).or
        ([⟨declaring, member⟩].find? fun d => wanted d.member && test d.member) := by
  unfold add
  split
  · next hcondition =>
      simp only [Bool.and_eq_true] at hcondition
      simp [List.find?_append, hcondition.1]
  · next hcondition =>
      cases hpasses : wanted member && test member with
      | false => simp [hpasses]
      | true =>
          -- A member that is wanted and left out is hidden by one that passes as well.
          obtain ⟨hwanted, htest⟩ := Bool.and_eq_true_iff.mp hpasses
          obtain ⟨d, hd, hhidden⟩ : ∃ d ∈ found, hides d.member member = true := by
            simpa [hwanted] using hcondition
          have hsome : (found.find? fun d => test d.member).isSome = true :=
            List.find?_isSome.mpr ⟨d, hd, hhides _ _ hhidden htest⟩
          obtain ⟨first, hfirst⟩ := Option.isSome_iff_exists.mp hsome
          simp [hfirst]

/-- The members of a type are looked at in order. -/
theorem find?_foldl_add (found : List (Declared α)) (items : List α) :
    (items.foldl (add wanted hides declaring) found).find? (fun d => test d.member) =
      (found.find? fun d => test d.member).or
        ((items.map (Declared.mk declaring)).find? fun d => wanted d.member && test d.member) := by
  induction items generalizing found with
  | nil => simp
  | cons item rest ih =>
      rw [List.foldl_cons, ih, find?_add hhides, Option.or_assoc, ← List.find?_append]
      rfl

/-- The first listed member that passes a test is the first wanted one along the chain that does,
when members that pass are hidden by members that pass only. -/
theorem find?_collect_eq (found : List (Declared α)) (chain : List TypeInfo) :
    (collect members wanted hides chain found).find? (fun d => test d.member) =
      (found.find? fun d => test d.member).or
        ((along members chain).find? fun d => wanted d.member && test d.member) := by
  induction chain generalizing found with
  | nil => simp [collect, along]
  | cons info rest ih =>
      have hrest := ih ((members info).foldl (add wanted hides info.handle) found)
      rw [find?_foldl_add hhides, Option.or_assoc, ← List.find?_append] at hrest
      exact hrest

end First

/-- What is in front of a position is declared along the chain. -/
theorem exists_of_mem_before {index : Nat} {item : α} (back : List TypeInfo)
    (h : item ∈ before members front info index) :
    ∃ other ∈ front ++ info :: back, item ∈ members other := by
  rcases List.mem_append.mp h with hfront | htype
  · obtain ⟨other, hother, hmem⟩ := List.mem_flatMap.mp hfront
    exact ⟨other, List.mem_append_left _ hother, hmem⟩
  · exact ⟨info, by simp, List.mem_of_mem_take htype⟩

/-- A place on a chain splits the members along the chain. -/
theorem along_split (front back : List TypeInfo) {index : Nat} {item : α}
    (hitem : (members info)[index]? = some item) :
    ∃ ahead behind, along members (front ++ info :: back) = ahead ++ ⟨info.handle, item⟩ :: behind ∧
      ahead.map (·.member) = before members front info index := by
  obtain ⟨hindex, hget⟩ := List.getElem?_eq_some_iff.mp hitem
  have hsplit : members info =
      (members info).take index ++ item :: (members info).drop (index + 1) := by
    rw [← hget, ← List.drop_eq_getElem_cons hindex, List.take_append_drop]
  refine ⟨along members front ++ ((members info).take index).map (Declared.mk info.handle),
    ((members info).drop (index + 1)).map (Declared.mk info.handle) ++ along members back, ?_, ?_⟩
  · have hinfo := congrArg (List.map (Declared.mk info.handle)) hsplit
    rw [List.map_append, List.map_cons] at hinfo
    simp only [along, List.flatMap_append, List.flatMap_cons, hinfo]
    simp
  · simp [along, before, List.map_flatMap, Function.comp_def]

/-- A matching member is the first match along the chain exactly if none before it matches, when it
differs from the matches before it. -/
theorem find?_along_eq_some_iff {p : α → Bool} {index : Nat} {item : α}
    (hitem : (members info)[index]? = some item) (hmatches : p item = true)
    (hdiffers : ∀ earlier ∈ before members front info index, p earlier = true → earlier ≠ item) :
    (along members (front ++ info :: back)).find? (fun d => p d.member) =
        some ⟨info.handle, item⟩ ↔
      ∀ earlier ∈ before members front info index, p earlier = false := by
  obtain ⟨ahead, behind, halong, hahead⟩ := along_split front back hitem
  rw [halong, ← hahead, List.find?_append]
  rw [← hahead] at hdiffers
  constructor
  · intro h
    cases hfirst : ahead.find? fun d => p d.member with
    | none =>
        intro earlier hearlier
        obtain ⟨d, hd, rfl⟩ := List.mem_map.mp hearlier
        simpa using List.find?_eq_none.mp hfirst d hd
    | some first =>
        obtain rfl : first = ⟨info.handle, item⟩ := by simpa [hfirst] using h
        have hmem := List.mem_map_of_mem (f := Declared.member) (List.mem_of_find?_eq_some hfirst)
        exact absurd rfl (hdiffers item hmem hmatches)
  · intro h
    have hnone : ahead.find? (fun d => p d.member) = none :=
      List.find?_eq_none.mpr fun d hd => by simp [h _ (List.mem_map_of_mem hd)]
    simp [hnone, hmatches]

/-- The first match along a chain is on the first type with a match. -/
theorem exists_find?_along (back : List TypeInfo) {p : α → Bool} {item : α}
    (hfront : ∀ earlier ∈ front.flatMap members, p earlier = false) (hitem : item ∈ members info)
    (hmatches : p item = true) :
    ∃ first, (along members (front ++ info :: back)).find? (fun d => p d.member) =
      some ⟨info.handle, first⟩ := by
  have hnone : (along members front).find? (fun d => p d.member) = none := by
    refine List.find?_eq_none.mpr fun d hd => ?_
    obtain ⟨other, hother, hmem⟩ := List.mem_flatMap.mp hd
    obtain ⟨m, hm, rfl⟩ := List.mem_map.mp hmem
    simp [hfront m (List.mem_flatMap.mpr ⟨other, hother, hm⟩)]
  have hsome : ((members info).find? p).isSome = true :=
    List.find?_isSome.mpr ⟨item, hitem, hmatches⟩
  obtain ⟨first, hfirst⟩ := Option.isSome_iff_exists.mp hsome
  refine ⟨first, ?_⟩
  rw [along, List.flatMap_append, List.find?_append, ← along, hnone, Option.none_or,
    List.flatMap_cons, List.find?_append, List.find?_map, Function.comp_def, hfirst]
  rfl

/-! ### Queries for one name -/

variable {reg : Registry} {type : TypeHandle} {flags : Flags} {name : String}
  {params : List TypeHandle}

/-- Whether a query for a name lists a field. -/
def wantsField (flags : Flags) (name : String) (field : FieldInfo) : Bool :=
  flags.matchesBinding field.visibility field.isStatic &&
    !(skipsBacking flags && field.isBacking) && selects flags [name] field.name

/-- Whether a query for a name and parameter types lists a method. -/
def wantsOverload (flags : Flags) (name : String) (params : List TypeHandle) (method : MethodInfo) :
    Bool :=
  wantsMethod flags name method && method.paramTypes == params

/-- A field query answers with the first field along the chain that it wants. -/
theorem field_eq_ok_iff (hchain : reg.typeChain type flags = .ok chain) {d : Declared FieldInfo} :
    field reg type name flags = .ok d ↔
      (along TypeInfo.fields chain).find? (fun d => wantsField flags name d.member) = some d := by
  have hfirst := @find?_collect_eq _ TypeInfo.fields (wantsField flags name)
    (fun a b => a.name == b.name) (fun _ => true) (fun _ _ _ h => h) [] chain
  simp only [Bool.and_true, List.find?_nil, Option.none_or] at hfirst
  have hlisted : fields reg type flags [name] = .ok
      (collect TypeInfo.fields (wantsField flags name) (fun a b => a.name == b.name) chain []) := by
    simp only [fields, hchain, bind, Except.bind, pure, Except.pure]
    rfl
  rw [← hfirst, field, hlisted]
  cases collect TypeInfo.fields (wantsField flags name) (fun a b => a.name == b.name) chain [] with
  | nil => simp [bind, Except.bind, throw, throwThe, MonadExceptOf.throw]
  | cons first rest => simp [bind, Except.bind, pure, Except.pure]

/-- A method query answers with the first method along the chain that has the parameter types. -/
theorem method_eq_ok_iff (hchain : reg.typeChain type flags = .ok chain)
    {d : Declared MethodInfo} :
    method reg type name params flags = .ok d ↔
      (along TypeInfo.methods chain).find? (fun d => wantsOverload flags name params d.member) =
        some d := by
  have hhides : ∀ a b, hidesMethod a b = true → (b.paramTypes == params) = true →
      (a.paramTypes == params) = true := by
    intro a b h hb
    simp only [hidesMethod, Bool.and_eq_true, beq_iff_eq] at h hb ⊢
    rw [h.2, hb]
  have hfirst := @find?_collect_eq _ TypeInfo.methods (wantsMethod flags name) hidesMethod
    (fun m => m.paramTypes == params) hhides [] chain
  rw [List.find?_nil, Option.none_or] at hfirst
  rw [method, methods_eq_ok_iff.mpr ⟨chain, hchain, rfl⟩]
  simp only [bind, Except.bind, wantsOverload, ← hfirst]
  cases (collect TypeInfo.methods (wantsMethod flags name) hidesMethod chain []).find?
      fun d => d.member.paramTypes == params with
  | none => simp [throw, throwThe, MonadExceptOf.throw]
  | some first => simp [pure, Except.pure]

end Query

namespace Resolver

variable {reg : Registry} {type : TypeHandle} {flags : Flags} {name : String}
  {params : List TypeHandle} {info : TypeInfo} {index : Nat}

/-! ### What else matches on the type of the answer -/

/-- The matches in front of the one that is chosen have other names. -/
theorem name_ne_of_pick {α : Type} {typeName : String} {nameOf : α → String} {p : α → Bool}
    {items : List α} {item earlier : α}
    (h : pick typeName name nameOf (positions p items) = .ok (some (index, item)))
    (hearlier : earlier ∈ items.take index) (hmatches : p earlier = true) :
    nameOf earlier ≠ nameOf item := by
  obtain ⟨k, hk, hget⟩ := List.mem_take_iff_getElem.mp hearlier
  have hmem : (k, earlier) ∈ positions p items :=
    mem_positions_iff.mpr ⟨List.getElem?_eq_some_iff.mpr ⟨by omega, hget⟩, hmatches⟩
  have hother : (k, earlier) ∉ [(index, item)] := by
    intro hsame
    obtain rfl : k = index := congrArg Prod.fst (List.mem_singleton.mp hsame)
    omega
  rcases pick_eq_some h with honly | honly
  · rw [honly] at hmem
    exact absurd hmem hother
  · have hself : (index, item) ∈ [(index, item)] := List.mem_cons_self
    rw [← honly] at hself hother
    have hitem : nameOf item = name := by simpa using (List.mem_filter.mp hself).2
    intro hsame
    exact hother (List.mem_filter.mpr ⟨hmem, by simp [hsame, hitem]⟩)

/-- Without regard to case or parts left out, a name matches itself only. -/
theorem matchesName_iff (hcase : flags.contains Flags.ignoreCase = false)
    (hpartial : flags.contains Flags.partialNameMatch = false) (member : String) :
    flags.matchesName member name = true ↔ member = name := by
  simp [Flags.matchesName, hcase, hpartial, namesEqual]

/-- Unless backing members are left out, a query wants the fields that a request can be answered
with. -/
theorem wantsField_eq (type : TypeHandle)
    (hbacking : flags.contains Flags.excludeBackingMembers = false) (field : FieldInfo) :
    Query.wantsField flags name field = fieldMatches (.field type name .read flags) field := by
  simp [Query.wantsField, Query.skipsBacking, hbacking, Query.selects, fieldMatches,
    Signature.field, Signature.ofKind, Signature.nameText, Bool.and_comm]

/-- Unless backing members are left out, a query wants the methods that a request for exactly these
types can be answered with, and those with type arguments. -/
theorem wantsOverload_iff (type : TypeHandle)
    (hbacking : flags.contains Flags.excludeBackingMembers = false) (method : MethodInfo) :
    (Query.wantsOverload flags name params method = true ∧ method.arity = 0) ↔
      methodMatches (.method type name params flags) method = true ∧
        method.paramTypes = params := by
  simp only [Query.wantsOverload, Query.wantsMethod, Query.skipsBacking, hbacking, Query.selects,
    methodMatches, Signature.method, Signature.ofKind, Signature.nameText, Bool.and_eq_true,
    beq_iff_eq, List.isEmpty_cons, List.any_cons, List.any_nil, Bool.false_or, Bool.or_false,
    Bool.false_and, Bool.not_false, Option.getD_some, List.length_nil, and_true]
  tauto

/-- When types must be equal, a binding is exact, and then the types are equal. -/
theorem bindParams_of_exactBinding (hexact : flags.contains Flags.exactBinding = true)
    (declared : List ParameterInfo) :
    reg.bindParams flags declared params =
      if declared.map (·.type) = params then some true else none := by
  split
  · next hsame =>
      rw [← hsame]
      exact Registry.bindParams_self reg flags declared
  · next hother =>
      cases hbound : reg.bindParams flags declared params with
      | none => rfl
      | some exact =>
          refine absurd ?_ hother
          rw [← List.forall₂_eq_eq_eq, List.forall₂_map_left_iff]
          refine (Registry.forall_accepts_of_bindParams hbound).imp fun param type h => ?_
          rcases h with hsame | ⟨hnot, -⟩
          · exact hsame
          · simp [hexact] at hnot

/-- When types must be equal, the methods of a type to choose from are those with the requested
types. -/
theorem preferExact_accepting (hexact : flags.contains Flags.exactBinding = true)
    (info : TypeInfo) :
    preferExact (accepting reg (.method type name params flags) info) =
      positions (fun m => methodMatches (.method type name params flags) m &&
        m.paramTypes == params) info.methods := by
  have hbindable : ∀ candidates : List (Nat × MethodInfo),
      bindable reg flags params MethodInfo.params candidates =
        (candidates.filter fun candidate => candidate.2.paramTypes == params).map (·, true) := by
    intro candidates
    simp only [bindable, bindParams_of_exactBinding hexact]
    induction candidates with
    | nil => rfl
    | cons candidate rest ih =>
        rw [List.filterMap_cons, ih]
        by_cases hsame : candidate.2.params.map (·.type) = params
        · simp [hsame, MethodInfo.paramTypes]
        · simp [hsame, MethodInfo.paramTypes]
  have hprefer : ∀ candidates : List (Nat × MethodInfo),
      preferExact (candidates.map (·, true)) = candidates := by
    intro candidates
    have hfilter : (candidates.map (·, true)).filter (·.2) = candidates.map (·, true) := by simp
    unfold preferExact
    rw [hfilter]
    split
    · simp_all
    · simp [Function.comp_def]
  have hsplit : positions (fun m => methodMatches (.method type name params flags) m &&
      m.paramTypes == params) info.methods =
        (positions (methodMatches (.method type name params flags)) info.methods).filter
          fun candidate => candidate.2.paramTypes == params := positions_and _ _ _
  rw [hsplit, ← hprefer (List.filter _ _), ← hbindable]
  rfl

/-! ### Agreement -/

/-- The place on a chain where a field request is answered: no field of the types before it matches,
and those before it on its type have other names. -/
theorem field_place {found : Resolution}
    (hbacking : flags.contains Flags.excludeBackingMembers = false)
    (h : resolve reg (.field type name .read flags) = .ok found) :
    ∃ front info back index field, reg.typeChain type flags = .ok (front ++ info :: back) ∧
      found.member = .field info.handle index ∧ info.fields[index]? = some field ∧
      Query.wantsField flags name field = true ∧
      (∀ earlier ∈ front.flatMap TypeInfo.fields, Query.wantsField flags name earlier = false) ∧
      ∀ earlier ∈ info.fields.take index, Query.wantsField flags name earlier = true →
        earlier.name ≠ field.name := by
  obtain ⟨chain, hchain, hfirst⟩ := resolve_field_eq_ok_iff.mp h
  obtain ⟨front, info, back, rfl, hfront, hinfo⟩ := firstOn_eq_some_iff.mp hfirst
  obtain ⟨⟨index, field⟩, hchosen, rfl⟩ := fieldOn_eq_some.mp hinfo
  obtain ⟨hfield, hmatches⟩ := mem_positions_iff.mp (mem_of_pick hchosen)
  simp only [wantsField_eq type hbacking]
  refine ⟨front, info, back, index, field, hchain, rfl, hfield, hmatches, ?_, ?_⟩
  · intro earlier hearlier
    obtain ⟨other, hother, hmem⟩ := List.mem_flatMap.mp hearlier
    obtain ⟨k, hk⟩ := List.mem_iff_getElem?.mp hmem
    have hnone := pick_eq_none_iff.mp (fieldOn_eq_none.mp (hfront other hother))
    by_contra hyes
    have hposition := mem_positions_iff.mpr ⟨hk, by simpa using hyes⟩
    rw [hnone] at hposition
    cases hposition
  · exact fun earlier hearlier hyes => name_ne_of_pick hchosen hearlier hyes

/-- The place on a chain where a request for exactly the parameter types of a method is answered: no
method before it of the name and types is without type arguments, unless it has another name. -/
theorem method_place {found : Resolution}
    (hbacking : flags.contains Flags.excludeBackingMembers = false)
    (hexact : flags.contains Flags.exactBinding = true)
    (h : resolve reg (.method type name params flags) = .ok found) :
    ∃ front info back index method, reg.typeChain type flags = .ok (front ++ info :: back) ∧
      found.member = .method ⟨info.handle, index⟩ ∧ info.methods[index]? = some method ∧
      Query.wantsOverload flags name params method = true ∧ method.arity = 0 ∧
      ∀ earlier ∈ Query.before TypeInfo.methods front info index,
        Query.wantsOverload flags name params earlier = true → earlier.arity = 0 →
          earlier.name ≠ method.name := by
  obtain ⟨chain, front, info, back, index, method, hchain, rfl, hfront, hchosen, rfl⟩ :=
    (resolve_method_eq_ok_iff rfl).mp h
  have hmatches : ∀ m : MethodInfo, (methodMatches (.method type name params flags) m &&
      m.paramTypes == params) = true ↔
        Query.wantsOverload flags name params m = true ∧ m.arity = 0 := by
    intro m
    rw [wantsOverload_iff type hbacking, Bool.and_eq_true, beq_iff_eq]
  rw [chosenMethod, preferExact_accepting hexact] at hchosen
  obtain ⟨hmethod, hyes⟩ := mem_positions_iff.mp (mem_of_pick hchosen)
  obtain ⟨hwanted, harity⟩ := (hmatches method).mp hyes
  refine ⟨front, info, back, index, method, hchain, rfl, hmethod, hwanted, harity, ?_⟩
  intro earlier hearlier hyes harity
  have hmatches' := (hmatches earlier).mpr ⟨hyes, harity⟩
  rcases List.mem_append.mp hearlier with hahead | hahead
  · obtain ⟨other, hother, hmem⟩ := List.mem_flatMap.mp hahead
    obtain ⟨k, hk⟩ := List.mem_iff_getElem?.mp hmem
    have hnone := preferExact_eq_nil_iff.mpr (hfront other hother)
    rw [preferExact_accepting hexact] at hnone
    have hposition : (k, earlier) ∈ [] := by
      rw [← hnone]
      exact mem_positions_iff.mpr ⟨hk, hmatches'⟩
    cases hposition
  · exact name_ne_of_pick hchosen hahead hmatches'

/-- The field at the place of the answer is listed exactly if no field before it on its type
matches. -/
theorem listed_field_iff {front back : List TypeInfo} {field : FieldInfo}
    (hchain : reg.typeChain type flags = .ok (front ++ info :: back))
    (hfield : info.fields[index]? = some field)
    (hwanted : Query.wantsField flags name field = true)
    (hfront : ∀ earlier ∈ front.flatMap TypeInfo.fields,
      Query.wantsField flags name earlier = false)
    (hnames : ∀ earlier ∈ info.fields.take index, Query.wantsField flags name earlier = true →
      earlier.name ≠ field.name) :
    Query.field reg type name flags = .ok ⟨info.handle, field⟩ ↔
      ∀ earlier ∈ info.fields.take index, Query.wantsField flags name earlier = false := by
  have hdiffers : ∀ earlier ∈ Query.before TypeInfo.fields front info index,
      Query.wantsField flags name earlier = true → earlier ≠ field := by
    intro earlier hearlier hyes hsame
    rcases List.mem_append.mp hearlier with hahead | hahead
    · simp [hfront earlier hahead] at hyes
    · exact hnames earlier hahead hyes (by rw [hsame])
  rw [Query.field_eq_ok_iff hchain, Query.find?_along_eq_some_iff hfield hwanted hdiffers,
    Query.before, List.forall_mem_append, and_iff_right hfront]

/-- The method at the place of the answer is listed exactly if no method before it on the chain
matches. -/
theorem listed_method_iff {front back : List TypeInfo} {method : MethodInfo}
    (hchain : reg.typeChain type flags = .ok (front ++ info :: back))
    (hmethod : info.methods[index]? = some method)
    (hwanted : Query.wantsOverload flags name params method = true) (harity : method.arity = 0)
    (hnames : ∀ earlier ∈ Query.before TypeInfo.methods front info index,
      Query.wantsOverload flags name params earlier = true → earlier.arity = 0 →
        earlier.name ≠ method.name) :
    Query.method reg type name params flags = .ok ⟨info.handle, method⟩ ↔
      ∀ earlier ∈ Query.before TypeInfo.methods front info index,
        Query.wantsOverload flags name params earlier = false := by
  have hdiffers : ∀ earlier ∈ Query.before TypeInfo.methods front info index,
      Query.wantsOverload flags name params earlier = true → earlier ≠ method := by
    rintro earlier hearlier hyes rfl
    exact hnames earlier hearlier hyes harity rfl
  rw [Query.method_eq_ok_iff hchain, Query.find?_along_eq_some_iff hmethod hwanted hdiffers]

/-- When names are compared as they are, a field that a query wants has the name. -/
theorem name_of_wantsField (hcase : flags.contains Flags.ignoreCase = false)
    (hpartial : flags.contains Flags.partialNameMatch = false) {field : FieldInfo}
    (h : Query.wantsField flags name field = true) : field.name = name := by
  simp only [Query.wantsField, Query.selects, Bool.and_eq_true] at h
  exact (matchesName_iff hcase hpartial field.name).mp (by simpa using h.2)

/-- When names are compared as they are, a method that a query wants has the name, and the
parameter types. -/
theorem name_of_wantsOverload (hcase : flags.contains Flags.ignoreCase = false)
    (hpartial : flags.contains Flags.partialNameMatch = false) {method : MethodInfo}
    (h : Query.wantsOverload flags name params method = true) :
    method.name = name ∧ method.paramTypes = params := by
  simp only [Query.wantsOverload, Query.wantsMethod, Query.selects, Bool.and_eq_true,
    beq_iff_eq] at h
  exact ⟨(matchesName_iff hcase hpartial method.name).mp (by simpa using h.1.2), h.2⟩

/-- A field that a request finds is the one that a query for its name answers with exactly if no
field before it on its type matches. So it is when names are compared as they are. A method without
type arguments that a request for exactly its parameter types finds is the one that a query answers
with exactly if no method before it on the chain matches, with or without type arguments. So it is
when names are compared as they are and no method of the name and types before it takes type
arguments. The query has an answer in any case. -/
theorem listed_iff_resolved (reg : Registry) (type : TypeHandle) (name : String) (flags : Flags)
    (hbacking : flags.contains Flags.excludeBackingMembers = false) :
    (∀ found, resolve reg (.field type name .read flags) = .ok found →
      ∃ chain front info back index field, reg.typeChain type flags = .ok chain ∧
        chain = front ++ info :: back ∧ found.member = .field info.handle index ∧
        info.fields[index]? = some field ∧
        (∃ first, Query.field reg type name flags = .ok ⟨info.handle, first⟩) ∧
        (Query.field reg type name flags = .ok ⟨info.handle, field⟩ ↔
          ∀ earlier ∈ info.fields.take index, Query.wantsField flags name earlier = false) ∧
        (flags.contains Flags.ignoreCase = false → flags.contains Flags.partialNameMatch = false →
          Query.field reg type name flags = .ok ⟨info.handle, field⟩)) ∧
    ∀ params found, flags.contains Flags.exactBinding = true →
      resolve reg (.method type name params flags) = .ok found →
      ∃ chain front info back index method, reg.typeChain type flags = .ok chain ∧
        chain = front ++ info :: back ∧ found.member = .method ⟨info.handle, index⟩ ∧
        info.methods[index]? = some method ∧
        (∃ first, Query.method reg type name params flags = .ok first) ∧
        (Query.method reg type name params flags = .ok ⟨info.handle, method⟩ ↔
          ∀ earlier ∈ Query.before TypeInfo.methods front info index,
            Query.wantsOverload flags name params earlier = false) ∧
        (flags.contains Flags.ignoreCase = false → flags.contains Flags.partialNameMatch = false →
          (∀ earlier ∈ Query.before TypeInfo.methods front info index, earlier.name = name →
            earlier.paramTypes = params → earlier.arity = 0) →
          Query.method reg type name params flags = .ok ⟨info.handle, method⟩) := by
  constructor
  · intro found h
    obtain ⟨front, info, back, index, field, hchain, hmember, hfield, hwanted, hfront, hnames⟩ :=
      field_place hbacking h
    have hlisted := listed_field_iff hchain hfield hwanted hfront hnames
    refine ⟨_, front, info, back, index, field, hchain, rfl, hmember, hfield, ?_, hlisted, ?_⟩
    · obtain ⟨first, hfirst⟩ := Query.exists_find?_along back hfront
        (List.mem_of_getElem? hfield) hwanted
      exact ⟨first, (Query.field_eq_ok_iff hchain).mpr hfirst⟩
    · intro hcase hpartial
      refine hlisted.mpr fun earlier hearlier => Bool.eq_false_iff.mpr fun hyes => ?_
      refine hnames earlier hearlier hyes ?_
      rw [name_of_wantsField hcase hpartial hyes, name_of_wantsField hcase hpartial hwanted]
  · intro params found hexact h
    obtain ⟨front, info, back, index, method, hchain, hmember, hmethod, hwanted, harity, hnames⟩ :=
      method_place hbacking hexact h
    have hlisted := listed_method_iff hchain hmethod hwanted harity hnames
    refine ⟨_, front, info, back, index, method, hchain, rfl, hmember, hmethod, ?_, hlisted, ?_⟩
    · obtain ⟨ahead, behind, halong, -⟩ :=
        Query.along_split front back hmethod
      have hsome : ((Query.along TypeInfo.methods (front ++ info :: back)).find?
          fun d => Query.wantsOverload flags name params d.member).isSome = true :=
        List.find?_isSome.mpr ⟨⟨info.handle, method⟩, by simp [halong], hwanted⟩
      obtain ⟨first, hfirst⟩ := Option.isSome_iff_exists.mp hsome
      exact ⟨first, (Query.method_eq_ok_iff hchain).mpr hfirst⟩
    · intro hcase hpartial hplain
      refine hlisted.mpr fun earlier hearlier => Bool.eq_false_iff.mpr fun hyes => ?_
      obtain ⟨hname, htypes⟩ := name_of_wantsOverload hcase hpartial hyes
      refine hnames earlier hearlier hyes (hplain earlier hearlier hname htypes) ?_
      rw [hname, (name_of_wantsOverload hcase hpartial hwanted).1]

/-- A type with a field `Total` and a method `Sum`. -/
def book : TypeHandle × Registry :=
  Registry.initial.declare (.described "Book") <|
    ((Blueprint.reference "Book").withField
      (.ofSlot "Book" "Total" "total" .int32 .int32)).withMethod
        (.reading "Book" "Sum" [.byValue "upTo" .int32] .int32 (pure .null))

/-- A type derived from that one, with a field and a method that are told apart by a letter and by a
parameter type. -/
def ledger : TypeHandle × Registry :=
  book.2.declare (.described "Ledger") <|
    (((Blueprint.reference "Ledger").extending "Ledger" book.1).withField
      (.ofSlot "Ledger" "total" "count" .int64 .int64)).withMethod
        (.reading "Ledger" "Sum" [.byValue "upTo" .int64] .int64 (pure .null))

/-- On the derived type, the field and the method of the base are found and listed. -/
theorem listed_iff_resolved_ledger :
    (Flags.standard ∪ Flags.exactBinding).contains Flags.excludeBackingMembers = false ∧
      (∃ found field,
        resolve ledger.2 (.field ledger.1 "Total" .read (Flags.standard ∪ Flags.exactBinding)) =
          .ok found ∧
        found.member = .field book.1 0 ∧
        Query.field ledger.2 ledger.1 "Total" (Flags.standard ∪ Flags.exactBinding) =
          .ok ⟨book.1, field⟩) ∧
      ∃ found method,
        resolve ledger.2 (.method ledger.1 "Sum" [.int32]
          (Flags.standard ∪ Flags.exactBinding)) = .ok found ∧
        found.member = .method ⟨book.1, 0⟩ ∧
        Query.method ledger.2 ledger.1 "Sum" [.int32] (Flags.standard ∪ Flags.exactBinding) =
          .ok ⟨book.1, method⟩ := by
  have hbacking : (Flags.standard ∪ Flags.exactBinding).contains Flags.excludeBackingMembers =
      false := by decide
  refine ⟨hbacking, ?field, ?method⟩
  case field =>
    obtain ⟨found, hfound, hmember⟩ : ∃ found,
        resolve ledger.2 (.field ledger.1 "Total" .read (Flags.standard ∪ Flags.exactBinding)) =
          .ok found ∧ found.member = .field book.1 0 := ⟨_, rfl, rfl⟩
    obtain ⟨-, -, info, -, index, field, -, -, hplace, -, -, -, hplain⟩ :=
      (listed_iff_resolved ledger.2 ledger.1 "Total" _ hbacking).1 found hfound
    obtain ⟨hhandle, -⟩ : info.handle = book.1 ∧ index = 0 := by
      simpa [hmember, eq_comm] using hplace
    exact ⟨found, field, hfound, hmember, hhandle ▸ hplain (by decide) (by decide)⟩
  case method =>
    obtain ⟨found, hfound, hmember⟩ : ∃ found,
        resolve ledger.2 (.method ledger.1 "Sum" [.int32] (Flags.standard ∪ Flags.exactBinding)) =
          .ok found ∧ found.member = .method ⟨book.1, 0⟩ := ⟨_, rfl, rfl⟩
    obtain ⟨chain, front, info, back, index, method, hchain, hsplit, hplace, -, -, -, hplain⟩ :=
      (listed_iff_resolved ledger.2 ledger.1 "Sum" _ hbacking).2 [.int32] found (by decide) hfound
    obtain ⟨hhandle, -⟩ : info.handle = book.1 ∧ index = 0 := by
      simpa [hmember, eq_comm] using hplace
    refine ⟨found, method, hfound, hmember, hhandle ▸ hplain (by decide) (by decide) ?_⟩
    -- No method along this chain takes type arguments.
    have hplain : ∀ other ∈ chain, ∀ m ∈ other.methods, m.arity = 0 := by
      have hall : (ledger.2.typeChain ledger.1 (Flags.standard ∪ Flags.exactBinding)).toOption.all
          (·.all (·.methods.all (·.arity == 0))) = true := by decide +kernel
      simpa [hchain, Except.toOption] using hall
    intro earlier hearlier _ _
    obtain ⟨other, hother, hmem⟩ := Query.exists_of_mem_before back hearlier
    exact hplain other (hsplit ▸ hother) earlier hmem

/-- Without regard to case, a request for the field `Total` finds the field that is spelled so, and
a query for the same name lists the field `total` in front of it. -/
theorem query_lists_total :
    (Flags.standard ∪ Flags.ignoreCase).contains Flags.excludeBackingMembers = false ∧
      ∃ found listed,
        resolve Sample.registry
          (.field tangle "Total" .read (Flags.standard ∪ Flags.ignoreCase)) = .ok found ∧
        Query.field Sample.registry tangle "Total" (Flags.standard ∪ Flags.ignoreCase) =
          .ok listed ∧
        (fieldAt Sample.registry found.member).map (·.name) = some "Total" ∧
        listed.member.name = "total" ∧
        fieldAt Sample.registry found.member ≠ some listed.member := by
  have hboth : ((resolve Sample.registry
        (.field tangle "Total" .read (Flags.standard ∪ Flags.ignoreCase))).toOption.bind
          fun found => (fieldAt Sample.registry found.member).map (·.name)) = some "Total" ∧
      (Query.field Sample.registry tangle "Total"
        (Flags.standard ∪ Flags.ignoreCase)).toOption.map (·.member.name) = some "total" := by
    decide +kernel
  obtain ⟨hfound, hlisted⟩ := hboth
  refine ⟨by decide, ?_⟩
  cases hresolve : resolve Sample.registry
      (.field tangle "Total" .read (Flags.standard ∪ Flags.ignoreCase)) with
  | error e => simp [hresolve, Except.toOption] at hfound
  | ok found =>
      cases hquery : Query.field Sample.registry tangle "Total"
          (Flags.standard ∪ Flags.ignoreCase) with
      | error e => simp [hquery, Except.toOption] at hlisted
      | ok listed =>
          simp only [hresolve, hquery, Except.toOption, Option.bind_some, Option.map_some,
            Option.some.injEq] at hfound hlisted
          refine ⟨found, listed, rfl, rfl, hfound, hlisted, fun hsame => ?_⟩
          simp [hsame, hlisted] at hfound

end Resolver

end Introspect
