import Introspect.Proofs.Resolver.DataMembers
import Introspect.Proofs.Resolver.OwnAccessor
import Introspect.Proofs.Resolver.Queries

/-!
# `Introspect.Proofs.Resolver.ListedProperties`: listed properties and requests for them

A mapping takes its properties from `dataMembers`, which gives each of them a handle for the
directions in which it can be accessed. A request for the property looks for a handle of its own.
Both prefer the property of the most derived type: `listed_place` says that a listed property is the
first of its name along the chain, and that a request comes to the same one.

They differ in what they do when the property leads to no accessor of its own. The list leaves the
direction out. The request takes a method of the conventional name, and without one it goes on to
the bases (`Substituted`). Besides, a request fails when the type has several properties of the
name, where the list has the first of them. `listed_agrees_iff` says that there is no further
difference: the handle that is listed is the one that a request finds, or both are missing, exactly
if none of this happens. `fallback_is_not_listed` shows a property that can be read by a request and
is listed as one that cannot be read.
-/

set_option autoImplicit false

namespace Introspect

/-- The handle under which a member is accessed in a direction. -/
def DataMember.handle (m : DataMember) : Direction → Option MemberHandle
  | .read => m.read
  | .write => m.write

namespace Resolver

variable {reg : Registry} {type : TypeHandle} {name : String} {flags : Flags}
  {direction : Direction} {chain front back : List TypeInfo} {info : TypeInfo} {index : Nat}
  {property : PropertyInfo} {members found more : List DataMember} {m : DataMember}

/-! ### The first member of a name -/

/-- A member that is added is the first of its name. -/
theorem first_of_mem_addUnseen (h : m ∈ addUnseen found more) :
    m ∈ found ∨ ∃ ahead behind, more = ahead ++ m :: behind ∧
      ∀ earlier ∈ found ++ ahead, earlier.name ≠ m.name := by
  induction more generalizing found with
  | nil => exact .inl h
  | cons next rest ih =>
      rw [addUnseen, List.foldl_cons] at h
      split at h
      · next hseen =>
          obtain ⟨old, hold, hname⟩ : ∃ old ∈ found, old.name = next.name := by simpa using hseen
          rcases ih h with hfound | ⟨ahead, behind, rfl, hearlier⟩
          · exact .inl hfound
          · refine .inr ⟨next :: ahead, behind, rfl, fun earlier hmem => ?_⟩
            rcases List.mem_append.mp hmem with hfound | hahead
            · exact hearlier earlier (List.mem_append_left _ hfound)
            · cases hahead with
              | head => exact hname ▸ hearlier old (List.mem_append_left _ hold)
              | tail _ hahead => exact hearlier earlier (List.mem_append_right _ hahead)
      · next hunseen =>
          rcases ih h with hadded | ⟨ahead, behind, rfl, hearlier⟩
          · rcases List.mem_append.mp hadded with hfound | hnew
            · exact .inl hfound
            · obtain rfl := List.mem_singleton.mp hnew
              refine .inr ⟨[], rest, rfl, fun earlier hmem hname => hunseen ?_⟩
              rw [List.append_nil] at hmem
              exact List.any_eq_true.mpr ⟨earlier, hmem, by simpa using hname⟩
          · refine .inr ⟨next :: ahead, behind, rfl, fun earlier hmem => hearlier earlier ?_⟩
            simpa using hmem

/-- A member that is listed is the first of its name along the chain. -/
theorem first_of_mem_dataMembers {kinds : DataKinds}
    (h : dataMembers reg type kinds flags = .ok members) (hm : m ∈ members) :
    ∃ chain ahead behind, reg.typeChain type flags = .ok chain ∧
      chain.flatMap (membersOn chain kinds flags) = ahead ++ m :: behind ∧
      ∀ earlier ∈ ahead, earlier.name ≠ m.name := by
  obtain ⟨chain, hchain, rfl⟩ := dataMembers_eq_ok_iff.mp h
  have hwalk : addUnseen [] (chain.flatMap (membersOn chain kinds flags)) =
      chain.foldl (fun found info => addUnseen found (membersOn chain kinds flags info)) [] := by
    rw [addUnseen, List.foldl_flatMap]
    rfl
  rw [← hwalk] at hm
  rcases first_of_mem_addUnseen hm with hnone | ⟨ahead, behind, hsplit, hearlier⟩
  · cases hnone
  · exact ⟨chain, ahead, behind, hchain, hsplit, by simpa using hearlier⟩

/-- A place in the lists of several items is one in the list of an item. -/
theorem split_flatMap {α β : Type} {f : α → List β} {items : List α} {ahead behind : List β} {b : β}
    (h : items.flatMap f = ahead ++ b :: behind) :
    ∃ front item back before after, items = front ++ item :: back ∧
      f item = before ++ b :: after ∧ ahead = front.flatMap f ++ before := by
  induction items generalizing ahead with
  | nil => simp at h
  | cons first rest ih =>
      rw [List.flatMap_cons] at h
      rcases List.append_eq_append_iff.mp h with ⟨between, hahead, hrest⟩ | ⟨between, hfirst, hback⟩
      · obtain ⟨front, item, back, before, after, rfl, hitem, rfl⟩ := ih hrest
        exact ⟨first :: front, item, back, before, after, rfl, hitem, by simp [hahead]⟩
      · cases between with
        | nil =>
            -- The place is the first one of what comes after this item.
            obtain ⟨front, item, back, before, after, rfl, hitem, hbefore⟩ :=
              @ih [] hback.symm
            have hfirst : f first = ahead := by simpa using hfirst
            refine ⟨first :: front, item, back, before, after, rfl, hitem, ?_⟩
            rw [List.flatMap_cons, List.append_assoc, ← hbefore, List.append_nil, hfirst]
        | cons one between =>
            obtain ⟨rfl, -⟩ := List.cons.inj hback
            exact ⟨[], first, rest, ahead, between, rfl, hfirst, rfl⟩

/-! ### Properties of one name -/

/-- The properties of a type that answer a request, in either direction. -/
def namesakes (type : TypeHandle) (name : String) (flags : Flags) (info : TypeInfo) :
    List (Nat × PropertyInfo) :=
  positions (propertyMatches (.property type name .read flags)) info.properties

/-- No other property of the type answers to the name. -/
def IsAlone (type : TypeHandle) (name : String) (flags : Flags) (info : TypeInfo) (index : Nat) :
    Prop :=
  ∀ k other, info.properties[k]? = some other →
    propertyMatches (.property type name .read flags) other = true → k = index

/-- A property is alone when it is the only one that is found. -/
theorem isAlone_iff {rest : List (Nat × PropertyInfo)}
    (h : namesakes type name flags info = (index, property) :: rest) :
    IsAlone type name flags info index ↔ rest = [] := by
  constructor
  · intro halone
    have hdistinct : ((namesakes type name flags info).map Prod.fst).Nodup := nodup_positions _ _
    rw [h, List.map_cons, List.nodup_cons] at hdistinct
    refine List.eq_nil_iff_forall_not_mem.mpr fun other hother => hdistinct.1 ?_
    obtain ⟨hplace, hmatches⟩ := mem_positions_iff.mp
      (show other ∈ namesakes type name flags info by simp [h, hother])
    exact List.mem_map.mpr ⟨other, hother, halone _ _ hplace hmatches⟩
  · rintro rfl k other hplace hmatches
    have hmem : (k, other) ∈ namesakes type name flags info :=
      mem_positions_iff.mpr ⟨hplace, hmatches⟩
    rw [h] at hmem
    exact congrArg Prod.fst (List.mem_singleton.mp hmem)

/-- A property is listed under its name. -/
@[simp]
theorem name_propertyMember (chain : List TypeInfo) (flags : Flags) (info : TypeInfo) (index : Nat)
    (property : PropertyInfo) :
    (propertyMember chain flags info index property).name = property.name := rfl

section Exact

variable (hcase : flags.contains Flags.ignoreCase = false)
  (hpartial : flags.contains Flags.partialNameMatch = false)

include hcase hpartial

/-- The properties of a name are the listed ones that have it. -/
theorem namesakes_eq (type : TypeHandle) (name : String) (info : TypeInfo) :
    namesakes type name flags info =
      (positions (fun p => !p.isIndexer && flags.matchesBinding p.visibility p.isStatic)
        info.properties).filter fun found => found.2.name == name := by
  refine Eq.trans ?_ (positions_and _ (fun p => p.name == name) info.properties)
  rw [namesakes]
  congr 1
  funext p
  have hname : flags.matchesName p.name name = (p.name == name) := by
    rw [Bool.eq_iff_iff, matchesName_iff hcase hpartial, beq_iff_eq]
  simp only [propertyMatches, Signature.property, Signature.ofKind, Signature.nameText,
    Option.getD_some, hname]
  ac_rfl

/-- One property of a name is chosen, and none of several. -/
theorem chosenProperty_of_namesakes {rest : List (Nat × PropertyInfo)}
    (h : namesakes type name flags info = (index, property) :: rest) :
    (rest = [] → chosenProperty type name flags info = .ok (some (index, property))) ∧
      (rest ≠ [] → ∃ e, chosenProperty type name flags info = .error e) := by
  have hchosen : chosenProperty type name flags info =
      pick info.name name PropertyInfo.name ((index, property) :: rest) := by rw [← h]; rfl
  constructor
  · rintro rfl
    exact hchosen
  · intro hrest
    obtain ⟨second, others, rfl⟩ := List.exists_cons_of_ne_nil hrest
    -- Each of them has the requested name, so the spelling singles out none.
    have hall : ((index, property) :: second :: others).filter (fun found => found.2.name == name) =
        (index, property) :: second :: others := by
      rw [← h, namesakes_eq hcase hpartial, List.filter_filter]
      simp
    exact ⟨_, by rw [hchosen, pick, hall] <;> simp⟩

/-- A listed property is the first of its name along the chain. -/
theorem listed_place (h : dataMembers reg type .onlyProperties flags = .ok members)
    (hm : m ∈ members) :
    ∃ chain front info back index property rest, reg.typeChain type flags = .ok chain ∧
      chain = front ++ info :: back ∧ m = propertyMember chain flags info index property ∧
      (∀ other ∈ front, namesakes type m.name flags other = []) ∧
      namesakes type m.name flags info = (index, property) :: rest := by
  obtain ⟨chain, ahead, behind, hchain, hsplit, hearlier⟩ := first_of_mem_dataMembers h hm
  obtain ⟨front, info, back, before, after, rfl, hinfo, rfl⟩ := split_flatMap hsplit
  have hlisted : ∀ other, membersOn (front ++ info :: back) .onlyProperties flags other =
      (positions (fun p => !p.isIndexer && flags.matchesBinding p.visibility p.isStatic)
        other.properties).map
          fun found => propertyMember (front ++ info :: back) flags other found.1 found.2 :=
    fun other => by simp [membersOn, DataKinds.onlyProperties]
  rw [hlisted, List.map_eq_append_iff] at hinfo
  obtain ⟨first, later, hpositions, rfl, hlater⟩ := hinfo
  obtain ⟨⟨index, property⟩, others, rfl, rfl, -⟩ := List.map_eq_cons_iff.mp hlater
  refine ⟨_, front, info, back, index, property,
    others.filter fun found => found.2.name == property.name, hchain, rfl, rfl,
    fun other hother => ?_, ?_⟩
  · rw [namesakes_eq hcase hpartial, List.filter_eq_nil_iff]
    intro found hfound
    have hmem : propertyMember (front ++ info :: back) flags other found.1 found.2 ∈
        front.flatMap (membersOn (front ++ info :: back) .onlyProperties flags) := by
      refine List.mem_flatMap.mpr ⟨other, hother, ?_⟩
      rw [hlisted]
      exact List.mem_map_of_mem hfound
    simpa using hearlier _ (List.mem_append_left _ hmem)
  · have hbefore : first.filter (fun found => found.2.name == property.name) = [] := by
      refine List.filter_eq_nil_iff.mpr fun found hfound => ?_
      simpa using hearlier _ (List.mem_append_right _ (List.mem_map_of_mem hfound))
    rw [name_propertyMember, namesakes_eq hcase hpartial, hpositions, List.filter_append, hbefore,
      List.nil_append, List.filter_cons_of_pos (by simp)]

end Exact

/-! ### What a request finds -/

/-- Types that have no answer are passed by. -/
theorem firstOn_append {α : Type} {search : TypeInfo → Except ReflectError (Option α)}
    (hfront : ∀ other ∈ front, search other = .ok none) (rest : List TypeInfo) :
    firstOn search (front ++ rest) = firstOn search rest := by
  induction front with
  | nil => rfl
  | cons first front ih =>
      rw [List.cons_append, firstOn, hfront first List.mem_cons_self]
      exact ih fun other hother => hfront other (.tail _ hother)

/-- The rule on partial names is apart from the rules that select an accessor. -/
theorem findAccessor_without_partial (chain : List TypeInfo) (name : String) (flags : Flags) :
    findAccessor chain name (flags \ Flags.partialNameMatch) = findAccessor chain name flags := by
  have hrule : ∀ rule : Flags, ~~~Flags.partialNameMatch.bits &&& rule.bits = rule.bits →
      (flags \ Flags.partialNameMatch).contains rule = flags.contains rule := by
    intro rule hapart
    show (flags.bits &&& ~~~Flags.partialNameMatch.bits &&& rule.bits == rule.bits) = _
    rw [UInt64.and_assoc, hapart]
    rfl
  have hmatches : accessorMatches name (flags \ Flags.partialNameMatch) =
      accessorMatches name flags := by
    funext method
    simp only [accessorMatches, Flags.matchesBinding, hrule Flags.ignoreCase (by decide),
      hrule Flags.publicMembers (by decide), hrule Flags.nonPublicMembers (by decide),
      hrule Flags.staticMembers (by decide), hrule Flags.instanceMembers (by decide)]
  rw [findAccessor, hmatches]
  rfl

/-- A property request takes the first answer along the chain, and then a bare accessor. -/
theorem resolve_property_eq (hchain : reg.typeChain type flags = .ok chain) (name : String)
    (direction : Direction) :
    resolve reg (.property type name direction flags) =
      (firstOn (propertyOn (.property type name direction flags) chain) chain).bind fun
        | some found => .ok found
        | none =>
          match findAccessor chain (accessorName name direction) flags with
          | some accessor => accessorResult (.property type name direction flags)
              accessor.1.declaring none 0 accessor
          | none => .error (memberNotFound reg (.property type name direction flags)) := by
  have hbare := findAccessor_without_partial chain (accessorName name direction) flags
  show (reg.typeChain type flags >>= _) = _
  rw [hchain, ← hbare]
  rfl

/-- The handle of an accessor, if it has the right shape. -/
def shapedHandle (info : TypeInfo) (index : Nat) (property : PropertyInfo) (direction : Direction)
    (accessor : MethodRef × MethodInfo) : Option MemberHandle :=
  match checkShape accessor.2 property.indexTypes.length direction with
  | .ok _ => some (.property info.handle (some index) accessor.1)
  | .error _ => none

/-- The accessor that a property names, if it is there. -/
def reachedAccessor (chain : List TypeInfo) (flags : Flags) (direction : Direction)
    (property : PropertyInfo) : Option (MethodRef × MethodInfo) :=
  (ownAccessor property direction).bind (findAccessor chain · flags)

/-- What is listed for a direction is the accessor that the property names. -/
theorem handle_propertyMember (chain : List TypeInfo) (flags : Flags) (info : TypeInfo)
    (index : Nat) (property : PropertyInfo) (direction : Direction) :
    (propertyMember chain flags info index property).handle direction =
      (reachedAccessor chain flags direction property).bind
        (shapedHandle info index property direction) := by
  have hhandle : propertyHandle chain flags info index property direction =
      (reachedAccessor chain flags direction property).bind
        (shapedHandle info index property direction) := by
    rw [reachedAccessor, Option.bind_assoc]
    rfl
  cases direction <;> exact hhandle

/-- What an accessor answers a request with is its handle. -/
theorem member_of_accessorResult (type : TypeHandle) (name : String) (flags : Flags)
    (accessor : MethodRef × MethodInfo) :
    (accessorResult (.property type name direction flags) info.handle (some index)
        property.indexTypes.length accessor).toOption.map (·.member) =
      shapedHandle info index property direction accessor := by
  unfold accessorResult shapedHandle
  show ((checkShape accessor.2 property.indexTypes.length direction >>= _).toOption.map _) = _
  cases checkShape accessor.2 property.indexTypes.length direction <;> rfl

/-- A request goes past the accessors that a property names: to a method of the conventional name,
or without one to the bases. -/
def Substituted (type : TypeHandle) (flags : Flags) (chain back : List TypeInfo)
    (direction : Direction) (property : PropertyInfo) : Prop :=
  (∃ accessor, findAccessor chain (accessorName property.name direction) flags = some accessor ∧
    checkShape accessor.2 property.indexTypes.length direction = .ok ()) ∨
  (findAccessor chain (accessorName property.name direction) flags = none ∧
    ∃ found, firstOn (propertyOn (.property type property.name direction flags) chain) back =
      .ok (some found))

section Place

variable (hsplit : chain = front ++ info :: back)
  (hfront : ∀ other ∈ front, namesakes type property.name flags other = [])

include hsplit hfront

/-- The types before that of a listed property have nothing to choose from. -/
theorem firstOn_of_listed (direction : Direction) :
    firstOn (propertyOn (.property type property.name direction flags) chain) chain =
      (propertyOn (.property type property.name direction flags) chain info).bind fun
        | some found => .ok (some found)
        | none =>
            firstOn (propertyOn (.property type property.name direction flags) chain) back := by
  have hpassed : ∀ other ∈ front,
      propertyOn (.property type property.name direction flags) chain other = .ok none := by
    intro other hother
    have hnone : chosenProperty type property.name flags other = .ok none :=
      pick_eq_none_iff.mpr (hfront other hother)
    rw [propertyOn_eq, hnone]
    rfl
  conv_lhs => arg 2; rw [hsplit]
  rw [firstOn_append hpassed]
  show (propertyOn (.property type property.name direction flags) chain info).bind _ = _
  congr 1
  funext answer
  cases answer with
  | some found => rfl
  | none => rfl

/-- When the property that is chosen leads to its own accessor, this is what a request finds. -/
theorem request_of_reached (hchain : reg.typeChain type flags = .ok chain)
    (hchosen : chosenProperty type property.name flags info = .ok (some (index, property)))
    {accessor : MethodRef × MethodInfo}
    (hreached : reachedAccessor chain flags direction property = some accessor) :
    (resolve reg (.property type property.name direction flags)).toOption.map (·.member) =
      shapedHandle info index property direction accessor := by
  have hleads : accessorOf chain flags direction property = some accessor := by
    rw [accessorOf, ← reachedAccessor, hreached, Option.some_or]
  rw [resolve_property_eq hchain, firstOn_of_listed hsplit hfront, propertyOn_eq, hchosen,
    ← member_of_accessorResult type property.name flags accessor]
  simp only [Except.bind, propertyAnswer, hleads]
  cases accessorResult (.property type property.name direction flags) info.handle (some index)
    property.indexTypes.length accessor <;> rfl

/-- When it leads to none, a request finds something exactly if there is a substitute. -/
theorem request_of_unreached (hchain : reg.typeChain type flags = .ok chain)
    (hchosen : chosenProperty type property.name flags info = .ok (some (index, property)))
    (hreached : reachedAccessor chain flags direction property = none) :
    (resolve reg (.property type property.name direction flags)).toOption.isSome = true ↔
      Substituted type flags chain back direction property := by
  have hleads : accessorOf chain flags direction property =
      findAccessor chain (accessorName property.name direction) flags := by
    rw [accessorOf, ← reachedAccessor, hreached, Option.none_or]
  rw [resolve_property_eq hchain, firstOn_of_listed hsplit hfront, propertyOn_eq, hchosen]
  simp only [Except.bind, propertyAnswer, hleads, Substituted]
  cases hconventional : findAccessor chain (accessorName property.name direction) flags with
  | some accessor =>
      have hshape : (accessorResult (.property type property.name direction flags) info.handle
          (some index) property.indexTypes.length accessor).toOption.map (·.member) =
            shapedHandle info index property direction accessor :=
        member_of_accessorResult type property.name flags accessor
      simp only [Option.some.injEq, exists_eq_left', reduceCtorEq, false_and, or_false]
      cases hresult : accessorResult (.property type property.name direction flags) info.handle
          (some index) property.indexTypes.length accessor with
      | error e =>
          rw [hresult, shapedHandle] at hshape
          cases hcheck : checkShape accessor.2 property.indexTypes.length direction with
          | error e => simp [Except.map, Except.toOption]
          | ok _ => simp [hcheck, Except.toOption] at hshape
      | ok found =>
          rw [hresult, shapedHandle] at hshape
          cases hcheck : checkShape accessor.2 property.indexTypes.length direction with
          | error e => simp [hcheck, Except.toOption] at hshape
          | ok _ => simp [Except.map, Except.toOption]
  | none =>
      -- Where the bases have no answer either, there is no bare accessor of the name left.
      simp only [reduceCtorEq, false_and, exists_false, true_and, false_or]
      cases firstOn (propertyOn (.property type property.name direction flags) chain) back with
      | error e => simp [Except.toOption]
      | ok answer => cases answer <;> simp [Except.toOption]

end Place

/-- The handle of a listed property for a direction is the one that a request for the property
finds, or both are missing, exactly if the property is alone with its name on its type, where it has
a handle, and a request finds no substitute, where it leads to no accessor of its own. -/
theorem listed_agrees_iff (reg : Registry) (type : TypeHandle) (flags : Flags)
    (hcase : flags.contains Flags.ignoreCase = false)
    (hpartial : flags.contains Flags.partialNameMatch = false) {members : List DataMember}
    (h : dataMembers reg type .onlyProperties flags = .ok members) {m : DataMember}
    (hm : m ∈ members) :
    ∃ chain front info back index property, reg.typeChain type flags = .ok chain ∧
      chain = front ++ info :: back ∧ info.properties[index]? = some property ∧
      m = propertyMember chain flags info index property ∧
      ∀ direction,
        (m.handle direction =
            (resolve reg (.property type m.name direction flags)).toOption.map (·.member) ↔
          ((m.handle direction).isSome = true → IsAlone type m.name flags info index) ∧
          (IsAlone type m.name flags info index →
            reachedAccessor chain flags direction property = none →
              ¬ Substituted type flags chain back direction property)) := by
  obtain ⟨chain, front, info, back, index, property, rest, hchain, hsplit, rfl, hfront, hinfo⟩ :=
    listed_place hcase hpartial h hm
  have hplace : (index, property) ∈ namesakes type property.name flags info := by
    rw [show namesakes type property.name flags info = _ from hinfo]
    exact List.mem_cons_self
  refine ⟨chain, front, info, back, index, property, hchain, hsplit,
    (mem_positions_iff.mp hplace).1, rfl, fun direction => ?_⟩
  obtain ⟨hone, hseveral⟩ := chosenProperty_of_namesakes hcase hpartial hinfo
  rw [isAlone_iff hinfo, handle_propertyMember]
  show _ = (resolve reg (.property type property.name direction flags)).toOption.map _ ↔ _
  by_cases hrest : rest = []
  case neg =>
    -- Several properties of the name: the request fails.
    obtain ⟨e, he⟩ := hseveral hrest
    have hfailed :
        (resolve reg (.property type property.name direction flags)).toOption = none := by
      rw [resolve_property_eq hchain, firstOn_of_listed hsplit hfront, propertyOn_eq,
        show chosenProperty type property.name flags info = _ from he]
      rfl
    rw [hfailed, Option.map_none]
    simp [hrest, Option.eq_none_iff_forall_ne_some, Option.isSome_iff_exists]
  case pos =>
    have hchosen : chosenProperty type property.name flags info = .ok (some (index, property)) :=
      hone hrest
    cases hreached : reachedAccessor chain flags direction property with
    | some accessor =>
        rw [request_of_reached hsplit hfront hchain hchosen hreached]
        simp [hrest]
    | none =>
        have hrequest := request_of_unreached hsplit hfront hchain hchosen hreached
        rw [← hrequest]
        cases (resolve reg (.property type property.name direction flags)).toOption <;> simp [hrest]

/-- The property of an account is alone with its name, and is listed with the accessors that
requests find. -/
theorem listed_agrees_iff_account :
    Flags.standard.contains Flags.ignoreCase = false ∧
      Flags.standard.contains Flags.partialNameMatch = false ∧
      ∃ members m, dataMembers account.2 account.1 .onlyProperties Flags.standard = .ok members ∧
        m ∈ members ∧ m.name = "Owner" ∧
        (∀ direction, (m.handle direction).isSome = true ∧ m.handle direction =
          (resolve account.2
            (.property account.1 m.name direction Flags.standard)).toOption.map (·.member)) ∧
        ∃ chain info index property, m = propertyMember chain Flags.standard info index property ∧
          IsAlone account.1 m.name Flags.standard info index := by
  have hcase : Flags.standard.contains Flags.ignoreCase = false := by decide
  have hpartial : Flags.standard.contains Flags.partialNameMatch = false := by decide
  obtain ⟨members, m, hmembers, hm, hname, hread, hwrite, hagrees⟩ : ∃ members m,
      dataMembers account.2 account.1 .onlyProperties Flags.standard = .ok members ∧
      m ∈ members ∧ m.name = "Owner" ∧ (m.handle .read).isSome = true ∧
      (m.handle .write).isSome = true ∧
      ∀ direction, m.handle direction =
        (resolve account.2
          (.property account.1 m.name direction Flags.standard)).toOption.map (·.member) :=
    ⟨_, _, rfl, List.mem_cons_self, rfl, rfl, rfl, fun direction => by cases direction <;> rfl⟩
  obtain ⟨chain, front, info, back, index, property, -, -, -, hplace, hiff⟩ :=
    listed_agrees_iff account.2 account.1 _ hcase hpartial hmembers hm
  refine ⟨hcase, hpartial, members, m, hmembers, hm, hname,
    fun direction => ⟨?_, hagrees direction⟩, chain, info, index, property, hplace,
    ((hiff .read).mp (hagrees .read)).1 hread⟩
  cases direction with
  | read => exact hread
  | write => exact hwrite

/-- A sample type with properties that name accessors it does not have. -/
def props : TypeHandle :=
  (Sample.registry.natives.lookup (.described "Props")).getD .unregistered

/-- A request reads the property `Fallback` through the method of the conventional name, and the
list has the property as one that cannot be read. -/
theorem fallback_is_not_listed :
    Flags.standard.contains Flags.ignoreCase = false ∧
      Flags.standard.contains Flags.partialNameMatch = false ∧
      ∃ members m found, dataMembers Sample.registry props .onlyProperties Flags.standard =
          .ok members ∧
        m ∈ members ∧ m.name = "Fallback" ∧ m.read = none ∧
        resolve Sample.registry (.property props m.name .read Flags.standard) = .ok found := by
  have hruns : (dataMembers Sample.registry props .onlyProperties Flags.standard).toOption.any
        (·.any fun m => m.name == "Fallback" && m.read.isNone) = true ∧
      (resolve Sample.registry (.property props "Fallback" .read Flags.standard)).toOption.isSome =
        true := by
    decide +kernel
  obtain ⟨hlisted, hresolved⟩ := hruns
  refine ⟨by decide, by decide, ?_⟩
  cases hmembers : dataMembers Sample.registry props .onlyProperties Flags.standard with
  | error e => simp [hmembers, Except.toOption] at hlisted
  | ok members =>
      obtain ⟨m, hm, hname, hread⟩ : ∃ m ∈ members, m.name = "Fallback" ∧ m.read = none := by
        simpa [hmembers, Except.toOption] using hlisted
      cases hfound : resolve Sample.registry (.property props "Fallback" .read Flags.standard) with
      | error e => simp [hfound, Except.toOption] at hresolved
      | ok found => exact ⟨members, m, found, rfl, hm, hname, hread, by rw [hname]; exact hfound⟩

end Resolver

end Introspect
