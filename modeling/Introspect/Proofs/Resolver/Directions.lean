import Introspect.Proofs.Resolver.Chain
import Introspect.Sample.Family

/-!
# `Introspect.Proofs.Resolver.Directions`: reads and writes of one name

A field or property is looked up twice, once to be read and once to be written. Both searches walk
the same chain and stop at the first type that has an answer, but they do not ask for the same: the
write of a field leaves out fields that cannot be written before it chooses, and a property is
passed by when it leads to no accessor in the direction that is asked for.

`directions_agree_iff` says exactly when the two find the same member. For fields it is when the
field that is read can be written: then the write finds it too (`field_write_of_read`). Otherwise a
field further up the chain, or one that is spelled differently, may be written in its place;
`total_is_two_fields` shows one. For properties it is when what the read finds can be written and
what the write finds can be read.
-/

set_option autoImplicit false

namespace Introspect

namespace Resolver

/-! ### The first answer on a chain -/

variable {α : Type} {search : TypeInfo → Except ReflectError (Option α)} {infos : List TypeInfo}

/-- A search ends at the first type that has an answer, and passes by those before it. -/
theorem firstOn_eq_some_iff {found : α} :
    firstOn search infos = .ok (some found) ↔
      ∃ front info back, infos = front ++ info :: back ∧
        (∀ other ∈ front, search other = .ok none) ∧ search info = .ok (some found) := by
  induction infos with
  | nil => simp [firstOn]
  | cons first rest ih =>
      rw [firstOn]
      constructor
      · intro h
        cases hfirst : search first with
        | error e => simp [hfirst, bind, Except.bind] at h
        | ok answer =>
            cases answer with
            | some answer =>
                obtain rfl : answer = found := by
                  simpa [hfirst, bind, Except.bind, pure, Except.pure] using h
                exact ⟨[], first, rest, rfl, by simp, hfirst⟩
            | none =>
                obtain ⟨front, info, back, rfl, hfront, hinfo⟩ :=
                  ih.mp (by simpa [hfirst, bind, Except.bind] using h)
                refine ⟨first :: front, info, back, rfl, fun other hother => ?_, hinfo⟩
                cases hother with
                | head => exact hfirst
                | tail _ hother => exact hfront other hother
      · rintro ⟨front, info, back, hinfos, hfront, hinfo⟩
        cases front with
        | nil =>
            obtain ⟨rfl, rfl⟩ := List.cons.inj hinfos
            simp [hinfo, bind, Except.bind, pure, Except.pure]
        | cons other front =>
            obtain ⟨rfl, hrest⟩ := List.cons.inj hinfos
            have hanswer := ih.mpr
              ⟨front, info, back, hrest, fun other hother => hfront other (.tail _ hother), hinfo⟩
            simp [hfront first List.mem_cons_self, hanswer, bind, Except.bind]

/-- A search without an answer has passed by every type. -/
theorem firstOn_eq_none (h : firstOn search infos = .ok none) :
    ∀ info ∈ infos, search info = .ok none := by
  induction infos with
  | nil => simp
  | cons first rest ih =>
      rw [firstOn] at h
      cases hfirst : search first with
      | error e => simp [hfirst, bind, Except.bind] at h
      | ok answer =>
          cases answer with
          | some answer => simp [hfirst, bind, Except.bind, pure, Except.pure] at h
          | none =>
              intro info hinfo
              cases hinfo with
              | head => exact hfirst
              | tail _ hinfo =>
                  exact ih (by simpa [hfirst, bind, Except.bind] using h) info hinfo

/-- Of two places on a chain, one lies before the other, or they are the same. -/
theorem split_cases {front front' back back' : List TypeInfo} {info info' : TypeInfo}
    (h : front ++ info :: back = front' ++ info' :: back') :
    info ∈ front' ∨ info' ∈ front ∨ front = front' ∧ info = info' := by
  rcases List.append_eq_append_iff.mp h with ⟨between, hfront, hback⟩ | ⟨between, hfront, hback⟩
  · cases between with
    | nil =>
        obtain ⟨rfl, rfl⟩ := List.cons.inj hback
        exact .inr (.inr ⟨by simpa using hfront.symm, rfl⟩)
    | cons first rest =>
        obtain ⟨rfl, -⟩ := List.cons.inj hback
        exact .inl (by simp [hfront])
  · cases between with
    | nil =>
        obtain ⟨rfl, rfl⟩ := List.cons.inj hback
        exact .inr (.inr ⟨by simpa using hfront, rfl⟩)
    | cons first rest =>
        obtain ⟨rfl, -⟩ := List.cons.inj hback
        exact .inr (.inl (by simp [hfront]))

/-! ### The choice among several -/

section Pick

variable {type name : String} {nameOf : α → String} {found : List (Nat × α)} {one : Nat × α}

/-- Nothing is chosen only from nothing. -/
theorem pick_eq_none_iff : pick type name nameOf found = .ok none ↔ found = [] := by
  unfold pick
  split
  · simp
  · simp
  · next hnone _ =>
      have hne : found ≠ [] := hnone
      split <;> simp [hne]

/-- What is chosen is the only match, or the only one that is spelled as requested. -/
theorem pick_eq_some (h : pick type name nameOf found = .ok (some one)) :
    found = [one] ∨ found.filter (fun (_, item) => nameOf item == name) = [one] := by
  unfold pick at h
  split at h
  · simp at h
  · next only =>
      obtain rfl : only = one := by simpa using h
      exact .inl rfl
  · split at h
    · next only honly =>
        obtain rfl : only = one := by simpa using h
        exact .inr honly
    · simp at h

/-- The only match that is spelled as requested is chosen. -/
theorem pick_of_exact (h : found.filter (fun (_, item) => nameOf item == name) = [one]) :
    pick type name nameOf found = .ok (some one) := by
  unfold pick
  split
  · simp at h
  · next only =>
      have hmem : one ∈ [only].filter (fun (_, item) => nameOf item == name) := by simp [h]
      obtain rfl : one = only := by simpa using (List.mem_filter.mp hmem).1
      rfl
  · rw [h]

/-- What is chosen is one of the matches. -/
theorem mem_of_pick (h : pick type name nameOf found = .ok (some one)) : one ∈ found := by
  rcases pick_eq_some h with rfl | hexact
  · exact List.mem_cons_self
  · have hmem : one ∈ found.filter (fun (_, item) => nameOf item == name) := by simp [hexact]
    exact (List.mem_filter.mp hmem).1

/-- A choice stands when others are left out. -/
theorem pick_filter {q : Nat × α → Bool} (h : pick type name nameOf found = .ok (some one))
    (hone : q one = true) : pick type name nameOf (found.filter q) = .ok (some one) := by
  rcases pick_eq_some h with rfl | hexact
  · rw [List.filter_cons_of_pos hone, List.filter_nil]
    rfl
  · apply pick_of_exact
    rw [List.filter_comm, hexact, List.filter_cons_of_pos hone, List.filter_nil]

end Pick

/-- A test that is split in two finds what the first part finds, filtered by the second. -/
theorem positions_and (p q : α → Bool) (items : List α) :
    positions (fun item => p item && q item) items =
      (positions p items).filter fun (_, item) => q item := by
  simp only [positions, List.filter_map, List.filter_filter]
  congr 1
  refine List.filter_congr fun entry _ => ?_
  simp [Bool.and_comm]

/-! ### Fields -/

variable {reg : Registry} {type : TypeHandle} {name : String} {flags : Flags}

/-- A field request is answered by the first type of the chain that has an answer. -/
theorem resolve_field_eq_ok_iff {direction : Direction} {found : Resolution} :
    resolve reg (.field type name direction flags) = .ok found ↔
      ∃ chain, reg.typeChain type flags = .ok chain ∧
        firstOn (fieldOn (.field type name direction flags)) chain = .ok (some found) := by
  show field reg (.field type name direction flags) = .ok found ↔ _
  unfold field
  show (reg.typeChain type flags >>= _) = _ ↔ _
  cases hchain : reg.typeChain type flags with
  | error e => simp [bind, Except.bind]
  | ok chain =>
      simp only [bind, Except.bind, Except.ok.injEq, exists_eq_left']
      cases firstOn (fieldOn (.field type name direction flags)) chain with
      | error e => simp
      | ok answer => cases answer <;> simp [pure, Except.pure, throw, throwThe, MonadExceptOf.throw]

/-- The field of a type that is chosen for a request. -/
def chosenField (type : TypeHandle) (name : String) (flags : Flags) (direction : Direction)
    (info : TypeInfo) : Except ReflectError (Option (Nat × FieldInfo)) :=
  pick info.name name FieldInfo.name
    (positions (fieldMatches (.field type name direction flags)) info.fields)

/-- The answer that a chosen field gives. -/
def fieldAnswer (info : TypeInfo) (chosen : Nat × FieldInfo) : Resolution :=
  ⟨.field info.handle chosen.1, [chosen.2.type], chosen.2.isStatic⟩

/-- A type answers a field request with the field that is chosen. -/
theorem fieldOn_eq {direction : Direction} (info : TypeInfo) :
    fieldOn (.field type name direction flags) info =
      (chosenField type name flags direction info).map (·.map (fieldAnswer info)) := by
  show (chosenField type name flags direction info >>= _) = _
  cases chosenField type name flags direction info <;> rfl

/-- The fields that answer a write are those that answer a read and can be written. -/
theorem positions_write (fields : List FieldInfo) :
    positions (fieldMatches (.field type name .write flags)) fields =
      (positions (fieldMatches (.field type name .read flags)) fields).filter
        fun (_, field) => field.isWritable := by
  rw [← positions_and]
  congr 1
  funext field
  have hwrite : (Direction.write == Direction.read) = false := rfl
  simp [fieldMatches, Signature.field, Signature.ofKind, Signature.nameText, hwrite]

/-- A type that passes by a read passes by a write. -/
theorem chosenField_write_none {info : TypeInfo}
    (h : chosenField type name flags .read info = .ok none) :
    chosenField type name flags .write info = .ok none := by
  have hread := pick_eq_none_iff.mp h
  rw [chosenField, positions_write, hread]
  rfl

/-- The field that a read chooses is chosen by a write, if it can be written. -/
theorem chosenField_write_some {info : TypeInfo} {chosen : Nat × FieldInfo}
    (h : chosenField type name flags .read info = .ok (some chosen))
    (hwritable : chosen.2.isWritable = true) :
    chosenField type name flags .write info = .ok (some chosen) := by
  rw [chosenField, positions_write]
  exact pick_filter h hwritable

/-- The field that a write chooses can be written. -/
theorem writable_of_chosenField {info : TypeInfo} {chosen : Nat × FieldInfo}
    (h : chosenField type name flags .write info = .ok (some chosen)) :
    chosen.2.isWritable = true := by
  have hmem := mem_of_pick h
  rw [positions_write] at hmem
  exact (List.mem_filter.mp hmem).2

/-- A type's answer comes from a chosen field. -/
theorem fieldOn_eq_some {direction : Direction} {info : TypeInfo} {found : Resolution} :
    fieldOn (.field type name direction flags) info = .ok (some found) ↔
      ∃ chosen, chosenField type name flags direction info = .ok (some chosen) ∧
        found = fieldAnswer info chosen := by
  rw [fieldOn_eq]
  cases chosenField type name flags direction info with
  | error e => simp [Except.map]
  | ok answer => cases answer <;> simp [Except.map, eq_comm]

/-- A type without an answer has no chosen field. -/
theorem fieldOn_eq_none {direction : Direction} {info : TypeInfo} :
    fieldOn (.field type name direction flags) info = .ok none ↔
      chosenField type name flags direction info = .ok none := by
  rw [fieldOn_eq]
  cases chosenField type name flags direction info with
  | error e => simp [Except.map]
  | ok answer => cases answer <;> simp [Except.map]

/-- The field that a member is. -/
def fieldAt (reg : Registry) : MemberHandle → Option FieldInfo
  | .field declaring index => (reg.get declaring).bind (·.fields[index]?)
  | _ => none

/-- A member is a field that can be written. -/
def IsWritable (reg : Registry) (member : MemberHandle) : Prop :=
  ∃ field, fieldAt reg member = some field ∧ field.isWritable = true

/-- The field of an answer is the one that was chosen. -/
theorem fieldAt_fieldAnswer (hkeyed : reg.Keyed) {chain : List TypeInfo}
    (hchain : reg.typeChain type flags = .ok chain) {info : TypeInfo} (hinfo : info ∈ chain)
    {direction : Direction} {chosen : Nat × FieldInfo}
    (h : chosenField type name flags direction info = .ok (some chosen)) :
    fieldAt reg (fieldAnswer info chosen).member = some chosen.2 := by
  have hget := Registry.get_of_typeChain hkeyed hchain hinfo
  simp [fieldAt, fieldAnswer, hget, (mem_positions_iff.mp (mem_of_pick h)).1]

/-- A field that is read is written too, if it can be. -/
theorem field_write_of_read (hkeyed : reg.Keyed) {found : Resolution}
    (h : resolve reg (.field type name .read flags) = .ok found)
    (hwritable : IsWritable reg found.member) :
    resolve reg (.field type name .write flags) = .ok found := by
  obtain ⟨chain, hchain, hfirst⟩ := resolve_field_eq_ok_iff.mp h
  obtain ⟨front, info, back, rfl, hfront, hinfo⟩ := firstOn_eq_some_iff.mp hfirst
  obtain ⟨chosen, hchosen, rfl⟩ := fieldOn_eq_some.mp hinfo
  obtain ⟨field, hfield, hwritable⟩ := hwritable
  rw [fieldAt_fieldAnswer hkeyed hchain (by simp) hchosen] at hfield
  obtain rfl : chosen.2 = field := Option.some.inj hfield
  refine resolve_field_eq_ok_iff.mpr ⟨_, hchain, firstOn_eq_some_iff.mpr
    ⟨front, info, back, rfl, fun other hother => ?_, ?_⟩⟩
  · exact fieldOn_eq_none.mpr (chosenField_write_none (fieldOn_eq_none.mp (hfront other hother)))
  · exact fieldOn_eq_some.mpr ⟨chosen, chosenField_write_some hchosen hwritable, rfl⟩

/-- A field that is found for a write can be written. -/
theorem isWritable_of_write (hkeyed : reg.Keyed) {found : Resolution}
    (h : resolve reg (.field type name .write flags) = .ok found) :
    IsWritable reg found.member := by
  obtain ⟨chain, hchain, hfirst⟩ := resolve_field_eq_ok_iff.mp h
  obtain ⟨front, info, back, rfl, -, hinfo⟩ := firstOn_eq_some_iff.mp hfirst
  obtain ⟨chosen, hchosen, rfl⟩ := fieldOn_eq_some.mp hinfo
  exact ⟨chosen.2, fieldAt_fieldAnswer hkeyed hchain (by simp) hchosen,
    writable_of_chosenField hchosen⟩

/-! ### Properties -/

/-- The descriptor of the property that was found; none for a bare accessor. -/
def descriptor? (found : Resolution) : Option (TypeHandle × Nat) :=
  match found.member with
  | .property declaring (some index) _ => some (declaring, index)
  | _ => none

/-- The accessor that a property leads to in a direction: its own, or else one of the conventional
name. -/
def accessorOf (chain : List TypeInfo) (flags : Flags) (direction : Direction)
    (property : PropertyInfo) : Option (MethodRef × MethodInfo) :=
  ((ownAccessor property direction).bind (findAccessor chain · flags)).or
    (findAccessor chain (accessorName property.name direction) flags)

/-- A property leads to an accessor in a direction, for requests to a type. -/
def Offers (reg : Registry) (type : TypeHandle) (flags : Flags) (direction : Direction)
    (descriptor : TypeHandle × Nat) : Prop :=
  ∃ chain info property, reg.typeChain type flags = .ok chain ∧
    reg.get descriptor.1 = some info ∧ info.properties[descriptor.2]? = some property ∧
    (accessorOf chain flags direction property).isSome = true

/-- The property of a type that is chosen for a request, in whichever direction. -/
def chosenProperty (type : TypeHandle) (name : String) (flags : Flags) (info : TypeInfo) :
    Except ReflectError (Option (Nat × PropertyInfo)) :=
  pick info.name name PropertyInfo.name
    (positions (propertyMatches (.property type name .read flags)) info.properties)

/-- The answer that a chosen property gives: none, if it leads to no accessor. -/
def propertyAnswer (type : TypeHandle) (name : String) (flags : Flags) (direction : Direction)
    (chain : List TypeInfo) (info : TypeInfo) (chosen : Nat × PropertyInfo) :
    Except ReflectError (Option Resolution) :=
  match accessorOf chain flags direction chosen.2 with
  | none => .ok none
  | some accessor =>
    (accessorResult (.property type name direction flags) info.handle (some chosen.1)
      chosen.2.indexTypes.length accessor).map some

/-- A type answers a property request with the property that is chosen. -/
theorem propertyOn_eq {direction : Direction} (chain : List TypeInfo) (info : TypeInfo) :
    propertyOn (.property type name direction flags) chain info =
      (chosenProperty type name flags info).bind fun
        | none => .ok none
        | some chosen => propertyAnswer type name flags direction chain info chosen := by
  have hbind : ∀ result : Except ReflectError Resolution,
      (result.bind fun found => .ok (some found)) = result.map some := by
    rintro (_ | _) <;> rfl
  show (chosenProperty type name flags info).bind _ = _
  congr 1
  funext answer
  cases answer with
  | none => rfl
  | some chosen =>
      show (match accessorOf chain flags direction chosen.2 with
        | none => _
        | some accessor => _) = propertyAnswer type name flags direction chain info chosen
      unfold propertyAnswer
      cases accessorOf chain flags direction chosen.2 with
      | none => rfl
      | some accessor => exact hbind _

/-- A type that passes by a request has no property to choose, or one that leads to no accessor. -/
theorem accessorOf_of_passed {direction : Direction} {chain : List TypeInfo} {info : TypeInfo}
    (h : propertyOn (.property type name direction flags) chain info = .ok none)
    {chosen : Nat × PropertyInfo}
    (hchosen : chosenProperty type name flags info = .ok (some chosen)) :
    accessorOf chain flags direction chosen.2 = none := by
  rw [propertyOn_eq, hchosen] at h
  cases haccessor : accessorOf chain flags direction chosen.2 with
  | none => rfl
  | some accessor =>
      simp only [Except.bind, propertyAnswer, haccessor] at h
      cases hresult : accessorResult (.property type name direction flags) info.handle
          (some chosen.1) chosen.2.indexTypes.length accessor <;> simp [hresult, Except.map] at h

/-- What an accessor answers names the descriptor that it was found through. -/
theorem descriptor?_accessorResult {sig : Signature} {declaring : TypeHandle}
    {descriptor : Option Nat} {index : Nat} {accessor : MethodRef × MethodInfo}
    {found : Resolution}
    (h : accessorResult sig declaring descriptor index accessor = .ok found) :
    descriptor? found = descriptor.map (declaring, ·) := by
  unfold accessorResult at h
  cases hshape : checkShape accessor.2 index sig.direction with
  | error e => simp [hshape, bind, Except.bind] at h
  | ok _ =>
      obtain rfl : _ = found := by simpa [hshape, bind, Except.bind, pure, Except.pure] using h
      cases descriptor <;> rfl

/-- A type that answers a request has chosen a property, which leads to an accessor. -/
theorem chosen_of_propertyOn {direction : Direction} {chain : List TypeInfo} {info : TypeInfo}
    {found : Resolution}
    (h : propertyOn (.property type name direction flags) chain info = .ok (some found)) :
    ∃ chosen, chosenProperty type name flags info = .ok (some chosen) ∧
      (accessorOf chain flags direction chosen.2).isSome = true ∧
      descriptor? found = some (info.handle, chosen.1) := by
  rw [propertyOn_eq] at h
  cases hchosen : chosenProperty type name flags info with
  | error e => simp [hchosen, Except.bind] at h
  | ok answer =>
      cases answer with
      | none => simp [hchosen, Except.bind] at h
      | some chosen =>
          cases haccessor : accessorOf chain flags direction chosen.2 with
          | none => simp [hchosen, propertyAnswer, haccessor, Except.bind] at h
          | some accessor =>
              simp only [hchosen, propertyAnswer, haccessor, Except.bind] at h
              cases hresult : accessorResult (.property type name direction flags) info.handle
                  (some chosen.1) chosen.2.indexTypes.length accessor with
              | error e => simp [hresult, Except.map] at h
              | ok result =>
                  obtain rfl : result = found := by simpa [hresult, Except.map] using h
                  exact ⟨chosen, rfl, by simp [haccessor], descriptor?_accessorResult hresult⟩

/-- The property of an answer leads to an accessor in the direction of the request. -/
theorem offers_of_propertyOn (hkeyed : reg.Keyed) {direction : Direction} {chain : List TypeInfo}
    (hchain : reg.typeChain type flags = .ok chain) {info : TypeInfo} (hinfo : info ∈ chain)
    {found : Resolution}
    (h : propertyOn (.property type name direction flags) chain info = .ok (some found)) :
    ∃ descriptor, descriptor? found = some descriptor ∧
      Offers reg type flags direction descriptor := by
  obtain ⟨chosen, hchosen, haccessor, hdescriptor⟩ := chosen_of_propertyOn h
  exact ⟨_, hdescriptor, chain, info, chosen.2, hchain,
    Registry.get_of_typeChain hkeyed hchain hinfo, (mem_positions_iff.mp (mem_of_pick hchosen)).1,
    haccessor⟩

/-- A property that is found in one direction and offers the other is not passed by there. -/
theorem not_passed_of_offers (hkeyed : reg.Keyed) {direction other : Direction}
    {chain : List TypeInfo} (hchain : reg.typeChain type flags = .ok chain) {info : TypeInfo}
    (hinfo : info ∈ chain) {found : Resolution}
    (h : propertyOn (.property type name direction flags) chain info = .ok (some found))
    (hoffers : ∀ descriptor, descriptor? found = some descriptor →
      Offers reg type flags other descriptor) :
    propertyOn (.property type name other flags) chain info ≠ .ok none := by
  intro hpassed
  obtain ⟨chosen, hchosen, -, hdescriptor⟩ := chosen_of_propertyOn h
  obtain ⟨chain', info', property, hchain', hinfo', hproperty, haccessor⟩ :=
    hoffers _ hdescriptor
  obtain rfl : chain' = chain := by simpa [hchain] using hchain'.symm
  obtain rfl : info' = info := by
    simpa [Registry.get_of_typeChain hkeyed hchain hinfo] using hinfo'.symm
  have hchosenAt := (mem_positions_iff.mp (mem_of_pick hchosen)).1
  obtain rfl : property = chosen.2 := by simpa [hchosenAt] using hproperty.symm
  simp [accessorOf_of_passed hpassed hchosen] at haccessor

/-- How a search for a property ends: on the first type of the chain that has an answer, or with a
bare accessor when all types are passed by. -/
inductive PropertySearch (type : TypeHandle) (name : String) (flags : Flags)
    (direction : Direction) (chain : List TypeInfo) (found : Resolution) : Prop
  | declared {front back : List TypeInfo} {info : TypeInfo} :
      chain = front ++ info :: back →
      (∀ other ∈ front,
        propertyOn (.property type name direction flags) chain other = .ok none) →
      propertyOn (.property type name direction flags) chain info = .ok (some found) →
      PropertySearch type name flags direction chain found
  | bare :
      (∀ info ∈ chain, propertyOn (.property type name direction flags) chain info = .ok none) →
      descriptor? found = none → PropertySearch type name flags direction chain found

/-- A property request is answered by a search along the chain. -/
theorem resolve_property_eq_ok {direction : Direction} {found : Resolution}
    (h : resolve reg (.property type name direction flags) = .ok found) :
    ∃ chain, reg.typeChain type flags = .ok chain ∧
      PropertySearch type name flags direction chain found := by
  have h : property reg (.property type name direction flags) = .ok found := h
  unfold property at h
  cases hchain : reg.typeChain type flags with
  | error e =>
      have hchain' : reg.typeChain (Signature.property type name direction flags).target
        (Signature.property type name direction flags).flags = .error e := hchain
      simp [hchain', bind, Except.bind] at h
  | ok chain =>
      have hchain' : reg.typeChain (Signature.property type name direction flags).target
        (Signature.property type name direction flags).flags = .ok chain := hchain
      refine ⟨chain, rfl, ?_⟩
      simp only [hchain', bind, Except.bind] at h
      cases hfirst : firstOn (propertyOn (.property type name direction flags) chain) chain with
      | error e => simp [hfirst] at h
      | ok answer =>
          cases answer with
          | some answer =>
              obtain rfl : answer = found := by simpa [hfirst, pure, Except.pure] using h
              obtain ⟨front, info, back, hsplit, hpassed, hinfo⟩ := firstOn_eq_some_iff.mp hfirst
              exact .declared hsplit hpassed hinfo
          | none =>
              refine .bare (firstOn_eq_none hfirst) ?_
              simp only [hfirst] at h
              split at h
              · exact descriptor?_accessorResult h
              · simp [throw, throwThe, MonadExceptOf.throw] at h

/-- What a search finds, it finds with an accessor in its own direction. -/
theorem PropertySearch.offers (hkeyed : reg.Keyed) {direction : Direction}
    {chain : List TypeInfo} (hchain : reg.typeChain type flags = .ok chain) {found : Resolution}
    (h : PropertySearch type name flags direction chain found) {descriptor : TypeHandle × Nat}
    (hdescriptor : descriptor? found = some descriptor) :
    Offers reg type flags direction descriptor := by
  cases h with
  | @declared front back info hsplit _ hfound =>
      have hinfo : info ∈ chain := by simp [hsplit]
      obtain ⟨other, hother, hoffers⟩ := offers_of_propertyOn hkeyed hchain hinfo hfound
      obtain rfl : other = descriptor := by simpa [hother] using hdescriptor
      exact hoffers
  | bare _ hbare => simp [hbare] at hdescriptor

/-- Two searches end at the same property, or both with a bare accessor, if each could have found
what the other found. -/
theorem PropertySearch.descriptor?_eq (hkeyed : reg.Keyed) {direction other : Direction}
    {chain : List TypeInfo} (hchain : reg.typeChain type flags = .ok chain)
    {found found' : Resolution} (h : PropertySearch type name flags direction chain found)
    (h' : PropertySearch type name flags other chain found')
    (hoffers : ∀ descriptor, descriptor? found = some descriptor →
      Offers reg type flags other descriptor)
    (hoffers' : ∀ descriptor, descriptor? found' = some descriptor →
      Offers reg type flags direction descriptor) :
    descriptor? found = descriptor? found' := by
  cases h with
  | @declared front back info hsplit hpassed hfound =>
      have hinfo : info ∈ chain := by simp [hsplit]
      have hstops := not_passed_of_offers hkeyed hchain hinfo hfound hoffers
      cases h' with
      | @declared front' back' info' hsplit' hpassed' hfound' =>
          have hinfo' : info' ∈ chain := by simp [hsplit']
          have hstops' := not_passed_of_offers hkeyed hchain hinfo' hfound' hoffers'
          -- Neither search passes by the type at which the other one ends.
          rcases split_cases (hsplit.symm.trans hsplit') with hbefore | hbefore | ⟨-, rfl⟩
          · exact absurd (hpassed' info hbefore) hstops
          · exact absurd (hpassed info' hbefore) hstops'
          · obtain ⟨chosen, hchosen, -, hdescriptor⟩ := chosen_of_propertyOn hfound
            obtain ⟨chosen', hchosen', -, hdescriptor'⟩ := chosen_of_propertyOn hfound'
            obtain rfl : chosen = chosen' := by simpa [hchosen] using hchosen'
            rw [hdescriptor, hdescriptor']
      | bare hpassed' _ => exact absurd (hpassed' info hinfo) hstops
  | bare hpassed hbare =>
      cases h' with
      | @declared front' back' info' hsplit' hpassed' hfound' =>
          have hinfo' : info' ∈ chain := by simp [hsplit']
          exact absurd (hpassed info' hinfo')
            (not_passed_of_offers hkeyed hchain hinfo' hfound' hoffers')
      | bare _ hbare' => rw [hbare, hbare']

/-! ### Both directions -/

/-- A read and a write of one name find the same field exactly if the field that is read can be
written. They find the same property descriptor, or both a bare accessor, exactly if what the read
finds can be written and what the write finds can be read. -/
theorem directions_agree_iff (hkeyed : reg.Keyed) (type : TypeHandle) (name : String)
    (flags : Flags) :
    (∀ read write, resolve reg (.field type name .read flags) = .ok read →
      resolve reg (.field type name .write flags) = .ok write →
      (read.member = write.member ↔ IsWritable reg read.member)) ∧
    (∀ read write, resolve reg (.property type name .read flags) = .ok read →
      resolve reg (.property type name .write flags) = .ok write →
      (descriptor? read = descriptor? write ↔
        (∀ descriptor, descriptor? read = some descriptor →
          Offers reg type flags .write descriptor) ∧
        ∀ descriptor, descriptor? write = some descriptor →
          Offers reg type flags .read descriptor)) := by
  constructor
  · intro read write hread hwrite
    constructor
    · intro hsame
      rw [hsame]
      exact isWritable_of_write hkeyed hwrite
    · intro hwritable
      have hagain := field_write_of_read hkeyed hread hwritable
      rw [hwrite] at hagain
      rw [Except.ok.inj hagain]
  · intro read write hread hwrite
    obtain ⟨chain, hchain, hread⟩ := resolve_property_eq_ok hread
    obtain ⟨chain', hchain', hwrite⟩ := resolve_property_eq_ok hwrite
    obtain rfl : chain = chain' := by simpa [hchain] using hchain'
    constructor
    · intro hsame
      exact ⟨fun d hd => hwrite.offers hkeyed hchain (hsame ▸ hd),
        fun d hd => hread.offers hkeyed hchain (hsame ▸ hd)⟩
    · rintro ⟨hoffers, hoffers'⟩
      exact hread.descriptor?_eq hkeyed hchain hwrite hoffers hoffers'

/-- A type with a field and a property that can be read and written. -/
def account : TypeHandle × Registry :=
  Registry.initial.declare (.described "Account") <|
    ((Blueprint.reference "Account").withField
      (.ofSlot "Account" "Number" "number" .int32 .int32)).property "Account" "Owner" .string
        (pure .null) fun _ => pure ()

/-- Reads and writes of the members of an account agree. -/
theorem directions_agree_iff_account :
    account.2.Keyed ∧
      (∃ read write, resolve account.2 (.field account.1 "Number" .read Flags.standard) =
          .ok read ∧
        resolve account.2 (.field account.1 "Number" .write Flags.standard) = .ok write ∧
        read.member = write.member ∧ IsWritable account.2 read.member) ∧
      ∃ read write, resolve account.2 (.property account.1 "Owner" .read Flags.standard) =
          .ok read ∧
        resolve account.2 (.property account.1 "Owner" .write Flags.standard) = .ok write ∧
        descriptor? read = some (account.1, 0) ∧ descriptor? write = some (account.1, 0) ∧
        Offers account.2 account.1 Flags.standard .write (account.1, 0) := by
  have hkeyed : account.2.Keyed := Registry.keyed_declare Registry.keyed_initial _ _
  refine ⟨hkeyed, ?_, ?_⟩
  · obtain ⟨read, write, hread, hwrite, hsame⟩ : ∃ read write,
        resolve account.2 (.field account.1 "Number" .read Flags.standard) = .ok read ∧
        resolve account.2 (.field account.1 "Number" .write Flags.standard) = .ok write ∧
        read.member = write.member := ⟨_, _, rfl, rfl, rfl⟩
    exact ⟨read, write, hread, hwrite, hsame,
      ((directions_agree_iff hkeyed _ _ _).1 read write hread hwrite).mp hsame⟩
  · obtain ⟨read, write, hread, hwrite, hreadAt, hwriteAt⟩ : ∃ read write,
        resolve account.2 (.property account.1 "Owner" .read Flags.standard) = .ok read ∧
        resolve account.2 (.property account.1 "Owner" .write Flags.standard) = .ok write ∧
        descriptor? read = some (account.1, 0) ∧ descriptor? write = some (account.1, 0) :=
      ⟨_, _, rfl, rfl, rfl, rfl⟩
    have hagree := ((directions_agree_iff hkeyed _ _ _).2 read write hread hwrite).mp
      (hreadAt.trans hwriteAt.symm)
    exact ⟨read, write, hread, hwrite, hreadAt, hwriteAt, hagree.1 _ hreadAt⟩

/-- A sample type with a field `total` that can be written and a field `Total` that cannot. -/
def tangle : TypeHandle :=
  (Sample.registry.natives.lookup (.described "Tangle")).getD .unregistered

/-- Without regard to case, `Total` is read from one field and written to another. -/
theorem total_is_two_fields :
    ∃ read write,
      resolve Sample.registry
        (.field tangle "Total" .read (Flags.standard ∪ Flags.ignoreCase)) = .ok read ∧
      resolve Sample.registry
        (.field tangle "Total" .write (Flags.standard ∪ Flags.ignoreCase)) = .ok write ∧
      read.member = .field tangle 7 ∧ write.member = .field tangle 6 ∧
      read.member ≠ write.member := by
  have hboth : (resolve Sample.registry
        (.field tangle "Total" .read (Flags.standard ∪ Flags.ignoreCase))).toOption.map (·.member)
          = some (.field tangle 7) ∧
      (resolve Sample.registry
        (.field tangle "Total" .write (Flags.standard ∪ Flags.ignoreCase))).toOption.map (·.member)
          = some (.field tangle 6) := by
    decide +kernel
  obtain ⟨hread, hwrite⟩ := hboth
  cases hfound : resolve Sample.registry
      (.field tangle "Total" .read (Flags.standard ∪ Flags.ignoreCase)) with
  | error e => simp [hfound, Except.toOption] at hread
  | ok read =>
      cases hfound' : resolve Sample.registry
          (.field tangle "Total" .write (Flags.standard ∪ Flags.ignoreCase)) with
      | error e => simp [hfound', Except.toOption] at hwrite
      | ok write =>
          simp only [hfound, hfound', Except.toOption, Option.map_some, Option.some.injEq]
            at hread hwrite
          exact ⟨read, write, rfl, rfl, hread, hwrite, by simp [hread, hwrite]⟩

end Resolver

end Introspect
