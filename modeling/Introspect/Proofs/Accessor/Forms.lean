import Introspect.Proofs.Accessor.Marshalling
import Introspect.Proofs.Cache.Request
import Introspect.Proofs.Resolver.DataMembers
import Introspect.Proofs.Resolver.Directions

/-!
# `Introspect.Proofs.Accessor.Forms`: the form of an accessor for each request

A request for an accessor is a signature together with the compiler that it is meant for: `Asks`
lists the pairs that requests are made of. Each kind of member and direction has one form of
accessors. `Accessor.suits` says which, and `Asks.suits_wrap` and `Asks.eq_wrap` say that a compiler
makes accessors of the form that suits its requests, and that no others do.

A request is resolved before its accessor is prepared, and the two look at the types separately:
the resolver finds a member by its name and leaves a handle, which the compiler looks up again. The
compiler can fail in several ways, since it takes any handle. `Asks.compile_of_resolve` says that it
does not fail on the handles that the resolver leaves for its requests: they lead to a type that
lists itself under its own handle, a field that is written has code for it, an accessor of a
property takes no type arguments, and a method takes as many as the request gives.
-/

set_option autoImplicit false

namespace Introspect

/-- A request for an accessor, and the compiler that it is meant for. -/
inductive Asks : {β : Type} → Compiler β → Signature → Prop
  | readField (type : TypeHandle) (name : String) (flags : Flags) :
      Asks .getter (.field type name .read flags)
  | readProperty (type : TypeHandle) (name : String) (flags : Flags) :
      Asks .getter (.property type name .read flags)
  | writeField (type : TypeHandle) (name : String) (flags : Flags) :
      Asks .setter (.field type name .write flags)
  | writeProperty (type : TypeHandle) (name : String) (flags : Flags) :
      Asks .setter (.property type name .write flags)
  | callMethod (type : TypeHandle) (name : String) (params typeArgs : List TypeHandle)
      (flags : Flags) :
      Asks .method ((Signature.method type name params flags).withTypeArgs typeArgs)
  | create (type : TypeHandle) (params : List TypeHandle) (flags : Flags) :
      Asks .constructor (.constructor type params flags)
  | readElement (array : TypeHandle) : Asks .elementGetter (.element array .read)
  | writeElement (array : TypeHandle) : Asks .elementSetter (.element array .write)

/-! ### Forms -/

/-- Whether an accessor has the form in which a signature is answered. -/
def Accessor.suits : Accessor → Signature → Bool
  | .getter _, sig => (sig.kind == .field || sig.kind == .property) && sig.direction == .read
  | .setter _, sig => (sig.kind == .field || sig.kind == .property) && sig.direction == .write
  | .method _, sig => sig.kind == .method
  | .constructor _, sig => sig.kind == .constructor
  | .elementGetter _, sig => sig.kind == .element && sig.direction == .read
  | .elementSetter _, sig => sig.kind == .element && sig.direction == .write

/-- The form depends on what a signature asks for, and on nothing that resolution found. -/
theorem Accessor.suits_congr (accessor : Accessor) {key sig : Signature}
    (hsame : (sig == key) = true) : accessor.suits sig = accessor.suits key := by
  have hidentity := (Signature.beq_iff_identity sig key).1 hsame
  have hkind : sig.kind = key.kind := congrArg (·.kind) hidentity
  have hdirection : sig.direction = key.direction := congrArg (·.direction) hidentity
  cases accessor <;> simp only [suits, hkind, hdirection]

variable {β : Type} {compiler : Compiler β} {sig : Signature}

/-- A compiler makes accessors of the form that suits its requests. -/
theorem Asks.suits_wrap (h : Asks compiler sig) (prepared : Prepared β) :
    (compiler.facet.wrap prepared).suits sig = true := by
  cases h <;> rfl

/-- An accessor of the form that suits a request is one that its compiler could have made. -/
theorem Asks.eq_wrap (h : Asks compiler sig) {accessor : Accessor}
    (hsuits : accessor.suits sig = true) :
    ∃ prepared, accessor = compiler.facet.wrap prepared := by
  cases h with
  | readField | readProperty =>
      cases accessor with
      | getter prepared => exact ⟨prepared, rfl⟩
      | _ => cases hsuits
  | writeField | writeProperty =>
      cases accessor with
      | setter prepared => exact ⟨prepared, rfl⟩
      | _ => cases hsuits
  | callMethod =>
      cases accessor with
      | method prepared => exact ⟨prepared, rfl⟩
      | _ => cases hsuits
  | create =>
      cases accessor with
      | constructor prepared => exact ⟨prepared, rfl⟩
      | _ => cases hsuits
  | readElement =>
      cases accessor with
      | elementGetter prepared => exact ⟨prepared, rfl⟩
      | _ => cases hsuits
  | writeElement =>
      cases accessor with
      | elementSetter prepared => exact ⟨prepared, rfl⟩
      | _ => cases hsuits

/-! ### What is resolved is prepared -/

section
variable {reg : Registry} {type : TypeHandle} {name : String} {flags : Flags} {found : Resolution}

/-- A request has the direction that its compiler needs. -/
theorem Asks.checkDirection (h : Asks compiler sig) : compiler.checkDirection sig = .ok () := by
  cases h <;> rfl

namespace Resolver

/-- A field that answers a request is one of a published type, and can be written if that is asked
for. -/
theorem field_of_resolve (hkeyed : reg.Keyed) {direction : Direction}
    (h : resolve reg (.field type name direction flags) = .ok found) :
    ∃ info index field, reg.get info.handle = some info ∧ info.fields[index]? = some field ∧
      found.member = .field info.handle index ∧
      (direction = .write → field.isWritable = true) := by
  obtain ⟨chain, hchain, hfirst⟩ := resolve_field_eq_ok_iff.mp h
  obtain ⟨front, info, back, rfl, -, hinfo⟩ := firstOn_eq_some_iff.mp hfirst
  obtain ⟨chosen, hchosen, rfl⟩ := fieldOn_eq_some.mp hinfo
  refine ⟨info, chosen.1, chosen.2, Registry.get_of_typeChain hkeyed hchain (by simp),
    (mem_positions_iff.mp (mem_of_pick hchosen)).1, rfl, ?_⟩
  rintro rfl
  exact writable_of_chosenField hchosen

/-- What an accessor answers names the accessor. -/
theorem member_accessorResult {declaring : TypeHandle} {descriptor : Option Nat} {index : Nat}
    {accessor : MethodRef × MethodInfo}
    (h : accessorResult sig declaring descriptor index accessor = .ok found) :
    found.member = .property declaring descriptor accessor.1 := by
  unfold accessorResult at h
  cases hshape : checkShape accessor.2 index sig.direction with
  | error e => simp [hshape, bind, Except.bind] at h
  | ok _ =>
      obtain rfl : _ = found := by simpa [hshape, bind, Except.bind, pure, Except.pure] using h
      rfl

/-- An accessor that a property leads to was found by one of two names. -/
theorem findAccessor_of_accessorOf {chain : List TypeInfo} {direction : Direction}
    {property : PropertyInfo} {accessor : MethodRef × MethodInfo}
    (h : accessorOf chain flags direction property = some accessor) :
    ∃ name, findAccessor chain name flags = some accessor := by
  rcases Option.or_eq_some_iff.mp h with hown | ⟨-, hconventional⟩
  · obtain ⟨name, -, hfound⟩ := Option.bind_eq_some_iff.mp hown
    exact ⟨name, hfound⟩
  · exact ⟨_, hconventional⟩

/-- A type that answers a request does so with the accessor that its chosen property leads to. -/
theorem answered_of_propertyOn {direction : Direction} {chain : List TypeInfo} {info : TypeInfo}
    (h : propertyOn (.property type name direction flags) chain info = .ok (some found)) :
    ∃ chosen accessor, chosenProperty type name flags info = .ok (some chosen) ∧
      accessorOf chain flags direction chosen.2 = some accessor ∧
      found.member = .property info.handle (some chosen.1) accessor.1 := by
  obtain ⟨chosen, hchosen, hsome, -⟩ := chosen_of_propertyOn h
  obtain ⟨accessor, haccessor⟩ := Option.isSome_iff_exists.mp hsome
  refine ⟨chosen, accessor, hchosen, haccessor, ?_⟩
  rw [propertyOn_eq, hchosen] at h
  simp only [Except.bind, propertyAnswer, haccessor] at h
  cases hresult : accessorResult (.property type name direction flags) info.handle
      (some chosen.1) chosen.2.indexTypes.length accessor with
  | error e => simp [hresult, Except.map] at h
  | ok result =>
      obtain rfl : result = found := by simpa [hresult, Except.map] using h
      exact member_accessorResult hresult

/-- A type answers a property request with an accessor that was found on the chain. -/
theorem accessor_of_propertyOn {direction : Direction} {chain : List TypeInfo} {info : TypeInfo}
    (h : propertyOn (.property type name direction flags) chain info = .ok (some found)) :
    ∃ accessorName accessor descriptor, findAccessor chain accessorName flags = some accessor ∧
      found.member = .property info.handle descriptor accessor.1 := by
  obtain ⟨chosen, accessor, -, haccessor, hmember⟩ := answered_of_propertyOn h
  obtain ⟨accessorName, hfound⟩ := findAccessor_of_accessorOf haccessor
  exact ⟨accessorName, accessor, _, hfound, hmember⟩

/-- A property request is answered by an accessor that was found on the chain, whether a property
is declared or not. -/
theorem accessor_of_resolve {direction : Direction}
    (h : resolve reg (.property type name direction flags) = .ok found) :
    ∃ chain accessorName accessorFlags accessor declaring descriptor,
      reg.typeChain type flags = .ok chain ∧
      findAccessor chain accessorName accessorFlags = some accessor ∧
      found.member = .property declaring descriptor accessor.1 := by
  have h : property reg (.property type name direction flags) = .ok found := h
  unfold property at h
  change (reg.typeChain type flags >>= _) = _ at h
  cases hchain : reg.typeChain type flags with
  | error e => simp [hchain, bind, Except.bind] at h
  | ok chain =>
      simp only [hchain, bind, Except.bind] at h
      cases hfirst : firstOn (propertyOn (.property type name direction flags) chain) chain with
      | error e => simp [hfirst] at h
      | ok answer =>
          simp only [hfirst] at h
          cases answer with
          | some answer =>
              obtain rfl : answer = found := by simpa [pure, Except.pure] using h
              obtain ⟨front, info, back, -, -, hinfo⟩ := firstOn_eq_some_iff.mp hfirst
              obtain ⟨accessorName, accessor, descriptor, hfound, hmember⟩ :=
                accessor_of_propertyOn hinfo
              exact ⟨chain, accessorName, flags, accessor, _, descriptor, rfl, hfound, hmember⟩
          | none =>
              dsimp only at h
              split at h
              · next accessor haccessor =>
                  exact ⟨chain, _, _, accessor, _, none, rfl, haccessor, member_accessorResult h⟩
              · simp [throw, throwThe, MonadExceptOf.throw] at h

/-- The read of a field that answers a request can be prepared. -/
theorem exists_fieldReader (hkeyed : reg.Keyed)
    (h : resolve reg (.field type name .read flags) = .ok found) :
    ∃ reader, Reader.ofMember reg found.member = .ok reader := by
  obtain ⟨info, index, field, hinfo, hfield, hmember, -⟩ := field_of_resolve hkeyed h
  rw [hmember]
  exact (preparable_field hinfo hfield).read _ rfl

/-- The write of a field that answers a request can be prepared. -/
theorem exists_fieldWriter (hkeyed : reg.Keyed)
    (h : resolve reg (.field type name .write flags) = .ok found) :
    ∃ writer, Writer.ofMember reg found.member = .ok writer := by
  obtain ⟨info, index, field, hinfo, hfield, hmember, hwritable⟩ := field_of_resolve hkeyed h
  rw [hmember]
  refine (preparable_field hinfo hfield).write _ ?_
  show (if field.isWritable then some _ else none) = some _
  rw [if_pos (hwritable rfl)]

/-- The read of a property that answers a request can be prepared. -/
theorem exists_propertyReader (hkeyed : reg.Keyed)
    (h : resolve reg (.property type name .read flags) = .ok found) :
    ∃ reader, Reader.ofMember reg found.member = .ok reader := by
  obtain ⟨chain, _, _, ⟨ref, method⟩, _, _, hchain, haccessor, hmember⟩ := accessor_of_resolve h
  rw [hmember]
  exact reader_of_findAccessor hkeyed hchain haccessor _ _

/-- The write of a property that answers a request can be prepared. -/
theorem exists_propertyWriter (hkeyed : reg.Keyed)
    (h : resolve reg (.property type name .write flags) = .ok found) :
    ∃ writer, Writer.ofMember reg found.member = .ok writer := by
  obtain ⟨chain, _, _, ⟨ref, method⟩, _, _, hchain, haccessor, hmember⟩ := accessor_of_resolve h
  rw [hmember]
  exact writer_of_findAccessor hkeyed hchain haccessor _ _

/-- The creation of instances that answers a request can be prepared. -/
theorem exists_creator (hkind : sig.kind = .constructor) (h : resolve reg sig = .ok found) :
    ∃ creator, Creator.ofMember reg found.member = .ok creator := by
  obtain ⟨info, -, ⟨-, -, element, hfound⟩ | ⟨-, -, hfound⟩ | hdeclared⟩ :=
    resolve_constructor_eq_ok hkind h
  · rw [hfound]
    exact ⟨_, rfl⟩
  · rw [hfound]
    exact ⟨_, rfl⟩
  · obtain ⟨index, ctor, exact, hfound, -⟩ := declaredConstructor_eq_ok hdeclared
    obtain ⟨info, ctor, -, -, -, hcreator⟩ :=
      prepare_of_resolved_constructor hkind h (congrArg (·.member) hfound)
    exact ⟨_, hcreator⟩

/-- A request for the elements of an array type is answered by its element type. -/
theorem element_of_resolve (hkind : sig.kind = .element) (h : resolve reg sig = .ok found) :
    ∃ element, found.member = .element element := by
  unfold resolve at h
  rw [hkind] at h
  simp only [element, Registry.info, bind, Except.bind] at h
  cases hinfo : reg.get sig.target with
  | none => simp [hinfo] at h
  | some info =>
      simp only [hinfo] at h
      split at h
      · next element _ _ =>
          obtain rfl : _ = found := Except.ok.inj h
          exact ⟨element, rfl⟩
      · simp [throw, throwThe, MonadExceptOf.throw] at h

end Resolver

/-- The member that a request was resolved to can be prepared. -/
theorem Asks.exists_action (h : Asks compiler sig) (hkeyed : reg.Keyed)
    (hfound : Resolver.resolve reg sig = .ok found) :
    ∃ action, compiler.prepare reg (sig.withResolution found) found.member = .ok action := by
  cases h with
  | readField => exact Resolver.exists_fieldReader hkeyed hfound
  | readProperty => exact Resolver.exists_propertyReader hkeyed hfound
  | writeField => exact Resolver.exists_fieldWriter hkeyed hfound
  | writeProperty => exact Resolver.exists_propertyWriter hkeyed hfound
  | callMethod =>
      obtain ⟨ref, -, -, plan, hmember, -, -, -, -, hplan⟩ :=
        Resolver.prepare_of_resolved_method hkeyed rfl hfound
      rw [hmember]
      exact ⟨plan, hplan⟩
  | create => exact Resolver.exists_creator rfl hfound
  | readElement =>
      obtain ⟨element, hmember⟩ := Resolver.element_of_resolve rfl hfound
      rw [hmember]
      exact ⟨_, rfl⟩
  | writeElement =>
      obtain ⟨element, hmember⟩ := Resolver.element_of_resolve rfl hfound
      rw [hmember]
      exact ⟨_, rfl⟩

/-- What is resolved for a request is compiled. -/
theorem Asks.compile_of_resolve (h : Asks compiler sig) (hkeyed : reg.Keyed)
    (hfound : Resolver.resolve reg sig = .ok found) :
    ∃ prepared, compiler.compile reg sig = (.ok prepared, 1) := by
  obtain ⟨action, haction⟩ := h.exists_action hkeyed hfound
  refine ⟨⟨sig.withResolution found, action⟩, ?_⟩
  simp only [Compiler.compile, h.checkDirection, hfound, haction, Except.map]

/-- What cannot be resolved for a request is not compiled, and does not count. -/
theorem Asks.compile_of_unresolved (h : Asks compiler sig) {e : ReflectError}
    (herror : Resolver.resolve reg sig = .error e) : compiler.compile reg sig = (.error e, 0) := by
  simp only [Compiler.compile, h.checkDirection, herror]

end

end Introspect
