import Introspect.Proofs.Resolver.Directions

/-!
# `Introspect.Proofs.Resolver.Binding`: overloads that accept the requested types

A method or constructor answers a request when its parameters accept the requested types.
`Registry.Accepts` says when one parameter does, and `bindParams_eq_some_iff` that all of them must.
`bindable` lists the candidates whose parameters do, each with whether its types are exactly the
requested ones.

`resolve_method_eq_ok_iff` and `resolve_constructor_eq_ok` say what has been found when a request is
answered: the first type of the chain with a method that accepts the types decides, and among its
methods those with exactly the requested types go first.
-/

set_option autoImplicit false

namespace Introspect

namespace Registry

variable {reg : Registry} {flags : Flags} {params : List ParameterInfo} {types : List TypeHandle}

/-- A parameter accepts an argument of a requested type: the very type, or, unless types must be
equal, one that a parameter passed by value can be assigned from. -/
def Accepts (reg : Registry) (flags : Flags) (param : ParameterInfo) (type : TypeHandle) : Prop :=
  param.type = type ∨
    (flags.contains Flags.exactBinding = false ∧ param.mode.isByRef = false ∧
      reg.isAssignable param.type type = true)

/-- Parameters accept as many arguments as they are, each one its own, and the binding is exact when
the declared types are the requested ones. -/
theorem bindParams_eq_some_iff {exact : Bool} :
    reg.bindParams flags params types = some exact ↔
      List.Forall₂ (reg.Accepts flags) params types ∧
        (exact = true ↔ params.map (·.type) = types) := by
  fun_induction bindParams reg flags params types generalizing exact with
  | case1 => simp [eq_comm]
  | case2 param params types ih => simp [Accepts, ih]
  | case3 param params type types hne hexact =>
      have hnot : ¬ reg.Accepts flags param type := by
        rintro (heq | ⟨hflags, hmode, -⟩)
        · exact hne heq
        · simp [hflags, hmode] at hexact
      simp [hnot]
  | case4 param params type types hne hexact hassign ih =>
      have hyes : reg.Accepts flags param type := .inr (by simpa [hassign] using hexact)
      rw [Option.map_eq_some_iff]
      constructor
      · rintro ⟨rest, hrest, rfl⟩
        exact ⟨.cons hyes (ih.mp hrest).1, by simp [hne]⟩
      · rintro ⟨hall, hexact'⟩
        cases hall with
        | cons _ hrest =>
            have hfalse : exact = false := by simpa [hne] using hexact'
            exact ⟨decide (params.map (·.type) = types), ih.mpr ⟨hrest, by simp⟩, hfalse.symm⟩
  | case5 param params type types hne hexact hassign =>
      have hnot : ¬ reg.Accepts flags param type := by
        rintro (heq | ⟨-, -, hassigned⟩)
        · exact hne heq
        · exact hassign hassigned
      simp [hnot]
  | case6 params types hnil hcons =>
      -- One of the lists has come to its end before the other.
      cases params with
      | nil =>
          cases types with
          | nil => exact absurd rfl (hnil rfl)
          | cons type types => simp
      | cons param params =>
          cases types with
          | nil => simp
          | cons type types => exact absurd rfl (hcons param params type types rfl)

/-- A binding binds each argument. -/
theorem forall_accepts_of_bindParams {exact : Bool}
    (h : reg.bindParams flags params types = some exact) :
    List.Forall₂ (reg.Accepts flags) params types :=
  (bindParams_eq_some_iff.mp h).1

/-- The declared types themselves are always accepted, and exactly. -/
theorem bindParams_self (reg : Registry) (flags : Flags) (params : List ParameterInfo) :
    reg.bindParams flags params (params.map (·.type)) = some true := by
  refine bindParams_eq_some_iff.mpr ⟨?_, by simp⟩
  induction params with
  | nil => exact .nil
  | cons param rest ih => exact .cons (.inl rfl) ih

end Registry

namespace Resolver

variable {reg : Registry} {sig : Signature} {flags : Flags} {types : List TypeHandle}

/-! ### Candidates that accept the requested types -/

section
variable {α : Type} {paramsOf : α → List ParameterInfo} {candidates : List (Nat × α)}

/-- The candidates whose parameters accept the requested types, each with whether it takes exactly
these. -/
def bindable (reg : Registry) (flags : Flags) (types : List TypeHandle)
    (paramsOf : α → List ParameterInfo) (candidates : List (Nat × α)) : List ((Nat × α) × Bool) :=
  candidates.filterMap fun (index, member) =>
    (reg.bindParams flags (paramsOf member) types).map fun exact => ((index, member), exact)

theorem mem_bindable_iff {index : Nat} {member : α} {exact : Bool} :
    ((index, member), exact) ∈ bindable reg flags types paramsOf candidates ↔
      (index, member) ∈ candidates ∧
        reg.bindParams flags (paramsOf member) types = some exact := by
  simp only [bindable, List.mem_filterMap, Option.map_eq_some_iff, Prod.mk.injEq, Prod.exists]
  constructor
  · rintro ⟨found, other, hmem, fit, hfit, ⟨rfl, rfl⟩, rfl⟩
    exact ⟨hmem, hfit⟩
  · rintro ⟨hmem, hfit⟩
    exact ⟨index, member, hmem, exact, hfit, ⟨rfl, rfl⟩, rfl⟩

/-- Nothing is preferred only among nothing. -/
theorem preferExact_eq_nil_iff {found : List ((Nat × α) × Bool)} :
    preferExact found = [] ↔ found = [] := by
  unfold preferExact
  split
  · simp
  · next hexact =>
      have hne : found.filter (·.2) ≠ [] := hexact
      have hfound : found ≠ [] := by
        rintro rfl
        exact hne rfl
      simp [hne, hfound]

/-- What is preferred has been found. -/
theorem mem_of_mem_preferExact {found : List ((Nat × α) × Bool)} {one : Nat × α}
    (h : one ∈ preferExact found) : ∃ exact, (one, exact) ∈ found := by
  unfold preferExact at h
  split at h
  · obtain ⟨⟨_, exact⟩, hmem, rfl⟩ := List.mem_map.mp h
    exact ⟨exact, hmem⟩
  · obtain ⟨⟨_, exact⟩, hmem, rfl⟩ := List.mem_map.mp h
    exact ⟨exact, (List.mem_filter.mp hmem).1⟩

/-- Where something is found exactly, only what is found exactly is preferred. -/
theorem preferExact_of_exact {found : List ((Nat × α) × Bool)} {one : Nat × α}
    (h : (one, true) ∈ found) : preferExact found = (found.filter (·.2)).map (·.1) := by
  have hne : found.filter (·.2) ≠ [] := List.ne_nil_of_mem (List.mem_filter.mpr ⟨h, rfl⟩)
  unfold preferExact
  split
  · next hnil => exact absurd hnil hne
  · rfl

end

/-! ### Methods -/

/-- The methods of a type that answer a request. -/
def accepting (reg : Registry) (sig : Signature) (info : TypeInfo) :
    List ((Nat × MethodInfo) × Bool) :=
  bindable reg sig.flags sig.params MethodInfo.params (positions (methodMatches sig) info.methods)

theorem mem_accepting_iff {info : TypeInfo} {index : Nat} {method : MethodInfo} {exact : Bool} :
    ((index, method), exact) ∈ accepting reg sig info ↔
      info.methods[index]? = some method ∧ methodMatches sig method = true ∧
        reg.bindParams sig.flags method.params sig.params = some exact := by
  rw [accepting, mem_bindable_iff, mem_positions_iff, and_assoc]

/-- The method of a type that is chosen for a request. -/
def chosenMethod (reg : Registry) (sig : Signature) (info : TypeInfo) :
    Except ReflectError (Option (Nat × MethodInfo)) :=
  pick info.name sig.nameText MethodInfo.name (preferExact (accepting reg sig info))

theorem methodOn_eq (info : TypeInfo) :
    methodOn reg sig info = (chosenMethod reg sig info).map (Option.map fun found =>
      ⟨.method ⟨info.handle, found.1⟩, found.2.paramTypes, found.2.isStatic⟩) := by
  show (chosenMethod reg sig info >>= _) = _
  cases chosenMethod reg sig info <;> rfl

/-- A type is passed by when none of its methods accepts the requested types. -/
theorem methodOn_eq_none_iff {info : TypeInfo} :
    methodOn reg sig info = .ok none ↔ accepting reg sig info = [] := by
  have hnone : chosenMethod reg sig info = .ok none ↔ accepting reg sig info = [] :=
    pick_eq_none_iff.trans preferExact_eq_nil_iff
  rw [methodOn_eq, ← hnone]
  cases chosenMethod reg sig info with
  | error e => simp [Except.map]
  | ok answer => cases answer <;> simp [Except.map]

theorem methodOn_eq_some_iff {info : TypeInfo} {found : Resolution} :
    methodOn reg sig info = .ok (some found) ↔ ∃ index method,
      chosenMethod reg sig info = .ok (some (index, method)) ∧
        found = ⟨.method ⟨info.handle, index⟩, method.paramTypes, method.isStatic⟩ := by
  rw [methodOn_eq]
  cases chosenMethod reg sig info with
  | error e => simp [Except.map]
  | ok answer =>
      cases answer with
      | none => simp [Except.map]
      | some answer =>
          obtain ⟨index, method⟩ := answer
          simp [Except.map, eq_comm]

/-- A method request is answered by the first type of the chain that has a method which accepts the
requested types, if one of these is to be chosen. -/
theorem resolve_method_eq_ok_iff (hkind : sig.kind = .method) {found : Resolution} :
    resolve reg sig = .ok found ↔ ∃ chain front info back index method,
      reg.typeChain sig.target sig.flags = .ok chain ∧ chain = front ++ info :: back ∧
        (∀ other ∈ front, accepting reg sig other = []) ∧
        chosenMethod reg sig info = .ok (some (index, method)) ∧
        found = ⟨.method ⟨info.handle, index⟩, method.paramTypes, method.isStatic⟩ := by
  have hfirst : resolve reg sig = .ok found ↔
      ∃ chain, reg.typeChain sig.target sig.flags = .ok chain ∧
        firstOn (methodOn reg sig) chain = .ok (some found) := by
    unfold resolve
    rw [hkind]
    show (reg.typeChain sig.target sig.flags >>= _) = _ ↔ _
    cases reg.typeChain sig.target sig.flags with
    | error e => simp [bind, Except.bind]
    | ok chain =>
        simp only [bind, Except.bind, Except.ok.injEq, exists_eq_left']
        cases firstOn (methodOn reg sig) chain with
        | error e => simp
        | ok answer =>
            cases answer <;> simp [pure, Except.pure, throw, throwThe, MonadExceptOf.throw]
  rw [hfirst]
  simp only [firstOn_eq_some_iff, methodOn_eq_none_iff, methodOn_eq_some_iff]
  constructor
  · rintro ⟨chain, hchain, front, info, back, hsplit, hfront, index, method, hchosen, hfound⟩
    exact ⟨chain, front, info, back, index, method, hchain, hsplit, hfront, hchosen, hfound⟩
  · rintro ⟨chain, front, info, back, index, method, hchain, hsplit, hfront, hchosen, hfound⟩
    exact ⟨chain, hchain, front, info, back, hsplit, hfront, index, method, hchosen, hfound⟩

/-- The chosen method is one of the type's methods, and it accepts the requested types. -/
theorem mem_accepting_of_chosen {info : TypeInfo} {index : Nat} {method : MethodInfo}
    (h : chosenMethod reg sig info = .ok (some (index, method))) :
    ∃ exact, ((index, method), exact) ∈ accepting reg sig info :=
  mem_of_mem_preferExact (mem_of_pick h)

/-- If a method with exactly the requested types is spelled as requested, no other method of the
type is chosen. -/
theorem chosen_of_exact {info : TypeInfo} {one other : Nat × MethodInfo}
    (h : chosenMethod reg sig info = .ok (some one))
    (hother : (other, true) ∈ accepting reg sig info) (hname : other.2.name = sig.nameText) :
    other = one := by
  have hmem : other ∈ preferExact (accepting reg sig info) := by
    rw [preferExact_of_exact hother]
    exact List.mem_map_of_mem (f := Prod.fst) (List.mem_filter.mpr ⟨hother, rfl⟩)
  rcases pick_eq_some h with honly | honly
  · simpa [honly] using hmem
  · have hspelled : other ∈ [one] := by
      rw [← honly]
      exact List.mem_filter.mpr ⟨hmem, by simp [hname]⟩
    simpa using hspelled

/-! ### Constructors -/

/-- The constructors of a type that answer a request. -/
def acceptingConstructors (reg : Registry) (sig : Signature) (info : TypeInfo) :
    List ((Nat × ConstructorInfo) × Bool) :=
  bindable reg sig.flags sig.params ConstructorInfo.params
    (positions (fun c => sig.flags.matchesBinding c.visibility false) info.constructors)

theorem mem_acceptingConstructors_iff {info : TypeInfo} {index : Nat} {ctor : ConstructorInfo}
    {exact : Bool} :
    ((index, ctor), exact) ∈ acceptingConstructors reg sig info ↔
      info.constructors[index]? = some ctor ∧
        sig.flags.matchesBinding ctor.visibility false = true ∧
        reg.bindParams sig.flags ctor.params sig.params = some exact := by
  rw [acceptingConstructors, mem_bindable_iff, mem_positions_iff, and_assoc]

/-- A declared constructor is found when it is the only one that accepts the requested types, or the
only one that takes exactly these. -/
theorem declaredConstructor_eq_ok {info : TypeInfo} {found : Resolution}
    (h : declaredConstructor reg sig info = .ok found) :
    ∃ index ctor exact, found = ⟨.constructor sig.target index, ctor.paramTypes, true⟩ ∧
      (acceptingConstructors reg sig info = [((index, ctor), exact)] ∨
        (acceptingConstructors reg sig info).filter (·.2) = [((index, ctor), exact)]) := by
  unfold declaredConstructor at h
  dsimp only at h
  split at h
  · cases h
  · next one hone =>
      obtain ⟨⟨index, ctor⟩, exact⟩ := one
      exact ⟨index, ctor, exact, (Except.ok.inj h).symm, .inl hone⟩
  · split at h
    · next one hone =>
        obtain ⟨⟨index, ctor⟩, exact⟩ := one
        exact ⟨index, ctor, exact, (Except.ok.inj h).symm, .inr hone⟩
    · cases h

/-- What answers a constructor request: an array of a length, a value type without arguments, or a
declared constructor. -/
theorem resolve_constructor_eq_ok (hkind : sig.kind = .constructor) {found : Resolution}
    (h : resolve reg sig = .ok found) : ∃ info, reg.get sig.target = some info ∧
      ((info.kind = .array ∧ isLength sig.params = true ∧ ∃ element,
          found = ⟨.allocation element, sig.params, true⟩) ∨
        (info.isValueType = true ∧ sig.params = [] ∧ found = ⟨.zero sig.target, [], true⟩) ∨
        declaredConstructor reg sig info = .ok found) := by
  unfold resolve at h
  rw [hkind] at h
  simp only [constructor, Registry.info, bind, Except.bind] at h
  cases hinfo : reg.get sig.target with
  | none => simp [hinfo] at h
  | some info =>
      simp only [hinfo] at h
      refine ⟨info, rfl, ?_⟩
      split at h
      · next hlength =>
          simp only [Bool.and_eq_true, beq_iff_eq] at hlength
          split at h
          · next element _ => exact .inl ⟨hlength.1, hlength.2, element, (Except.ok.inj h).symm⟩
          · cases h
      · split at h
        · next hzero =>
            simp only [Bool.and_eq_true, List.isEmpty_iff] at hzero
            exact .inr (.inl ⟨hzero.1, hzero.2, (Except.ok.inj h).symm⟩)
        · exact .inr (.inr h)

end Resolver

end Introspect
