import Introspect.Proofs.Accessor.Marshalling
import Introspect.Proofs.Construction.Arguments
import Introspect.Proofs.Dispatch.Override
import Introspect.Proofs.Reflector.Steady
import Introspect.Proofs.Resolver.Listing
import Introspect.Sample.Family

/-!
# `Introspect.Proofs.Construction.Calls`: a call by values runs the method that was chosen

A call by values chooses a method twice. First it takes the first listed method without type
arguments that accepts the values (`firstAccepting`), and then it requests a method of the declared
parameter types of that one. `resolve_chosen_or_rival` says how the two can differ: resolution may
stop earlier on the chain, at a rival that accepts the same types. The list does not show the rival,
which is hidden by a method with type arguments, or it shows a method of the rival's types that
refuses the values.

`callWithValues_runs_chosen` is about the other cases: no method with type arguments hides one
without, and a value that fits a type fits every wider type. Then resolution finds the chosen method
again, and the call runs it, or the method that overrides it.
-/

set_option autoImplicit false

namespace Introspect

namespace Registry

/-- Nothing but the root type lies above a type. -/
def Outermost (reg : Registry) (type : TypeHandle) : Prop :=
  ∀ wider, reg.isAssignable wider type = true → wider = type ∨ wider = .object

/-- Nothing else lies above a type right below the root type when there are no interfaces. -/
theorem outermost_of_baseOf {reg : Registry} {type : TypeHandle} (hrooted : reg.Rooted)
    (hinterfaces : ∀ entry ∈ reg.types, entry.2.kind ≠ .interface)
    (hbase : reg.baseOf type = some .object) : reg.Outermost type := by
  obtain ⟨root, hroot, hrootBase, -⟩ := hrooted
  have hbases : reg.bases type = [.object] := by
    have hnext : reg.baseOf .object = none := by simp [baseOf, hroot, hrootBase]
    unfold bases
    rw [hbase, chainFrom, hnext]
    cases reg.types.length <;> rfl
  have hnone : ∀ wider, reg.isInterface wider = false := by
    intro wider
    unfold isInterface
    cases hinfo : reg.get wider with
    | none => rfl
    | some info =>
        obtain ⟨front, back, htypes, -⟩ := List.lookup_eq_some_iff.mp hinfo
        simpa [TypeInfo.isInterface] using hinterfaces (wider, info) (by simp [htypes])
  intro wider hwider
  simp only [isAssignable, hbases, hnone, Bool.false_and, Bool.or_false, Bool.or_eq_true,
    beq_iff_eq, List.contains_cons, List.contains_nil] at hwider
  rcases hwider with (hsame | hobject) | hobject
  · exact .inl hsame
  · exact .inr hobject
  · exact .inr hobject

/-- A type that values are converted to: an enumeration or a built-in type. -/
def IsConverted (reg : Registry) (type : TypeHandle) : Prop :=
  (∃ info, reg.get type = some info ∧ info.kind = .enum) ∨
    type ∈ [TypeHandle.string, .int32, .int64, .float64, .bool]

/-- Other conversions than to these types fail. -/
theorem isConverted_of_convertTo {reg : Registry} {v r : Value} {type : TypeHandle}
    (h : reg.convertTo v type = some r) : reg.IsConverted type := by
  by_contra hnot
  simp only [IsConverted, List.mem_cons, List.not_mem_nil, or_false, not_or] at hnot
  obtain ⟨henum, hstring, hint32, hint64, hfloat64, hbool⟩ := hnot
  have htext : ∀ text, valueOfText text type = none := by
    intro text
    unfold valueOfText
    split <;> simp [hint32, hint64, hfloat64, hbool]
  have hnumber : ∀ number : Number, number.toType type = none := by
    intro number
    simp [Number.toType, hint32, hint64, hfloat64, hbool]
  obtain ⟨info, hinfo, h⟩ := Option.bind_eq_some_iff.mp h
  rw [if_neg fun hkind => henum ⟨info, hinfo, hkind⟩, if_neg hstring] at h
  split at h
  · simp [htext] at h
  · simp [hnumber] at h

end Registry

namespace World

variable {w : World} {v : Value}

/-- A value that fits a type fits all types that this one can be assigned to. -/
def Widens (w : World) (v : Value) : Prop :=
  ∀ type wider, w.registry.isAssignable wider type = true → (w.fit v type).isSome = true →
    (w.fit v wider).isSome = true

/-- A value of a type fits wherever the type can be assigned. -/
theorem fit_of_isAssignable {type actual : TypeHandle} (hactual : w.typeOf v = some actual)
    (h : w.registry.isAssignable type actual = true) : w.fit v type = some .direct := by
  simp [fit, hactual, h]

/-- A value that is converted is brought to an enumeration or a built-in type. -/
theorem isConverted_of_fit {type : TypeHandle} (h : w.fit v type = some .converted) :
    w.registry.IsConverted type := by
  obtain ⟨r, hr⟩ := convert_of_fit_converted h
  cases hactual : w.typeOf v with
  | none =>
      simp only [fit, hactual] at h
      split at h <;> cases h
  | some actual =>
      by_cases hassign : w.registry.isAssignable type actual = true
      · simp [fit, hactual, hassign] at h
      · simp only [convert, typeOf_opened_eq, hactual, Option.bind_eq_bind, Option.bind_some,
          if_neg hassign] at hr
        exact Registry.isConverted_of_convertTo hr

/-- A value widens when assignability goes on from its own type, and nothing but the root type lies
above the types that values are converted to. -/
theorem widens_of_outermost {actual : TypeHandle} (hactual : w.typeOf v = some actual)
    (htrans : ∀ type wider, w.registry.isAssignable type actual = true →
      w.registry.isAssignable wider type = true → w.registry.isAssignable wider actual = true)
    (houter : ∀ type, w.registry.IsConverted type → w.registry.Outermost type) :
    w.Widens v := by
  intro type wider hwider hfit
  obtain ⟨fit, hfit⟩ := Option.isSome_iff_exists.mp hfit
  cases fit with
  | direct =>
      have hassign : w.registry.isAssignable type actual = true := by
        by_contra hnot
        simp [World.fit, hactual, hnot] at hfit
      rw [fit_of_isAssignable hactual (htrans type wider hassign hwider)]
      rfl
  | converted =>
      obtain rfl | rfl := houter type (isConverted_of_fit hfit) wider hwider
      · rw [hfit]
        rfl
      · rw [fit_of_isAssignable hactual (w.registry.isAssignable_object actual)]
        rfl

end World

namespace Reflector

variable {w : World} {type : TypeHandle} {target : Option Value} {name : String}
  {values : List Value} {params others : List ParameterInfo} {flags : Flags}
  {listed : List (Declared MethodInfo)} {d : Declared MethodInfo} {found : Resolution}

/-! ### Two parameter lists and the same values -/

/-- Parameter lists of the same types accept the same values. -/
theorem accepted_congr (h : params.map (·.type) = others.map (·.type)) :
    Accepted w params values ↔ Accepted w others values := by
  have htypes : ∀ params : List ParameterInfo, Accepted w params values ↔
      List.Forall₂ (fun type v => (w.fit v type).isSome = true) (params.map (·.type)) values :=
    fun params => by rw [Accepted, List.forall₂_map_left_iff]
  rw [htypes, htypes, h]

/-- Values that fit parameters fit those that accept the parameters' types. -/
theorem accepted_of_accepts (hwidens : ∀ v ∈ values, w.Widens v)
    (hvalues : Accepted w params values)
    (haccepts : List.Forall₂ (w.registry.Accepts flags) others (params.map (·.type))) :
    Accepted w others values := by
  induction hvalues generalizing others with
  | nil =>
      cases haccepts
      exact .nil
  | @cons param v params values hfit _ ih =>
      cases haccepts with
      | @cons other _ others _ hother hrest =>
          refine .cons ?_ (ih (fun v hv => hwidens v (.tail _ hv)) hrest)
          obtain hsame | ⟨-, -, hassign⟩ := hother
          · rwa [hsame]
          · exact hwidens v List.mem_cons_self param.type other.type hassign hfit

/-! ### The first choice -/

/-- The flags of a call by values. -/
def valueFlags (target : Option Value) : Flags :=
  if target.isSome then Flags.instanceAnyVisibility else Flags.staticAnyVisibility

/-- The first listed method without type arguments that accepts the values. -/
def firstAccepting (w : World) (values : List Value) (listed : List (Declared MethodInfo)) :
    Option (Declared MethodInfo) :=
  listed.find? fun m => m.member.arity == 0 && (argumentsFor w values m.member.params).isSome

/-- The first accepting method has arguments of its declared types. -/
theorem argumentsFor_of_firstAccepting (h : firstAccepting w values listed = some d) :
    ∃ args, argumentsFor w values d.member.params = some (d.member.paramTypes, args) := by
  have hpasses := List.find?_some h
  simp only [Bool.and_eq_true] at hpasses
  obtain ⟨⟨types, args⟩, hargs⟩ := Option.isSome_iff_exists.mp hpasses.2
  obtain rfl := argumentsFor_types hargs
  exact ⟨args, hargs⟩

/-- The request that a call by values makes for a method. -/
def requestFor (type : TypeHandle) (target : Option Value) (name : String) (method : MethodInfo) :
    Signature :=
  .method type name method.paramTypes (valueFlags target)

/-- A call by values goes on with the arguments for the first accepting method. -/
theorem findSome?_argumentsFor (listed : List (Declared MethodInfo)) :
    ((listed.filter fun m => m.member.arity == 0).findSome? fun m =>
        argumentsFor w values m.member.params)
      = (firstAccepting w values listed).bind fun m => argumentsFor w values m.member.params := by
  induction listed with
  | nil => rfl
  | cons m rest ih =>
      unfold firstAccepting at ih ⊢
      rw [List.find?_cons]
      cases hplain : m.member.arity == 0 with
      | false => simp [hplain, ih]
      | true =>
          cases harguments : argumentsFor w values m.member.params with
          | none => simp [hplain, harguments, ih]
          | some found => simp [hplain, harguments]

/-- The names of a call by values are compared as they are. -/
theorem matchesName_valueFlags (target : Option Value) (member name : String) :
    (valueFlags target).matchesName member name = (member == name) := by
  have hcase : (valueFlags target).contains Flags.ignoreCase = false := by
    unfold valueFlags
    split <;> decide
  have hpart : (valueFlags target).contains Flags.partialNameMatch = false := by
    unfold valueFlags
    split <;> decide
  simp [Flags.matchesName, hcase, hpart, namesEqual]

/-- Resolution looks at the methods that are listed and take no type arguments. -/
theorem methodMatches_requestFor (method other : MethodInfo) :
    Resolver.methodMatches (requestFor type target name method) other =
      (Query.wantsMethod (valueFlags target) name other && other.arity == 0) := by
  have hskips : Query.skipsBacking (valueFlags target) = false := by
    unfold valueFlags
    split <;> decide
  have hname : (requestFor type target name method).flags.matchesName other.name
      (requestFor type target name method).nameText = (other.name == name) :=
    matchesName_valueFlags target other.name name
  simp only [Resolver.methodMatches, hname, Query.wantsMethod, hskips, Query.selects,
    matchesName_valueFlags, List.isEmpty_cons, List.any_cons, List.any_nil, Bool.false_and,
    Bool.not_false, Bool.and_true, Bool.or_false, Bool.false_or]
  rw [Bool.and_comm (other.name == name)]
  rfl

/-! ### The second choice -/

/-- A method that can be found in place of the chosen one: declared on a type of the chain, of the
name, without type arguments, and with parameters that accept the chosen one's types. -/
structure Rival (reg : Registry) (type : TypeHandle) (target : Option Value) (name : String)
    (chosen rival : MethodInfo) : Prop where
  declared : ∃ chain, reg.typeChain type (valueFlags target) = .ok chain ∧
    ∃ info ∈ chain, rival ∈ info.methods
  wanted : Query.wantsMethod (valueFlags target) name rival = true
  plain : rival.arity = 0
  accepts : List.Forall₂ (reg.Accepts (valueFlags target)) rival.params chosen.paramTypes

/-- Resolution by the types of the chosen method finds this method, or it finds a rival that the
list does not show: a listed method of the rival's name and types takes type arguments, or it
refuses the values. -/
theorem resolve_chosen_or_rival
    (hlisted : Query.methods w.registry type (valueFlags target) [name] = .ok listed)
    (hchosen : firstAccepting w values listed = some d)
    (hfound : Resolver.resolve w.registry (requestFor type target name d.member) = .ok found) :
    (∃ chain info index, w.registry.typeChain type (valueFlags target) = .ok chain ∧
      info ∈ chain ∧ d.declaring = info.handle ∧ info.methods[index]? = some d.member ∧
      found = ⟨.method ⟨d.declaring, index⟩, d.member.paramTypes, d.member.isStatic⟩) ∨
    ∃ rival, Rival w.registry type target name d.member rival ∧
      ∃ m ∈ listed, Query.hidesMethod m.member rival = true ∧
        (m.member.arity ≠ 0 ∨ ¬ Accepted w rival.params values) := by
  obtain ⟨chain, hchain, rfl⟩ := Query.methods_eq_ok_iff.mp hlisted
  obtain ⟨front, info, back, hsplit, hfront, hdeclaring, hmember, hwanted, haccepts⟩ :=
    Query.find?_collect rfl hchosen
  obtain ⟨chain', front', info', back', index', method', hchain', hsplit', hfront', hmethod',
    rfl⟩ := (Resolver.resolve_method_eq_ok_iff rfl).mp hfound
  obtain rfl : chain = chain' := Except.ok.inj (hchain.symm.trans hchain')
  -- The chosen method is one of those that resolution looks for, and exactly.
  simp only [Bool.and_eq_true] at haccepts
  obtain ⟨index, hindex⟩ := List.getElem?_of_mem hmember
  have hexact : ((index, d.member), true) ∈
      Resolver.accepting w.registry (requestFor type target name d.member) info := by
    refine Resolver.mem_accepting_iff.mpr ⟨hindex, ?_, w.registry.bindParams_self _ _⟩
    rw [methodMatches_requestFor, hwanted, haccepts.1]
    rfl
  rcases Resolver.split_cases (hsplit.symm.trans hsplit') with hpassed | hearlier | ⟨-, rfl⟩
  case inl =>
    -- A type with the chosen method is not passed by.
    rw [hfront' info hpassed] at hexact
    exact absurd hexact (by simp)
  case inr.inl =>
    -- What is found earlier on the chain is a rival, and the list has something in its place.
    right
    obtain ⟨exact, haccepting⟩ := Resolver.mem_accepting_of_chosen hmethod'
    obtain ⟨hindex', hmatches, hbind⟩ := Resolver.mem_accepting_iff.mp haccepting
    rw [methodMatches_requestFor, Bool.and_eq_true, beq_iff_eq] at hmatches
    have hrival : method' ∈ info'.methods := List.mem_of_getElem? hindex'
    refine ⟨method', ⟨⟨chain, hchain, info', by simp [hsplit'], hrival⟩, hmatches.1, hmatches.2,
      Registry.forall_accepts_of_bindParams hbind⟩, ?_⟩
    obtain ⟨m, hm, hhides⟩ : ∃ m ∈ Query.collect TypeInfo.methods
          (Query.wantsMethod (valueFlags target) name) Query.hidesMethod front [],
        Query.hidesMethod m.member method' = true :=
      Query.exists_hiding_collect (fun other => by simp [Query.hidesMethod]) hearlier hrival
        hmatches.1
    refine ⟨m, ?_, hhides, ?_⟩
    · rw [hsplit, Query.collect_append]
      exact (Query.prefix_collect _ _).subset hm
    · -- It was not taken, although it stands before the chosen one.
      simp only [Query.hidesMethod, Bool.and_eq_true, beq_iff_eq] at hhides
      have hrefuses := hfront m hm
      rw [← accepted_congr hhides.2, ← argumentsFor_isSome_iff]
      by_cases hplain : m.member.arity = 0
      · exact .inr (by simpa [hplain] using hrefuses)
      · exact .inl hplain
  case inr.inr =>
    left
    have hname : d.member.name = name := by
      simp only [Query.wantsMethod, Query.selects, matchesName_valueFlags, List.isEmpty_cons,
        List.any_cons, List.any_nil, Bool.false_or, Bool.or_false, Bool.and_eq_true,
        beq_iff_eq] at hwanted
      exact hwanted.2
    obtain ⟨rfl, rfl⟩ := Prod.mk.inj (Resolver.chosen_of_exact hmethod' hexact hname)
    exact ⟨chain, info, index, hchain, by simp [hsplit], hdeclaring, hindex, by rw [hdeclaring]⟩

/-- Resolution finds the chosen method again when no method with type arguments stands in the list
for one without, and the values widen. -/
theorem resolve_chosen (hkeyed : w.registry.Keyed)
    (hlisted : Query.methods w.registry type (valueFlags target) [name] = .ok listed)
    (hchosen : firstAccepting w values listed = some d)
    (hfound : Resolver.resolve w.registry (requestFor type target name d.member) = .ok found)
    (hplain : ∀ m ∈ listed, m.member.arity ≠ 0 → ∀ rival,
      Rival w.registry type target name d.member rival →
      Query.hidesMethod m.member rival = false)
    (hwidens : ∀ v ∈ values, w.Widens v) :
    ∃ index, found = ⟨.method ⟨d.declaring, index⟩, d.member.paramTypes, d.member.isStatic⟩ ∧
      w.registry.methodAt ⟨d.declaring, index⟩ = some d.member := by
  obtain ⟨args, hargs⟩ := argumentsFor_of_firstAccepting hchosen
  have haccepted : Accepted w d.member.params values :=
    argumentsFor_isSome_iff.mp (by simp [hargs])
  rcases resolve_chosen_or_rival hlisted hchosen hfound with
    ⟨chain, info, index, hchain, hmem, hdeclaring, hindex, hmember⟩ |
    ⟨rival, hrival, m, hm, hhides, hwhy⟩
  · refine ⟨index, hmember, ?_⟩
    have hinfo := Registry.get_of_typeChain hkeyed hchain hmem
    simp [Registry.methodAt, hdeclaring, hinfo, hindex]
  · exfalso
    rcases hwhy with hgeneric | hrefuses
    · simp [hplain m hm hgeneric rival hrival] at hhides
    · exact hrefuses (accepted_of_accepts hwidens haccepted hrival.accepts)

/-! ### The call -/

/-- The plan for a method without type arguments. -/
def planOf (reg : Registry) (ref : MethodRef) (method : MethodInfo) : CallPlan :=
  { dispatch := CallPlan.dispatchOf method, method := ref
    arguments := .ofParams reg method.params, callee := method.on ref.declaring, typeArgs := []
    writeBack := .store }

section

variable {reg : Registry} {ref : MethodRef} {method : MethodInfo} {self : Value}

/-- A static method runs its own body. -/
theorem body_planOf_static (h : method.isStatic = true) :
    (planOf reg ref method).body self w = (method.on ref.declaring).runStatic [] := by
  simp [planOf, CallPlan.body, CallPlan.dispatchOf, h]

/-- Another method runs the body that is chosen for the target. -/
theorem body_planOf_instance (h : method.isStatic = false) :
    (planOf reg ref method).body self w =
      ((planOf reg ref method).chosen self w).run self .store [] := by
  have hdispatch : (planOf reg ref method).dispatch ≠ .static := by
    rw [planOf, CallPlan.dispatchOf, h]
    split <;> simp_all
  unfold CallPlan.body
  split
  · next hstatic => exact absurd hstatic hdispatch
  · rfl

/-- That is its own one, unless the method is virtual and the target an object. -/
theorem chosen_planOf (h : method.isStatic = false)
    (hresolved : method.isVirtual = false ∨ CallPlan.runtimeType w self = none) :
    (planOf reg ref method).chosen self w = method.on ref.declaring := by
  unfold CallPlan.chosen CallPlan.replacement
  split
  · next slot hslot =>
      rcases hresolved with hplain | hnone
      · simp [planOf, CallPlan.dispatchOf, h, hplain] at hslot
      · simp [CallPlan.overrideFor, hnone, planOf]
  · rfl

/-- A resolved request for a method without type arguments is compiled to its plan. -/
theorem compile_planOf {sig : Signature} (hkeyed : reg.Keyed) (hkind : sig.kind = .method)
    (htypeArgs : sig.typeArgs = []) (hfound : Resolver.resolve reg sig = .ok found)
    (hmember : found.member = .method ref) (hmethod : reg.methodAt ref = some method) :
    Compiler.method.compile reg sig
      = (.ok ⟨sig.withResolution found, planOf reg ref method⟩, 1) := by
  obtain ⟨ref', info, method', plan, hmember', hinfo, hindex, -, -, hplan⟩ :=
    Resolver.prepare_of_resolved_method hkeyed hkind hfound
  obtain rfl : ref = ref' := MemberHandle.method.inj (hmember.symm.trans hmember')
  obtain rfl : method' = method := by simpa [Registry.methodAt, hinfo, hindex] using hmethod
  obtain ⟨_, _, hinfo', hindex', rfl⟩ := CallPlan.ofMethod_eq_ok hplan
  obtain rfl := Option.some.inj (hinfo.symm.trans hinfo')
  obtain rfl := Option.some.inj (hindex.symm.trans hindex')
  rw [htypeArgs] at hplan
  refine Compiler.compile_of_prepare rfl hfound ?_
  rw [hmember]
  show CallPlan.ofMethod reg ref sig.typeArgs .store = _
  rw [htypeArgs, hplan]
  rfl

end

/-- A call by values runs the accessor that is requested for the first accepting method. -/
theorem run_callWithValues {s : Session} {args : List Value}
    {prepared : Prepared CallPlan} {n : Nat}
    (hlisted : Query.methods s.world.registry type (valueFlags target) [name] = .ok listed)
    (hchosen : firstAccepting s.world values listed = some d)
    (hargs : argumentsFor s.world values d.member.params = some (d.member.paramTypes, args))
    (hcompile : Compiler.method.compile s.world.registry (requestFor type target name d.member)
      = (.ok prepared, n))
    (hfaithful : Faithful .method (requestFor type target name d.member) s) :
    ((callWithValues type target name values).run s).1
        = (prepared.action.invoke (target.getD .null) args s.world).1.1.mapError .invoke ∧
      ((callWithValues type target name values).run s).2.world
        = (prepared.action.invoke (target.getD .null) args s.world).2 := by
  have hfirst : ((listed.filter fun m => m.member.arity == 0).findSome? fun m =>
      argumentsFor s.world values m.member.params) = some (d.member.paramTypes, args) := by
    rw [findSome?_argumentsFor, hchosen]
    exact hargs
  have hmethod : (method type name d.member.paramTypes (some (valueFlags target))).run s
      = (request .method (requestFor type target name d.member)).run s := rfl
  obtain ⟨call, next, hrequest, rfl, hworld⟩ := run_request_of_compile hfaithful hcompile
  have hflags : (if target.isSome then Flags.instanceAnyVisibility
      else Flags.staticAnyVisibility) = valueFlags target := rfl
  unfold callWithValues
  simp only [run_bind, run_get, run_ofRegistry, hflags, hlisted, hfirst, hmethod, hrequest,
    run_use, run_invoke, hworld, and_self]

/-- A call by values runs the method that was chosen. Say the list of methods of a name has a first
one without type arguments that accepts the values, and the request by its parameter types is
resolved. If no method with type arguments stands in the list for one without, and each value fits
all types that are wider than one it fits, then the resolved method is the chosen one. The values
are brought to its parameter types, marshalled by its parameters, and handed

* to its own body, if the method is static or not virtual, or the target is no object, and
* to the body of the nearest override, if the method is virtual and the target is an object of a
  type that derives from the declaring one, in a registry that was assembled base types first.

The accessor that is kept for the request, if there is one, was compiled from the same types, as in
every steady session (`Steady.faithful`). -/
theorem callWithValues_runs_chosen {s : Session} (hkeyed : s.world.registry.Keyed)
    (hlisted : Query.methods s.world.registry type (valueFlags target) [name] = .ok listed)
    (hchosen : firstAccepting s.world values listed = some d)
    (hfound : Resolver.resolve s.world.registry (requestFor type target name d.member) = .ok found)
    (hplain : ∀ m ∈ listed, m.member.arity ≠ 0 → ∀ rival,
      Rival s.world.registry type target name d.member rival →
      Query.hidesMethod m.member rival = false)
    (hwidens : ∀ v ∈ values, s.world.Widens v)
    (hfaithful : Faithful .method (requestFor type target name d.member) s) :
    ∃ ref args body,
      found = ⟨.method ref, d.member.paramTypes, d.member.isStatic⟩ ∧
      ref.declaring = d.declaring ∧ s.world.registry.methodAt ref = some d.member ∧
      argumentsFor s.world values d.member.params = some (d.member.paramTypes, args) ∧
      ((callWithValues type target name values).run s).1 =
        ((ArgPlan.ofParams s.world.registry d.member.params).call args s.world body).1.1.mapError
          .invoke ∧
      ((callWithValues type target name values).run s).2.world =
        ((ArgPlan.ofParams s.world.registry d.member.params).call args s.world body).2 ∧
      (d.member.isStatic = true → body = (d.member.on d.declaring).runStatic []) ∧
      (d.member.isStatic = false →
        d.member.isVirtual = false ∨ CallPlan.runtimeType s.world (target.getD .null) = none →
        body = (d.member.on d.declaring).run (target.getD .null) .store []) ∧
      ∀ object, d.member.dispatches = true →
        s.world.opened (target.getD .null) = .object object → s.world.registry.Assembled →
        s.world.registry.DerivesFrom object.type d.declaring →
        ∃ nearest override, s.world.registry.Nearest d.member object.type nearest ∧
          s.world.registry.methodAt nearest = some override ∧
          body = (override.on nearest.declaring).run (target.getD .null) .store [] := by
  obtain ⟨index, rfl, hmethodAt⟩ :=
    resolve_chosen hkeyed hlisted hchosen hfound hplain hwidens
  obtain ⟨args, hargs⟩ := argumentsFor_of_firstAccepting hchosen
  have hcompile := compile_planOf hkeyed rfl rfl hfound rfl hmethodAt
  obtain ⟨hresult, hworld⟩ := run_callWithValues hlisted hchosen hargs hcompile hfaithful
  rw [CallPlan.invoke_eq_call] at hresult hworld
  refine ⟨_, args, _, rfl, rfl, hmethodAt, hargs, hresult, hworld, body_planOf_static,
    fun hinstance hresolved => ?resolved, fun object hvirtual hobject hassembled hderives =>
    ?override⟩
  case resolved => rw [body_planOf_instance hinstance, chosen_planOf hinstance hresolved]
  case override =>
    obtain ⟨nearest, override, hnearest, hoverride, -, hbody⟩ := CallPlan.chosen_nearest hassembled
      .refl hcompile hmethodAt hvirtual hobject hderives
    have hinstance : d.member.isStatic = false := by
      simp only [MethodInfo.dispatches, Bool.and_eq_true, Bool.not_eq_true'] at hvirtual
      exact hvirtual.2
    refine ⟨nearest, override, hnearest, hoverride, ?_⟩
    rw [body_planOf_instance hinstance]
    exact congrArg (·.run (target.getD .null) .store []) hbody

/-- A sign shows a text or a width. -/
def signBlueprint : Blueprint :=
  ((Blueprint.reference "Sign").withMethod
    (MethodInfo.reading "Sign" "Show" [.byValue "text" .string] .string
      (pure (.string "sign"))).asVirtual).withMethod
    (MethodInfo.reading "Sign" "Show" [.byValue "width" .int32] .string (pure (.string "blank")))

/-- The type of signs. -/
def sign : TypeHandle × Registry := Registry.initial.declare (.described "Sign") signBlueprint

/-- A neon sign shows a text in its own way. -/
def neon : TypeHandle × Registry :=
  sign.2.declare (.described "Neon") <|
    ((Blueprint.reference "Neon").extending "Neon" sign.1).withMethod
      (MethodInfo.reading "Neon" "Show" [.byValue "text" .string] .string
        (pure (.string "neon"))).asVirtual

/-- A neon sign. -/
def lit : World :=
  { World.ofRegistry neon.2 with objects := #[.mk "Neon" (some (.mk "Sign" none [])) []] }

/-- Both types are declared one after the other. -/
theorem assembled_neon : neon.2.Assembled := by
  refine .trans (b := sign.2) ?sign ?neon
  case sign =>
    refine Registry.builds_declare rfl rfl ⟨fun base hbase => ?_, rfl, ?_⟩
    · cases hbase
    · -- Only the first method is virtual.
      have honly : ∀ {i : Nat} {method : MethodInfo}, signBlueprint.methods[i]? = some method →
          method.dispatches = true → i = 0 := by
        intro i method hmethod hvirtual
        match i with
        | 0 => rfl
        | 1 =>
            obtain rfl := Option.some.inj hmethod
            cases hvirtual
        | i + 2 => cases hmethod
      intro i j method other hmethod hother hvirtual hvirtual' _
      rw [honly hmethod hvirtual, honly hother hvirtual']
  case neon =>
    refine Registry.builds_declare rfl rfl (CallPlan.orderly_of_one_method ?_ rfl rfl)
    intro base hbase
    obtain rfl : sign.1 = base := Option.some.inj hbase
    rfl

/-- The root type is the only one above a built-in type in this world. -/
theorem outermost_lit {type : TypeHandle} (hbase : lit.registry.baseOf type = some .object) :
    lit.registry.Outermost type :=
  Registry.outermost_of_baseOf ⟨_, rfl, rfl, rfl⟩ (by decide) hbase

/-- A number fits every type that is wider than one it fits. -/
theorem widens_number : lit.Widens (.int32 5) := by
  have hroot : lit.registry.Rooted := ⟨_, rfl, rfl, rfl⟩
  have hnumber : lit.typeOf (.int32 5) = some .int32 := rfl
  refine World.widens_of_outermost hnumber ?_ ?_
  · intro type wider htype hwider
    obtain rfl | rfl := outermost_lit rfl type htype
    · exact hwider
    · rw [hroot.isAssignable_object_iff.mp hwider]
      rfl
  · rintro type (⟨info, hinfo, henum⟩ | hbuiltin)
    · obtain ⟨front, back, htypes, -⟩ := List.lookup_eq_some_iff.mp hinfo
      have hkinds : ∀ entry ∈ lit.registry.types, entry.2.kind ≠ .enum := by decide
      exact absurd henum (hkinds (type, info) (by simp [htypes]))
    · refine outermost_lit ?_
      simp only [List.mem_cons, List.not_mem_nil, or_false] at hbuiltin
      rcases hbuiltin with rfl | rfl | rfl | rfl | rfl <;> rfl

/-- Shown on a neon sign, a number is turned into a text, and the override runs. -/
theorem callWithValues_runs_chosen_neon :
    ∃ listed d found ref args body,
      lit.registry.Keyed ∧ lit.registry.Assembled ∧
      Query.methods lit.registry sign.1 (valueFlags (some (.object ⟨0, neon.1⟩))) ["Show"]
        = .ok listed ∧
      firstAccepting lit [.int32 5] listed = some d ∧
      Resolver.resolve lit.registry
        (requestFor sign.1 (some (.object ⟨0, neon.1⟩)) "Show" d.member) = .ok found ∧
      (∀ v ∈ [Value.int32 5], lit.Widens v) ∧
      lit.registry.DerivesFrom neon.1 d.declaring ∧
      found = ⟨.method ref, d.member.paramTypes, d.member.isStatic⟩ ∧
      ref = ⟨sign.1, 0⟩ ∧
      argumentsFor lit [.int32 5] d.member.params = some (d.member.paramTypes, args) ∧
      args = [.string "5"] ∧
      ((callWithValues sign.1 (some (.object ⟨0, neon.1⟩)) "Show" [.int32 5]).run
        ⟨lit, .standard⟩).1 =
        ((ArgPlan.ofParams lit.registry d.member.params).call args lit body).1.1.mapError
          .invoke ∧
      ∃ nearest override, lit.registry.Nearest d.member neon.1 nearest ∧
        lit.registry.methodAt nearest = some override ∧
        body = (override.on nearest.declaring).run (.object ⟨0, neon.1⟩) .store [] := by
  have hkeyed : lit.registry.Keyed :=
    Registry.keyed_declare (Registry.keyed_declare Registry.keyed_initial _ _) _ _
  obtain ⟨listed, d, found, hlisted, hnoGeneric, hchosen, hfound, hdeclaring, hvirtual, hindex,
      hargs⟩ : ∃ listed d found,
        Query.methods lit.registry sign.1 (valueFlags (some (.object ⟨0, neon.1⟩))) ["Show"]
          = .ok listed ∧
        (∀ m ∈ listed, m.member.arity = 0) ∧
        firstAccepting lit [.int32 5] listed = some d ∧
        Resolver.resolve lit.registry
          (requestFor sign.1 (some (.object ⟨0, neon.1⟩)) "Show" d.member) = .ok found ∧
        d.declaring = sign.1 ∧ d.member.dispatches = true ∧ found.member = .method ⟨sign.1, 0⟩ ∧
        argumentsFor lit [.int32 5] d.member.params
          = some (d.member.paramTypes, [.string "5"]) := by
    refine ⟨_, _, _, rfl, ?_, rfl, rfl, rfl, rfl, rfl, rfl⟩
    decide
  have hwidens : ∀ v ∈ [Value.int32 5], lit.Widens v := by simpa using widens_number
  have hderives : lit.registry.DerivesFrom neon.1 d.declaring := by
    rw [hdeclaring]
    exact .single rfl
  obtain ⟨ref, args, body, hmember, -, -, hargs', hresult, -, -, -, hoverride⟩ :=
    callWithValues_runs_chosen (s := ⟨lit, .standard⟩) hkeyed hlisted hchosen hfound
      (fun m hm hgeneric => absurd (hnoGeneric m hm) hgeneric) hwidens
      ((Steady.start lit _ _ _).faithful
        (.callMethod sign.1 "Show" d.member.paramTypes [] Flags.instanceAnyVisibility))
  obtain rfl : ref = ⟨sign.1, 0⟩ := by simpa [hmember] using hindex
  obtain rfl : args = [.string "5"] := by simpa [hargs] using hargs'.symm
  obtain ⟨nearest, override, hnearest, hmethod, hbody⟩ :=
    hoverride ⟨0, neon.1⟩ hvirtual rfl assembled_neon hderives
  exact ⟨listed, d, found, _, _, body, hkeyed, assembled_neon, hlisted, hchosen, hfound, hwidens,
    hderives, hmember, rfl, hargs', rfl, hresult, nearest, override, hnearest, hmethod, hbody⟩

/-- The sample type that is described before its base type has a dispatch table. -/
def child : TypeHandle := (Sample.registry.natives.lookup (.described "Child")).getD .unregistered

/-- The base type of this one. -/
def parent : TypeHandle := (Sample.registry.natives.lookup (.described "Parent")).getD .unregistered

/-- A world with an object of the derived type. -/
def nursery : World :=
  { Sample.world with
    objects := #[(Sample.fresh "Child").setBase ((Sample.fresh "Parent").set "tag" (.ofText "t"))] }

/-- The text that a call ends with. -/
def answered {ε : Type} (result : Except ε Value) : Option String :=
  match result with
  | .ok (.string text) => some text
  | _ => none

/-- The derived type does not override a method of its base, and the base's method is chosen and
found. Its slot in the derived type's dispatch table holds another method, which runs instead. -/
theorem first_runs_who :
    ∃ listed d found info,
      Query.methods nursery.registry child (valueFlags (some (.object ⟨0, child⟩))) ["First"]
        = .ok listed ∧
      firstAccepting nursery [] listed = some d ∧
      Resolver.resolve nursery.registry
        (requestFor child (some (.object ⟨0, child⟩)) "First" d.member) = .ok found ∧
      found.member = .method ⟨parent, 0⟩ ∧ d.declaring = parent ∧
      answered ((d.member.on parent).run (.object ⟨0, child⟩) .store [] [] nursery).1.1
        = some "Parent.First t" ∧
      nursery.registry.get child = some info ∧ (∀ m ∈ info.methods, m.name ≠ d.member.name) ∧
      answered ((callWithValues child (some (.object ⟨0, child⟩)) "First" []).run
        ⟨nursery, .standard⟩).1 = some "Child.Who t" := by
  have hchoice : ((Query.methods nursery.registry child
        (valueFlags (some (.object ⟨0, child⟩))) ["First"]).toOption.bind fun listed =>
      (firstAccepting nursery [] listed).bind fun d =>
      (Resolver.resolve nursery.registry
        (requestFor child (some (.object ⟨0, child⟩)) "First" d.member)).toOption.map fun found =>
      (found.member, d.declaring, d.member.name,
        answered ((d.member.on parent).run (.object ⟨0, child⟩) .store [] [] nursery).1.1))
      = some (.method ⟨parent, 0⟩, parent, "First", some "Parent.First t") := by
    decide +kernel
  have hnames : (nursery.registry.get child).map (·.methods.map (·.name)) = some ["Who"] := by
    decide +kernel
  have hcall : answered ((callWithValues child (some (.object ⟨0, child⟩)) "First" []).run
      ⟨nursery, .standard⟩).1 = some "Child.Who t" := by
    decide +kernel
  obtain ⟨listed, hlisted, hchoice⟩ := Option.bind_eq_some_iff.mp hchoice
  obtain ⟨d, hchosen, hchoice⟩ := Option.bind_eq_some_iff.mp hchoice
  obtain ⟨found, hfound, hchoice⟩ := Option.map_eq_some_iff.mp hchoice
  obtain ⟨info, hinfo, hnames⟩ := Option.map_eq_some_iff.mp hnames
  simp only [Prod.mk.injEq] at hchoice
  obtain ⟨hmember, hdeclaring, hname, hsaid⟩ := hchoice
  refine ⟨listed, d, found, info, ok_of_toOption hlisted, hchosen, ok_of_toOption hfound, hmember,
    hdeclaring, hsaid, hinfo, fun m hm heq => ?_, hcall⟩
  have hmem : m.name ∈ info.methods.map (·.name) := List.mem_map_of_mem hm
  rw [hnames, heq, hname] at hmem
  simp at hmem

end Reflector

end Introspect
