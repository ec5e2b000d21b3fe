import Introspect.Proofs.Accessor.Compiled
import Introspect.Proofs.Registry.Root
import Introspect.Proofs.Resolver.Binding
import Introspect.Proofs.World.Cast
import Introspect.Shortcut

/-!
# `Introspect.Proofs.Accessor.Marshalling`: resolution and marshalling agree

A call on values asks for a member by the runtime types of its arguments, where null counts as the
root type (`World.requestedType`). Resolution then compares types, and marshalling converts values.
`localOf_eq_ok` says that the two agree on one argument: what a parameter accepts by type, it is
handed by value, inside cells or not. `copyIn_eq_ok` says so for a whole parameter list.

`resolved_calls_marshal` is the main result. Whatever method or declared constructor a request by
the types of values is resolved to, the accessor can be prepared, the values are marshalled, and a
call ends as its body does on the locals. So the engine itself never complains about the number or
the types of the arguments.
-/

set_option autoImplicit false

namespace Introspect

namespace World

variable {w : World}

/-- The type that an argument asks for. Null stands for any object. -/
def requestedType (w : World) (v : Value) : TypeHandle := (w.typeOf v).getD .object

/-- The types of a call are those that its arguments ask for. -/
theorem argumentTypes_run (args : List Value) (s : Session) :
    (Reflector.argumentTypes args).run.run s = (.ok (args.map s.world.requestedType), s) := rfl

/-- A value is converted to every type that accepts the type it asks for. -/
theorem cast_of_isAssignable (hrooted : w.registry.Rooted) {v : Value} {type : TypeHandle}
    (h : w.registry.isAssignable type (w.requestedType v) = true) :
    ∃ r, w.cast v type = .ok r := by
  by_cases htype : type = .object
  · exact ⟨v, by simp [cast, htype]⟩
  · refine ⟨w.opened v, (cast_eq_ok_iff htype).mpr ⟨rfl, .inr ?_⟩⟩
    rw [typeOf_opened_eq]
    cases hactual : w.typeOf v with
    | some actual =>
        rw [requestedType, hactual] at h
        exact ⟨actual, rfl, h⟩
    | none =>
        -- Null asks for the root type, which no other type accepts.
        rw [requestedType, hactual] at h
        exact absurd (hrooted.isAssignable_object_iff.mp h) htype

end World

namespace ArgPlan

variable {w : World} {flags : Flags} {params : List ParameterInfo} {args : List Value}

/-- What a parameter accepts by type, it is handed by value. -/
theorem localOf_eq_ok (hrooted : w.registry.Rooted) {param : ParameterInfo} {arg : Value}
    (h : w.registry.Accepts flags param (w.requestedType arg)) (start : Value) :
    ∃ found, localOf w ⟨param.type, param.mode, start⟩ arg = .ok found := by
  have hassign : w.registry.isAssignable param.type (w.requestedType arg) = true := by
    obtain hsame | ⟨-, -, hassign⟩ := h
    · exact hsame ▸ w.registry.isAssignable_refl param.type
    · exact hassign
  cases hmode : param.mode with
  | out => exact ⟨start, rfl⟩
  | byValue => exact World.cast_of_isAssignable hrooted hassign
  | byRef =>
      -- The cell of the argument is opened first, which does not change the type.
      have hopened : w.requestedType (w.opened arg) = w.requestedType arg := by
        simp only [World.requestedType, World.typeOf_opened_eq]
      rw [← hopened] at hassign
      exact World.cast_of_isAssignable hrooted hassign

/-- Arguments whose types the parameters accept are marshalled. -/
theorem copyIn_eq_ok (hrooted : w.registry.Rooted)
    (h : List.Forall₂ (w.registry.Accepts flags) params (args.map w.requestedType)) :
    ∃ locals, (ofParams w.registry params).copyIn w args = .ok locals := by
  have hall : ∃ locals, localsOf w (ofParams w.registry params).slots args = .ok locals := by
    induction params generalizing args with
    | nil => exact ⟨[], by cases args <;> rfl⟩
    | cons param rest ih =>
        cases args with
        | nil => exact ⟨[], rfl⟩
        | cons arg others =>
            cases h with
            | cons hfirst hothers =>
                obtain ⟨first, hfirst⟩ := localOf_eq_ok hrooted hfirst
                  (if param.mode = .out then w.registry.zeroOf param.type else .null)
                obtain ⟨locals, hlocals⟩ := ih hothers
                refine ⟨first :: locals, ?_⟩
                simp only [ofParams, List.map_cons, localsOf, hfirst] at hlocals ⊢
                rw [hlocals]
                rfl
  have hcount : args.length = (ofParams w.registry params).slots.length := by
    simpa [ofParams] using h.length_eq.symm
  obtain ⟨locals, hlocals⟩ := hall
  exact ⟨locals, by simp only [copyIn, hcount, ne_eq, not_true_eq_false, if_false, hlocals]⟩

/-- The result of a call on marshalled arguments is that of its body. -/
theorem call_result {α : Type} {plan : ArgPlan} {locals : List Value} {body : LocalsBody α}
    (hin : plan.copyIn w args = .ok locals) :
    (plan.call args w body).1.1 = (body locals w).1.1 := by
  cases hbody : body locals w with
  | mk answer after =>
      obtain ⟨result, final⟩ := answer
      cases result <;> simp only [call, hin, hbody]

end ArgPlan

/-! ### Calls of what was resolved -/

/-- The code that a call runs on its locals: the body that was chosen for the target, behind the
access to the target. -/
def CallPlan.body (plan : CallPlan) (target : Value) (w : World) : LocalsBody Value :=
  match plan.dispatch with
  | .static => plan.callee.runStatic plan.typeArgs
  | _ => (plan.chosen target w).run target plan.writeBack plan.typeArgs

/-- A call marshals the arguments for its body. -/
theorem CallPlan.invoke_eq_call (plan : CallPlan) (target : Value) (args : List Value) (w : World) :
    plan.invoke target args w = plan.arguments.call args w (plan.body target w) := by
  unfold body
  cases hdispatch : plan.dispatch with
  | static => simp only [invoke, hdispatch]
  | _ => exact invoke_chosen (by simp [hdispatch]) target args w

/-- An accessor is compiled when its request is resolved and the member can be prepared. -/
theorem Compiler.compile_of_prepare {β : Type} {compiler : Compiler β} {reg : Registry}
    {sig : Signature} {found : Resolution} {action : β} (hdirection : compiler.direction = none)
    (hfound : Resolver.resolve reg sig = .ok found)
    (hprepare : compiler.prepare reg (sig.withResolution found) found.member = .ok action) :
    compiler.compile reg sig = (.ok ⟨sig.withResolution found, action⟩, 1) := by
  simp only [compile, checkDirection, hdirection, hfound, hprepare, Except.map]

namespace Resolver

variable {reg : Registry} {sig : Signature}

/-- A method that a request was resolved to is found again under its reference, accepts the
requested types, and can be called. -/
theorem prepare_of_resolved_method (hkeyed : reg.Keyed) (hkind : sig.kind = .method)
    {found : Resolution} (hfound : resolve reg sig = .ok found) :
    ∃ ref info method plan, found.member = .method ref ∧ reg.get ref.declaring = some info ∧
      info.methods[ref.index]? = some method ∧
      List.Forall₂ (reg.Accepts sig.flags) method.params sig.params ∧
      plan.arguments = .ofParams reg method.params ∧
      CallPlan.ofMethod reg ref sig.typeArgs .store = .ok plan := by
  obtain ⟨chain, front, info, back, index, method, hchain, hsplit, -, hchosen, rfl⟩ :=
    (resolve_method_eq_ok_iff hkind).mp hfound
  obtain ⟨exact, haccepting⟩ := mem_accepting_of_chosen hchosen
  obtain ⟨hmethod, hmatches, hbind⟩ := mem_accepting_iff.mp haccepting
  have hinfo : reg.get info.handle = some info :=
    Registry.get_of_typeChain hkeyed hchain (by simp [hsplit])
  have harity : method.arity = sig.typeArgs.length := by
    simp only [methodMatches, Bool.and_eq_true, beq_iff_eq] at hmatches
    exact hmatches.2
  cases hplan : CallPlan.ofMethod reg ⟨info.handle, index⟩ sig.typeArgs .store with
  | error e =>
      simp [CallPlan.ofMethod, Registry.info, hinfo, hmethod, harity, bind, Except.bind, pure,
        Except.pure] at hplan
  | ok plan =>
      obtain ⟨_, _, hinfo', hmethod', rfl⟩ := CallPlan.ofMethod_eq_ok hplan
      obtain rfl := Option.some.inj (hinfo.symm.trans hinfo')
      obtain rfl := Option.some.inj (hmethod.symm.trans hmethod')
      exact ⟨_, info, method, _, rfl, hinfo, hmethod,
        Registry.forall_accepts_of_bindParams hbind, rfl, hplan⟩

/-- A declared constructor that a request was resolved to is found again at its position, accepts
the requested types, and can be run. -/
theorem prepare_of_resolved_constructor (hkind : sig.kind = .constructor) {found : Resolution}
    (hfound : resolve reg sig = .ok found) {declaring : TypeHandle} {index : Nat}
    (hmember : found.member = .constructor declaring index) :
    ∃ info ctor, reg.get declaring = some info ∧ info.constructors[index]? = some ctor ∧
      List.Forall₂ (reg.Accepts sig.flags) ctor.params sig.params ∧
      Creator.ofMember reg found.member
        = .ok (.declared (.ofParams reg ctor.params) ctor.body) := by
  obtain ⟨info, hinfo, ⟨-, -, element, rfl⟩ | ⟨-, -, rfl⟩ | hdeclared⟩ :=
    resolve_constructor_eq_ok hkind hfound
  · cases hmember
  · cases hmember
  · obtain ⟨index', ctor, exact, rfl, hone⟩ := declaredConstructor_eq_ok hdeclared
    obtain ⟨rfl, rfl⟩ : sig.target = declaring ∧ index' = index := by
      injection hmember with htarget hindex
      exact ⟨htarget, hindex⟩
    have hmem : ((index', ctor), exact) ∈ acceptingConstructors reg sig info := by
      obtain hall | hexact := hone
      · simp [hall]
      · exact (List.mem_filter.mp (hexact ▸ List.mem_cons_self)).1
    obtain ⟨hctor, -, hbind⟩ := mem_acceptingConstructors_iff.mp hmem
    refine ⟨info, ctor, hinfo, hctor, Registry.forall_accepts_of_bindParams hbind, ?_⟩
    simp [Creator.ofMember, Registry.info, hinfo, hctor, bind, Except.bind, pure, Except.pure]

/-- Take a request for a method or constructor by the types of values, which is resolved. These are
the types that a call on the values requests. Then the accessor for the member is prepared from its
declared parameters, and the values are marshalled for them. A call of a method, on whatever target,
and the creation of an instance end as the body does on the locals, access to the target
included. -/
theorem resolved_calls_marshal {w : World} {sig : Signature} {args : List Value}
    {found : Resolution} (hkeyed : w.registry.Keyed) (hrooted : w.registry.Rooted)
    (hparams : sig.params = args.map w.requestedType)
    (hfound : resolve w.registry sig = .ok found) :
    (∀ reflector, (Reflector.argumentTypes args).run.run ⟨w, reflector⟩
      = (.ok sig.params, ⟨w, reflector⟩)) ∧
    (sig.kind = .method → ∃ ref info method plan locals,
      found.member = .method ref ∧ w.registry.get ref.declaring = some info ∧
      info.methods[ref.index]? = some method ∧
      (ArgPlan.ofParams w.registry method.params).copyIn w args = .ok locals ∧
      Compiler.method.compile w.registry sig = (.ok ⟨sig.withResolution found, plan⟩, 1) ∧
      ∀ target, (plan.invoke target args w).1.1 = (plan.body target w locals w).1.1) ∧
    (sig.kind = .constructor → ∀ declaring index,
      found.member = .constructor declaring index → ∃ info ctor creator locals,
      w.registry.get declaring = some info ∧ info.constructors[index]? = some ctor ∧
      (ArgPlan.ofParams w.registry ctor.params).copyIn w args = .ok locals ∧
      Compiler.constructor.compile w.registry sig = (.ok ⟨sig.withResolution found, creator⟩, 1) ∧
      (creator.run args w).1.1 = ((ctor.body locals).run w).1.1) := by
  refine ⟨?types, ?method, ?constructor⟩
  case types =>
    intro reflector
    rw [World.argumentTypes_run, hparams]
  case method =>
    intro hkind
    obtain ⟨ref, info, method, plan, hmember, hinfo, hmethod, haccepts, harguments, hplan⟩ :=
      prepare_of_resolved_method hkeyed hkind hfound
    rw [hparams] at haccepts
    obtain ⟨locals, hin⟩ := ArgPlan.copyIn_eq_ok hrooted haccepts
    refine ⟨ref, info, method, plan, locals, hmember, hinfo, hmethod, hin, ?compile, ?invoke⟩
    case compile =>
      refine Compiler.compile_of_prepare rfl hfound ?_
      rw [hmember]
      exact hplan
    case invoke =>
      intro target
      rw [CallPlan.invoke_eq_call, harguments]
      exact ArgPlan.call_result hin
  case constructor =>
    intro hkind declaring index hmember
    obtain ⟨info, ctor, hinfo, hctor, haccepts, hcreator⟩ :=
      prepare_of_resolved_constructor hkind hfound hmember
    rw [hparams] at haccepts
    obtain ⟨locals, hin⟩ := ArgPlan.copyIn_eq_ok hrooted haccepts
    exact ⟨info, ctor, _, locals, hinfo, hctor, hin,
      Compiler.compile_of_prepare rfl hfound hcreator, ArgPlan.call_result hin⟩

/-- The parameters of a method: a number by reference, any object, and a text. -/
def weighed : List ParameterInfo :=
  [.byRef "count" .int32, .byValue "load" .object, .byValue "label" .string]

/-- A type with this method. -/
def scale : TypeHandle × Registry :=
  Registry.initial.declare (.described "Scale") <| (Blueprint.reference "Scale").withMethod
    (.static "Weigh" weighed .string (pure (.string "weighed")))

/-- A number inside two cells, and a text in a cell. -/
def weights : World :=
  { World.ofRegistry scale.2 with cells := #[.cell ⟨1⟩, .int32 5, .string "kg"] }

/-- The method is found by the types of these values and of null, and runs on their contents. -/
theorem resolved_calls_marshal_scale :
    ∃ (found : Resolution) (plan : CallPlan) (locals : List Value),
      weights.registry.Keyed ∧ weights.registry.Rooted ∧
      resolve weights.registry (.method scale.1 "Weigh"
        ([.cell ⟨0⟩, .null, .cell ⟨2⟩].map weights.requestedType) Flags.staticPublic) = .ok found ∧
      (ArgPlan.ofParams weights.registry weighed).copyIn weights [.cell ⟨0⟩, .null, .cell ⟨2⟩]
        = .ok locals ∧
      locals = [.int32 5, .null, .string "kg"] ∧
      (plan.invoke .null [.cell ⟨0⟩, .null, .cell ⟨2⟩] weights).1.1
        = (plan.body .null weights locals weights).1.1 := by
  have hkeyed : weights.registry.Keyed := Registry.keyed_declare Registry.keyed_initial _ _
  have hrooted : weights.registry.Rooted :=
    Registry.rooted_declare Registry.rootSafe_initial _ _ (by decide)
  obtain ⟨found, hfound, hmember⟩ : ∃ found, resolve weights.registry (.method scale.1 "Weigh"
      ([.cell ⟨0⟩, .null, .cell ⟨2⟩].map weights.requestedType) Flags.staticPublic) = .ok found ∧
      found.member = .method ⟨scale.1, 0⟩ := ⟨_, rfl, rfl⟩
  obtain ⟨ref, info, method, plan, locals, hmethod, hinfo, hindex, hin, -, hcall⟩ :=
    (resolved_calls_marshal hkeyed hrooted rfl hfound).2.1 rfl
  obtain rfl : ref = ⟨scale.1, 0⟩ := by simpa [hmember] using hmethod.symm
  have hparams : method.params = weighed := by
    obtain rfl := Option.some.inj hinfo
    obtain rfl := Option.some.inj hindex
    rfl
  rw [hparams] at hin
  exact ⟨found, plan, locals, hkeyed, hrooted, hfound, hin, (Except.ok.inj hin).symm, hcall .null⟩

end Resolver

end Introspect
