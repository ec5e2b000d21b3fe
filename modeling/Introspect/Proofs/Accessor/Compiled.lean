import Introspect.Accessor
import Introspect.Proofs.Accessor.Target

/-!
# `Introspect.Proofs.Accessor.Compiled`: uses of compiled accessors

An `Access` is one use of an accessor of a field, a property or a method, with the values that go
in. `Access.Compiled` says that the accessor was compiled for a request, and which type declares the
member that was found. `compile_eq_ok` and `CallPlan.ofMethod_eq_ok` say what a successful
compilation has looked up.

The code of a member works on the part of the target that belongs to the declaring type:
`Access.Compiled.owner_eq`. A virtual call may replace that code, and the type with it;
`Access.replacement` is what it is replaced by.
-/

set_option autoImplicit false

namespace Introspect

/-- The type that declares the code of a resolved field, property or method. A property works
through an accessor method, so the type that declares that method counts. -/
def MemberHandle.declaring? : MemberHandle → Option TypeHandle
  | .field declaring _ => some declaring
  | .property _ _ accessor => some accessor.declaring
  | .method ref => some ref.declaring
  | _ => none

/-- The type that declares the code of the resolved member. -/
def Signature.declaring? (sig : Signature) : Option TypeHandle :=
  sig.resolution.bind (·.member.declaring?)

namespace CallPlan

/-- How the body of a resolved method is chosen. -/
def dispatchOf (method : MethodInfo) : Dispatch :=
  match method.isStatic, method.isVirtual, method.slot with
  | true, _, _ => .static
  | false, true, some slot => .virtual slot
  | false, _, _ => .direct

/-- A call plan is made from a published method, taken as it is. -/
theorem ofMethod_eq_ok {reg : Registry} {ref : MethodRef} {typeArgs : List TypeHandle}
    {writeBack : WriteBack} {plan : CallPlan} (h : ofMethod reg ref typeArgs writeBack = .ok plan) :
    ∃ info method, reg.get ref.declaring = some info ∧ info.methods[ref.index]? = some method ∧
      plan = { dispatch := dispatchOf method, method := ref,
               arguments := .ofParams reg method.params,
               callee := ⟨ref.declaring, method.body, method.mutates⟩, typeArgs, writeBack } := by
  simp only [ofMethod, Registry.info, bind, Except.bind] at h
  cases hinfo : reg.get ref.declaring with
  | none => simp [hinfo] at h
  | some info =>
      cases hmethod : info.methods[ref.index]? with
      | none => simp [hinfo, hmethod, throw, throwThe, MonadExceptOf.throw] at h
      | some method =>
          simp only [hinfo, hmethod] at h
          split at h
          · simp [throw, throwThe, MonadExceptOf.throw] at h
          · simp only [pure, Except.pure, Except.ok.injEq] at h
            exact ⟨info, method, rfl, hmethod, h.symm⟩

end CallPlan

/-- What is left of a result without its failure is the result. -/
theorem ok_of_toOption {ε α : Type} {result : Except ε α} {a : α}
    (h : result.toOption = some a) : result = .ok a := by
  cases result with
  | error e => cases h
  | ok b => exact congrArg Except.ok (Option.some.inj h)

/-- A compiled accessor was prepared from the resolution that its signature carries. -/
theorem Compiler.compile_eq_ok {β : Type} {compiler : Compiler β} {reg : Registry}
    {sig : Signature} {prepared : Prepared β} {n : Nat}
    (h : compiler.compile reg sig = (.ok prepared, n)) :
    ∃ found, Resolver.resolve reg sig = .ok found ∧
      prepared.signature = sig.withResolution found ∧
      compiler.prepare reg prepared.signature found.member = .ok prepared.action := by
  unfold compile at h
  split at h
  · simp at h
  · split at h
    · simp at h
    · next found hfound =>
        cases hprepare : compiler.prepare reg (sig.withResolution found) found.member with
        | error e => simp [hprepare, Except.map] at h
        | ok action =>
            simp only [hprepare, Except.map, Prod.mk.injEq, Except.ok.injEq] at h
            obtain ⟨rfl, -⟩ := h
            exact ⟨found, hfound, rfl, hprepare⟩

/-- The member that a compiled accessor was prepared for. -/
theorem Compiler.prepare_of_compile {β : Type} {compiler : Compiler β} {reg : Registry}
    {sig : Signature} {prepared : Prepared β} {n : Nat} {member : MemberHandle}
    (h : compiler.compile reg sig = (.ok prepared, n))
    (hmember : prepared.signature.resolution.map (·.member) = some member) :
    compiler.prepare reg prepared.signature member = .ok prepared.action := by
  obtain ⟨found, -, hsig, hprepare⟩ := compile_eq_ok h
  rw [hsig] at hmember
  obtain rfl : found.member = member := Option.some.inj hmember
  exact hprepare

/-- One use of an accessor of a field, a property or a method. -/
inductive Access
  | read (reader : Reader)
  | write (writer : Writer) (v : Value)
  | invoke (plan : CallPlan) (args : List Value)

namespace Access

/-- The values that go in. -/
def args : Access → List Value
  | read _ => []
  | write _ v => [v]
  | invoke _ args => args

/-- Runs the accessor on a target: the result, and the arguments afterwards. -/
def run (access : Access) (target : Value) (w : World) :
    (Except InvokeError Value × List Value) × World :=
  match access with
  | read reader =>
    let (result, w) := reader.run target w
    ((result, []), w)
  | write writer v =>
    let (result, w) := writer.run target v w
    ((result.map fun _ => .null, [v]), w)
  | invoke plan args => plan.invoke target args w

/-- The prepared call, for a property or a method. -/
def plan? : Access → Option CallPlan
  | read (.call plan) | write (.call _ plan) _ | invoke plan _ => some plan
  | _ => none

/-- The type whose part the resolved code works on; none for a member that needs no target. -/
def owner : Access → Option TypeHandle
  | read (.field declaring _) | write (.field declaring _ _) _ => some declaring
  | read (.call plan) | invoke plan _ =>
    if plan.dispatch = .static then none else some plan.callee.owner
  | write (.call isStatic plan) _ =>
    if isStatic ∨ plan.dispatch = .static then none else some plan.callee.owner
  | _ => none

/-- The marshalled arguments. -/
def locals (access : Access) (w : World) : Except InvokeError (List Value) :=
  match access with
  | write (.field _ type _) v | write (.typeWide type _) v => (w.cast v type).map ([·])
  | read (.call plan) | write (.call _ plan) _ | invoke plan _ =>
    plan.arguments.copyIn w access.args
  | read _ => .ok []

/-- The code of another method that a virtual call runs instead of the resolved one. -/
def replacement (access : Access) (target : Value) (w : World) : Option Callee :=
  access.plan?.bind (·.replacement target w)

/-- The accessor was compiled for a request, and the member that was found is declared on a type. -/
inductive Compiled (reg : Registry) (sig : Signature) (declaring : TypeHandle) : Access → Prop
  | read {prepared : Prepared Reader} {n : Nat} :
      Compiler.getter.compile reg sig = (.ok prepared, n) →
      prepared.signature.declaring? = some declaring →
      Compiled reg sig declaring (.read prepared.action)
  | write {prepared : Prepared Writer} {n : Nat} (v : Value) :
      Compiler.setter.compile reg sig = (.ok prepared, n) →
      prepared.signature.declaring? = some declaring →
      Compiled reg sig declaring (.write prepared.action v)
  | invoke {prepared : Prepared CallPlan} {n : Nat} (args : List Value) :
      Compiler.method.compile reg sig = (.ok prepared, n) →
      prepared.signature.declaring? = some declaring →
      Compiled reg sig declaring (.invoke prepared.action args)

variable {access : Access} {declaring : TypeHandle}

/-- The code of a resolved method works on the type that declares it. -/
theorem callee_owner_of_ofMethod {reg : Registry} {ref : MethodRef} {typeArgs : List TypeHandle}
    {writeBack : WriteBack} {plan : CallPlan}
    (h : CallPlan.ofMethod reg ref typeArgs writeBack = .ok plan) :
    plan.callee.owner = ref.declaring := by
  obtain ⟨info, method, -, -, rfl⟩ := CallPlan.ofMethod_eq_ok h
  rfl

/-- What is read is on the type that declares the member, if it needs a target. -/
theorem owner_of_reader {reg : Registry} {member : MemberHandle} {reader : Reader}
    (h : Reader.ofMember reg member = .ok reader) :
    (read reader).owner = none ∨ (read reader).owner = member.declaring? := by
  cases member with
  | field declaring index =>
      simp only [Reader.ofMember, Registry.info, bind, Except.bind] at h
      cases hinfo : reg.get declaring with
      | none => simp [hinfo] at h
      | some info =>
          simp only [hinfo] at h
          split at h
          · simp [throw, throwThe, MonadExceptOf.throw] at h
          · split at h <;> cases h
            · exact .inl rfl
            · exact .inl rfl
            · exact .inr rfl
  | property declaring descriptor accessor =>
      cases hplan : CallPlan.ofMethod reg accessor [] .discard with
      | error e => simp [Reader.ofMember, hplan, bind, Except.bind] at h
      | ok plan =>
          simp only [Reader.ofMember, hplan, bind, Except.bind, pure, Except.pure,
            Except.ok.injEq] at h
          subst h
          by_cases hstatic : plan.dispatch = .static
          · exact .inl (by simp [owner, hstatic])
          · exact .inr (by simp [owner, hstatic, MemberHandle.declaring?,
              callee_owner_of_ofMethod hplan])
  | _ => simp [Reader.ofMember] at h

/-- What is written is on the type that declares the member, if it needs a target. -/
theorem owner_of_writer {reg : Registry} {member : MemberHandle} {writer : Writer} (v : Value)
    (h : Writer.ofMember reg member = .ok writer) :
    (write writer v).owner = none ∨ (write writer v).owner = member.declaring? := by
  cases member with
  | field declaring index =>
      simp only [Writer.ofMember, Registry.info, bind, Except.bind] at h
      cases hinfo : reg.get declaring with
      | none => simp [hinfo] at h
      | some info =>
          simp only [hinfo] at h
          split at h
          · simp [throw, throwThe, MonadExceptOf.throw] at h
          · split at h <;> cases h
            · exact .inl rfl
            · exact .inr rfl
  | property declaring descriptor accessor =>
      simp only [Writer.ofMember, Registry.info, bind, Except.bind] at h
      cases hinfo : reg.get accessor.declaring with
      | none => simp [hinfo] at h
      | some info =>
          simp only [hinfo] at h
          split at h
          · simp [throw, throwThe, MonadExceptOf.throw] at h
          · next method _ =>
              cases hplan : CallPlan.ofMethod reg accessor [] .store with
              | error e => simp [hplan] at h
              | ok plan =>
                  simp only [hplan, pure, Except.pure, Except.ok.injEq] at h
                  subst h
                  by_cases hstatic : method.isStatic = true ∨ plan.dispatch = .static
                  · exact .inl (if_pos hstatic)
                  · refine .inr ((if_neg hstatic).trans ?_)
                    rw [callee_owner_of_ofMethod hplan]
                    rfl
  | _ => simp [Writer.ofMember] at h

/-- A call is on the type that declares the method, if it needs a target. -/
theorem owner_of_method {reg : Registry} {sig : Signature} {member : MemberHandle}
    {plan : CallPlan} (args : List Value) (h : Compiler.method.prepare reg sig member = .ok plan) :
    (invoke plan args).owner = none ∨ (invoke plan args).owner = member.declaring? := by
  cases member with
  | method ref =>
      have hplan : CallPlan.ofMethod reg ref sig.typeArgs .store = .ok plan := h
      by_cases hstatic : plan.dispatch = .static
      · exact .inl (by simp [owner, hstatic])
      · exact .inr (by simp [owner, hstatic, MemberHandle.declaring?,
          callee_owner_of_ofMethod hplan])
  | _ => simp [Compiler.method] at h

/-- The code of a member that needs a target works on the type that declares it. -/
theorem Compiled.owner_eq {reg : Registry} {sig : Signature}
    (h : access.Compiled reg sig declaring) (hinstance : access.owner ≠ none) :
    access.owner = some declaring := by
  have hfound : ∀ {found : Resolution} {signature : Signature},
      signature = sig.withResolution found → signature.declaring? = some declaring →
      found.member.declaring? = some declaring := by
    rintro found _ rfl h
    exact h
  cases h with
  | read hcompile hdeclaring =>
      obtain ⟨found, -, hsig, hprepare⟩ := Compiler.compile_eq_ok hcompile
      rw [← hfound hsig hdeclaring]
      exact (owner_of_reader hprepare).resolve_left hinstance
  | write v hcompile hdeclaring =>
      obtain ⟨found, -, hsig, hprepare⟩ := Compiler.compile_eq_ok hcompile
      rw [← hfound hsig hdeclaring]
      exact (owner_of_writer v hprepare).resolve_left hinstance
  | invoke args hcompile hdeclaring =>
      obtain ⟨found, -, hsig, hprepare⟩ := Compiler.compile_eq_ok hcompile
      rw [← hfound hsig hdeclaring]
      exact (owner_of_method args hprepare).resolve_left hinstance

end Access

end Introspect
