import Introspect.Accessor.Adapter
import Introspect.Accessor.Arguments
import Introspect.Resolver

/-!
# `Introspect.Accessor.Call`: calls of a resolved method

A `CallPlan` holds everything that a call needs: how the body is chosen, how arguments are
marshalled, the resolved body and the type arguments. A virtual method is looked up by its slot in
the dispatch table of the target's runtime type; if that is another method, its body runs against
the type that declares it.

`override_of_value` says that a target that is neither an object nor a cell runs the resolved body.
-/

set_option autoImplicit false

namespace Introspect

/-- How the body of a call is chosen. -/
inductive Dispatch
  /-- no target -/
  | static
  /-- the resolved body -/
  | direct
  /-- the body in a slot of the runtime type -/
  | virtual (slot : Nat)
  deriving DecidableEq

/-- A body and the type it runs against. -/
structure Callee where
  owner : TypeHandle
  body : MethodBody
  mutates : Bool

/-- A call that is ready to run. -/
structure CallPlan where
  dispatch : Dispatch
  method : MethodRef
  arguments : ArgPlan
  callee : Callee
  typeArgs : List TypeHandle
  writeBack : WriteBack

namespace Callee

/-- Runs a body on argument locals, with a view of its receiver. -/
def runBody (callee : Callee) (receiver : Option Receiver) (typeArgs : List TypeHandle)
    (locals : List Value) (w : World) : Outcome × World :=
  (callee.body ⟨receiver, locals, typeArgs⟩).run w

/-- The result of a body together with its locals, if it succeeded. -/
def answer (outcome : Outcome) : Except InvokeError (Value × List Value) :=
  outcome.result.map fun v => (v, outcome.args)

/-- Runs a body against a target. One that only reads keeps an object under a shared lock. -/
def run (callee : Callee) (target : Value) (writeBack : WriteBack) (typeArgs : List TypeHandle) :
    LocalsBody Value := fun locals w =>
  let (result, after) :=
    if callee.mutates then
      w.withExclusive target callee.owner writeBack fun view w =>
        let (outcome, w) := callee.runBody (some (.exclusive view)) typeArgs locals w
        ((answer outcome, outcome.view), w)
    else
      w.withShared target callee.owner fun view w =>
        let (outcome, w) := callee.runBody (some (.shared view)) typeArgs locals w
        (answer outcome, w)
  match result with
  | .ok (v, locals) => ((.ok v, locals), after)
  | .error e => ((.error e, locals), after)

/-- Runs a body without a target. -/
def runStatic (callee : Callee) (typeArgs : List TypeHandle) : LocalsBody Value := fun locals w =>
  let (outcome, w) := callee.runBody none typeArgs locals w
  ((outcome.result, outcome.args), w)

end Callee

namespace CallPlan

/-- Prepares a call of a method. -/
def ofMethod (reg : Registry) (ref : MethodRef) (typeArgs : List TypeHandle)
    (writeBack : WriteBack) : Except ReflectError CallPlan := do
  let info ← reg.info ref.declaring
  match info.methods[ref.index]? with
  | none => throw (.ambiguousOperation (.noSuchMember info.name "method" ref.index))
  | some method =>
    if method.arity ≠ typeArgs.length then
      throw (.invalidShape (info.name ++ "." ++ method.name)
        (.typeArguments method.arity (reg.describeTypes typeArgs)))
    let dispatch := match method.isStatic, method.isVirtual, method.slot with
      | true, _, _ => Dispatch.static
      | false, true, some slot => .virtual slot
      | false, _, _ => .direct
    return {
      dispatch, method := ref, arguments := .ofParams reg method.params
      callee := ⟨ref.declaring, method.body, method.mutates⟩, typeArgs, writeBack }

/-- The runtime type that virtual dispatch looks at: that of an object, bare or directly in a
cell. -/
def runtimeType (w : World) (target : Value) : Option TypeHandle :=
  match w.opened target with
  | .object object => some object.type
  | _ => none

/-- The body in a slot of the target's runtime type, if it is another method than the resolved
one. -/
def overrideFor (w : World) (target : Value) (slot : Nat) (resolved : MethodRef) :
    Option Callee := do
  let runtime ← runtimeType w target
  let info ← w.registry.get runtime
  let entry ← info.dispatchTable[slot]?
  -- The resolved body is at hand already.
  if entry = resolved then none
  let owner ← w.registry.get entry.declaring
  let method ← owner.methods[entry.index]?
  return ⟨entry.declaring, method.body, method.mutates⟩

/-- Calls the method. Arguments passed by reference come back changed when the call succeeds. -/
def invoke (plan : CallPlan) (target : Value) (args : List Value) (w : World) :
    (Except InvokeError Value × List Value) × World :=
  match plan.dispatch with
  | .static => plan.arguments.call args w (plan.callee.runStatic plan.typeArgs)
  | .direct => plan.arguments.call args w (plan.callee.run target plan.writeBack plan.typeArgs)
  -- The arguments are marshalled by the resolved method, whichever body is chosen.
  | .virtual slot =>
    let callee := (overrideFor w target slot plan.method).getD plan.callee
    plan.arguments.call args w (callee.run target plan.writeBack plan.typeArgs)

/-- A target that is neither an object nor a cell runs the resolved body. -/
theorem override_of_value (w : World) (type : TypeHandle) (data : Instance) (slot : Nat)
    (resolved : MethodRef) : overrideFor w (.struct type data) slot resolved = none := rfl

end CallPlan

end Introspect
