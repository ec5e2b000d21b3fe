import Introspect.World

/-!
# `Introspect.Accessor.Direct`: member code on the storage of a target

Accessors convert arguments, find the part of an object that a member belongs to, and decide what to
write back. Here the code of a member runs on the storage of a target as it is: that of an object
under its lock, that of a value type as a copy that is dropped afterwards. `onStorage_struct` says
that a value type is left as it was.
-/

set_option autoImplicit false

namespace Introspect

/-- Runs a body on the storage of a target, and `foreign` on a target without storage. -/
def World.onStorage {α : Type} (w : World) (target : Value) (hold : Hold)
    (foreign : World → α × World) (body : Instance → World → (α × Instance) × World) :
    Except InvokeError α × World :=
  match target with
  | .object ref =>
    match w.lock ref hold with
    | .error e => (.error e, w)
    | .ok locked =>
      let ((result, data), w) := body (locked.payload ref) locked
      -- Under a shared lock the body has no way to change the storage.
      let w := if hold = .exclusive then w.setPayload ref data else w
      (.ok result, w.unlock ref hold)
  | .struct _ data =>
    let ((result, _), w) := body data w
    (.ok result, w)
  | _ =>
    let (result, w) := foreign w
    (.ok result, w)

/-- What a body does to the storage of a value type is dropped. -/
theorem World.onStorage_struct {α : Type} (w : World) (type : TypeHandle) (data : Instance)
    (hold : Hold) (foreign : World → α × World)
    (body : Instance → World → (α × Instance) × World) :
    w.onStorage (.struct type data) hold foreign body =
      (.ok (body data w).1.1, (body data w).2) := rfl

/-- Runs the code of a method. A lock that cannot be had leaves the arguments as they are. -/
def MethodInfo.runOn (method : MethodInfo) (target : Value) (hold : Hold) (args : List Value)
    (typeArgs : List TypeHandle) (w : World) : (Except InvokeError Value × List Value) × World :=
  let receiver (view : Instance) : Receiver :=
    if hold = .exclusive then .exclusive view else .shared view
  let (outcome, w) := w.onStorage target hold (method.body ⟨none, args, typeArgs⟩).run
    fun data w =>
      let (outcome, w) := (method.body ⟨some (receiver data), args, typeArgs⟩).run w
      ((outcome, outcome.view), w)
  match outcome with
  | .ok outcome => ((outcome.result, outcome.args), w)
  | .error e => ((.error e, args), w)

/-- Runs the code that reads a field. A target without storage counts as a foreign instance. -/
def FieldInfo.readOn (field : FieldInfo) (target : Value) (w : World) :
    Except InvokeError Value × World :=
  match field.access with
  | .constant content => (.ok content, w)
  | .typeWide get _ => get.run w
  | .perInstance get _ =>
    let (result, w) := w.onStorage target .shared (get default).run fun data w =>
      let (result, w) := (get data).run w
      ((result, data), w)
    (result.bind id, w)

/-- Runs the code that writes a field of instances, if there is such code. -/
def FieldInfo.writeOn? (field : FieldInfo) (target v : Value) (w : World) :
    Option (Except InvokeError Unit × World) :=
  match field.access with
  | .perInstance _ (some set) =>
    let (result, w) := w.onStorage target .exclusive
      (fun w =>
        let ((result, _), w) := (set default v).run w
        (result, w))
      fun data w => (set data v).run w
    some (result.bind id, w)
  | _ => none

end Introspect
