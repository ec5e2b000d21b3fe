import Introspect.World

/-!
# `Introspect.Accessor.Adapter`: from a target value to the part a member works on

Every instance accessor gets its target as a value. `withShared` and `withExclusive` turn it into
the part of the storage that belongs to the declaring type, run a body on it and put the result
back:

* an object is locked, projected from its runtime type to the declaring type, and unlocked again,
  whether the body succeeds or not;
* a boxed value type is copied, and the copy is lost;
* a cell holding a value type gets the changed copy back, if the body succeeds and the caller wants
  it.

`withExclusive_boxed` and `withShared_null` state the outcome for two targets without storage of
their own.
-/

set_option autoImplicit false

namespace Introspect

/-- Whether a changed copy of a value type is stored back into its cell. -/
inductive WriteBack
  | store
  | discard
  deriving DecidableEq

namespace World

/-- A body that reads a view. -/
abbrev SharedBody (α : Type) : Type := Instance → World → Except InvokeError α × World

/-- A body that may change a view, and answers with the changed view. -/
abbrev ExclusiveBody (α : Type) : Type :=
  Instance → World → (Except InvokeError α × Instance) × World

/-- The failure of a target whose type does not derive from the declaring type. -/
def notAnInstance (w : World) (actual declaring : TypeHandle) : InvokeError :=
  .notAnInstance (w.registry.nameOf actual) (w.registry.nameOf declaring)

/-- The failure of a missing target. -/
def missingTarget (w : World) (declaring : TypeHandle) : InvokeError :=
  .missingTarget (w.registry.nameOf declaring)

/-- How deep the part of an object lies that belongs to a type, and that part. -/
def partOf (w : World) (object : ObjectRef) (declaring : TypeHandle) : Option (Nat × Instance) :=
  let data := w.payload object
  (w.registry.depth? object.type declaring data).bind fun depth =>
    (data.part depth).map fun part => (depth, part)

/-- Runs a body on the part of an object, under a shared lock. -/
def readObject {α : Type} (w : World) (object : ObjectRef) (declaring : TypeHandle)
    (body : SharedBody α) : Except InvokeError α × World :=
  match w.lock object .shared with
  | .error e => (.error e, w)
  | .ok locked =>
    let (result, after) :=
      match locked.partOf object declaring with
      | some (_, part) => body part locked
      | none => (.error (w.notAnInstance object.type declaring), locked)
    (result, after.unlock object .shared)

/-- Runs a body on a view of the target as the declaring type. -/
def withShared {α : Type} (w : World) (target : Value) (declaring : TypeHandle)
    (body : SharedBody α) : Except InvokeError α × World :=
  match w.content target with
  | .object object => w.readObject object declaring body
  | .struct type data =>
    if type = declaring then body data w else (.error (w.notAnInstance type declaring), w)
  | .null => (.error (w.missingTarget declaring), w)
  | other => (.error (.noMembers (w.describe other) (w.registry.nameOf declaring)), w)

/-- Runs a body on the part of an object, under an exclusive lock. The changes stay, even if the
body fails. -/
def changeObject {α : Type} (w : World) (object : ObjectRef) (declaring : TypeHandle)
    (body : ExclusiveBody α) : Except InvokeError α × World :=
  match w.lock object .exclusive with
  | .error e => (.error e, w)
  | .ok locked =>
    let (result, after) :=
      match locked.partOf object declaring with
      | some (depth, part) =>
        let ((result, changed), after) := body part locked
        -- The body ran on a projection; the parts below it keep what they hold.
        (result, after.setPayload object ((locked.payload object).setPart depth changed))
      | none => (.error (w.notAnInstance object.type declaring), locked)
    (result, after.unlock object .exclusive)

/-- Runs a body on a copy of a value type. A cell gets the copy back when the body succeeds. -/
def changeCopy {α : Type} (w : World) (type : TypeHandle) (data : Instance)
    (declaring : TypeHandle) (cell : Option CellRef) (body : ExclusiveBody α) :
    Except InvokeError α × World :=
  if type = declaring then
    let ((result, changed), after) := body data w
    -- The cell is not locked meanwhile, so a body that fails leaves no trace in it.
    match result, cell with
    | .ok _, some cell => (result, after.setCell cell (.struct type changed))
    | _, _ => (result, after)
  else (.error (w.notAnInstance type declaring), w)

/-- Runs a body on a changeable view of the target as the declaring type. -/
def withExclusive {α : Type} (w : World) (target : Value) (declaring : TypeHandle)
    (writeBack : WriteBack) (body : ExclusiveBody α) : Except InvokeError α × World :=
  match target with
  | .object object => w.changeObject object declaring body
  | .struct type data => w.changeCopy type data declaring none body
  | .cell cell =>
    -- One level only: a cell inside a cell has no members to change.
    match w.cellContent cell with
    | .struct type data =>
      w.changeCopy type data declaring (if writeBack = .store then some cell else none) body
    | .object object => w.changeObject object declaring body
    | .null => (.error (w.missingTarget declaring), w)
    | other => (.error (.cellWithoutMembers (w.describe other) (w.registry.nameOf declaring)), w)
  | .null => (.error (w.missingTarget declaring), w)
  | other => (.error (.noMembers (w.describe other) (w.registry.nameOf declaring)), w)

/-- A change to a boxed value type would be lost with the copy. -/
def requireWritable (w : World) (target : Value) : Except InvokeError Unit :=
  match target with
  | .struct type _ => .error (.unwritableTarget (w.registry.nameOf type))
  | _ => .ok ()

/-- A boxed value type of another type fails before the body runs. -/
theorem withExclusive_boxed {α : Type} (w : World) (type declaring : TypeHandle) (data : Instance)
    (writeBack : WriteBack) (body : ExclusiveBody α) (h : type ≠ declaring) :
    w.withExclusive (.struct type data) declaring writeBack body =
      (.error (w.notAnInstance type declaring), w) := by
  simp [withExclusive, changeCopy, h]

/-- Null has no members to read. -/
theorem withShared_null {α : Type} (w : World) (declaring : TypeHandle) (body : SharedBody α) :
    w.withShared .null declaring body = (.error (w.missingTarget declaring), w) := by
  have : w.content .null = .null := by simp [content, follow]
  simp [withShared, this]

end World

end Introspect
