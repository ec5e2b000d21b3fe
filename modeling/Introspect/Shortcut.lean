import Introspect.Construction

/-!
# `Introspect.Shortcut`: one-step operations on values and types

Each operation requests its accessor for the runtime type of the value it works on, runs it, and is
done with it. The parameter types of a call are the runtime types of its arguments; null stands for
any object. A cell stands for what it holds.

Calls answer with their arguments as well, since those passed by reference may have changed.
-/

set_option autoImplicit false

namespace Introspect.Reflector

/-- The runtime type of a value that is not null. -/
def subjectType (v : Value) : ReflectM TypeHandle := do
  match (← get).world.typeOf v with
  | some type => return type
  | none => throw (.invoke .nullSubject)

/-- The parameter types that arguments ask for. -/
def argumentTypes (args : List Value) : ReflectM (List TypeHandle) := do
  let w := (← get).world
  return args.map fun v => (w.typeOf v).getD TypeHandle.object

/-- Runs a call that may change its arguments. -/
def invokeWithArgs (call : World → (Except InvokeError Value × List Value) × World) :
    ReflectM (Value × List Value) :=
  invoke fun w =>
    let ((result, args), w) := call w
    (result.map fun v => (v, args), w)

/-- Reads a target through a requested accessor. -/
def readWith (target : Value) (request : TypeHandle → ReflectM (Artifact (Prepared Reader))) :
    ReflectM Value := do
  let getter ← request (← subjectType target)
  use getter (invoke (getter.content.action.run target))

/-- Writes a target through a requested accessor. -/
def writeWith (target v : Value) (request : TypeHandle → ReflectM (Artifact (Prepared Writer))) :
    ReflectM Unit := do
  let setter ← request (← subjectType target)
  use setter (invoke (setter.content.action.run target v))

/-- Reads a field. -/
def getField (target : Value) (name : String) : ReflectM Value :=
  readWith target (fieldGetter · name none)

/-- Reads a property. -/
def getProperty (target : Value) (name : String) : ReflectM Value :=
  readWith target (propertyGetter · name none)

/-- Reads a field, or else a property. -/
def getMember (target : Value) (name : String) : ReflectM Value :=
  readWith target (memberGetter · name)

/-- Writes a field. -/
def setField (target : Value) (name : String) (v : Value) : ReflectM Unit :=
  writeWith target v (fieldSetter · name none)

/-- Writes a property. -/
def setProperty (target : Value) (name : String) (v : Value) : ReflectM Unit :=
  writeWith target v (propertySetter · name none)

/-- Writes a field, or else a property. -/
def setMember (target : Value) (name : String) (v : Value) : ReflectM Unit :=
  writeWith target v (memberSetter · name)

/-- Calls a method of a target. -/
def callMethod (target : Value) (name : String) (args : List Value) :
    ReflectM (Value × List Value) := do
  let type ← subjectType target
  let call ← method type name (← argumentTypes args) none
  use call (invokeWithArgs (call.content.action.invoke target args))

/-- Calls a method of a target that accepts the values after conversion. -/
def tryCallMethod (target : Value) (name : String) (values : List Value) : ReflectM Value := do
  callWithValues (← subjectType target) (some target) name values

/-- Calls a static method. -/
def callStatic (type : TypeHandle) (name : String) (args : List Value) :
    ReflectM (Value × List Value) := do
  let call ← staticMethod type name (← argumentTypes args)
  use call (invokeWithArgs (call.content.action.invoke .null args))

/-- Creates an instance. -/
def create (type : TypeHandle) (args : List Value) : ReflectM (Value × List Value) := do
  let creator ← constructor type (← argumentTypes args) none
  use creator (invokeWithArgs (creator.content.action.run args))

/-- Copies members of one value onto those of another. -/
def mapMembers (source target : Value) (sourceKinds targetKinds : DataKinds)
    (names : List String) : ReflectM Unit := do
  -- A source that is null is reported before a target that is.
  let sourceType ← subjectType source
  let targetType ← subjectType target
  let mapper ← mapper sourceType targetType sourceKinds targetKinds names none
  useMapper mapper (invoke (mapper.content.run source target))

end Introspect.Reflector
