import Introspect.Flags
import Introspect.Member.Code

/-!
# `Introspect.Member`: descriptors of fields, properties, methods and constructors

A descriptor names a member, gives its types, visibility and attributes, and carries the code that
performs the primitive operation on the storage of an instance. The code of an instance member
checks the native type of the storage it is given; `FieldInfo.perInstance_get_foreign` states that
for field reads.
-/

set_option autoImplicit false

namespace Introspect

/-- Named metadata of a type or member. A marker carries null. -/
structure Attribute where
  name : String
  value : Value

namespace Attribute

/-- An attribute without a payload. -/
def marker (name : String) : Attribute := ⟨name, .null⟩

end Attribute

/-- How an argument is passed. -/
inductive ParamMode
  /-- by value -/
  | byValue
  /-- by reference, copied in and out -/
  | byRef
  /-- by reference, copied out only -/
  | out
  deriving DecidableEq

/-- Whether the argument is copied back to the caller. -/
def ParamMode.isByRef : ParamMode → Bool
  | .byValue => false
  | _ => true

/-- One declared parameter. -/
structure ParameterInfo where
  name : String
  type : TypeHandle
  mode : ParamMode
  deriving DecidableEq

namespace ParameterInfo

/-- A parameter passed by value. -/
def byValue (name : String) (type : TypeHandle) : ParameterInfo := ⟨name, type, .byValue⟩
/-- A parameter copied in and out. -/
def byRef (name : String) (type : TypeHandle) : ParameterInfo := ⟨name, type, .byRef⟩
/-- A parameter copied out only. -/
def out (name : String) (type : TypeHandle) : ParameterInfo := ⟨name, type, .out⟩

end ParameterInfo

/-- The storage of a field and the code that reads and writes it. A write of instance storage
answers with the changed storage, whether it succeeds or not. -/
inductive FieldAccess
  | perInstance (get : Instance → Code (Except InvokeError Value))
      (set : Option (Instance → Value → Code (Except InvokeError Unit × Instance)))
  | typeWide (get : Code (Except InvokeError Value))
      (set : Option (Value → Code (Except InvokeError Unit)))
  | constant (content : Value)

/-- A field. -/
structure FieldInfo where
  name : String
  type : TypeHandle
  visibility : Visibility
  access : FieldAccess
  attributes : List Attribute

namespace FieldInfo

/-- A public field without attributes. -/
def ofAccess (name : String) (type : TypeHandle) (access : FieldAccess) : FieldInfo :=
  ⟨name, type, .isPublic, access, []⟩

/-- Reads storage of the native type only. -/
def checkedGet (native : String) (get : Instance → Code Value) (data : Instance) :
    Code (Except InvokeError Value) :=
  if data.native = native then (get data).bind fun v => .done (.ok v)
  else .done (.error (.foreignInstance native))

/-- Writes storage of the native type only. -/
def checkedSet (native : String)
    (set : Instance → Value → Code (Except InvokeError Unit × Instance)) (data : Instance)
    (v : Value) : Code (Except InvokeError Unit × Instance) :=
  if data.native = native then set data v
  else .done (.error (.foreignInstance native), data)

/-- A field of an instance that can be read and written. The code that writes gets a value of the
field's type. -/
def readWrite (native name : String) (type : TypeHandle) (get : Instance → Code Value)
    (set : Instance → Value → Code (Except InvokeError Unit × Instance)) : FieldInfo :=
  ofAccess name type (.perInstance (checkedGet native get) (some (checkedSet native set)))

/-- A field of an instance that can only be read. -/
def readOnly (native name : String) (type : TypeHandle) (get : Instance → Code Value) :
    FieldInfo :=
  ofAccess name type (.perInstance (checkedGet native get) none)

/-- A static field that can be read and written. -/
def staticReadWrite (name : String) (type : TypeHandle) (get : Code Value)
    (set : Value → Code (Except InvokeError Unit)) : FieldInfo :=
  ofAccess name type (.typeWide (get.bind fun v => .done (.ok v)) (some set))

/-- A static field that can only be read. -/
def staticReadOnly (name : String) (type : TypeHandle) (get : Code Value) : FieldInfo :=
  ofAccess name type (.typeWide (get.bind fun v => .done (.ok v)) none)

/-- A constant. -/
def constant (name : String) (type : TypeHandle) (content : Value) : FieldInfo :=
  ofAccess name type (.constant content)

/-- The field, not public. -/
def hidden (field : FieldInfo) : FieldInfo := { field with visibility := .nonPublic }

/-- The field with one more attribute. -/
def withAttribute (field : FieldInfo) (extra : Attribute) : FieldInfo :=
  { field with attributes := field.attributes ++ [extra] }

/-- Whether the storage belongs to the type and not to an instance. -/
def isStatic (field : FieldInfo) : Bool :=
  match field.access with
  | .perInstance .. => false
  | _ => true

/-- Whether the field is a constant. -/
def isConstant (field : FieldInfo) : Bool :=
  match field.access with
  | .constant _ => true
  | _ => false

/-- Whether the field can be written. -/
def isWritable (field : FieldInfo) : Bool :=
  match field.access with
  | .perInstance _ set => set.isSome
  | .typeWide _ set => set.isSome
  | .constant _ => false

/-- Whether the name is that of generated storage, such as `<Name>k__BackingField`. -/
def isBacking (field : FieldInfo) : Bool :=
  field.name.toList.head? == some '<'

/-- Reading storage made for another native type fails. -/
theorem perInstance_get_foreign (native : String) (get : Instance → Code Value) (data : Instance)
    (h : data.native ≠ native) :
    checkedGet native get data = .done (.error (.foreignInstance native)) := by
  simp [checkedGet, h]

end FieldInfo

/-- A property. It owns no storage: reads and writes go through accessor methods, looked up by
name. -/
structure PropertyInfo where
  name : String
  type : TypeHandle
  visibility : Visibility
  isStatic : Bool
  indexTypes : List TypeHandle
  getter : Option String
  setter : Option String
  attributes : List Attribute

/-- Whether the property takes an index. -/
def PropertyInfo.isIndexer (property : PropertyInfo) : Bool :=
  !property.indexTypes.isEmpty

/-- The view of an instance that a body runs against. -/
inductive Receiver
  /-- read only -/
  | shared (view : Instance)
  /-- changes are kept -/
  | exclusive (view : Instance)

/-- The view of a receiver. -/
def Receiver.view : Receiver → Instance
  | shared view => view
  | exclusive view => view

/-- What a body is given. The arguments are already of the declared types. -/
structure Invocation where
  receiver : Option Receiver
  args : List Value
  typeArgs : List TypeHandle

/-- What a body leaves behind: its result, the receiver's view and the argument locals. -/
structure Outcome where
  result : Except InvokeError Value
  view : Instance
  args : List Value

/-- The code of a method. -/
abbrev MethodBody : Type := Invocation → Code Outcome

/-- The code of a constructor: the new value, and the argument locals afterwards. -/
abbrev ConstructorBody : Type := List Value → Code (Except InvokeError Value × List Value)

/-- Runs member code on a view and argument locals. -/
def MemberM.toOutcome (body : MemberM Value) (view : Instance) (args : List Value)
    (typeArgs : List TypeHandle) : Code Outcome :=
  ((body.run).run ⟨view, args, typeArgs⟩).bind fun (result, frame) =>
    .done ⟨result, frame.view, frame.args⟩

/-- A method. -/
structure MethodInfo where
  name : String
  params : List ParameterInfo
  returns : TypeHandle
  visibility : Visibility
  isStatic : Bool
  isVirtual : Bool
  /-- how many type arguments it takes -/
  arity : Nat
  /-- whether the body needs a receiver that it can change -/
  mutates : Bool
  /-- the slot in the dispatch table, for a virtual method -/
  slot : Option Nat
  attributes : List Attribute
  body : MethodBody

namespace MethodInfo

/-- A public method with a given body. -/
def ofBody (name : String) (params : List ParameterInfo) (returns : TypeHandle) (isStatic : Bool)
    (body : MethodBody) : MethodInfo :=
  { name, params, returns, visibility := .isPublic, isStatic, isVirtual := false, arity := 0
    mutates := !isStatic, slot := none, attributes := [], body }

/-- The outcome of a body that was not reached. -/
def refuse (inv : Invocation) (e : InvokeError) : Code Outcome :=
  .done ⟨.error e, (inv.receiver.map Receiver.view).getD default, inv.args⟩

/-- A method that may change its receiver. -/
def changing (native name : String) (params : List ParameterInfo) (returns : TypeHandle)
    (body : MemberM Value) : MethodInfo :=
  ofBody name params returns false fun inv =>
    match inv.receiver with
    | none => refuse inv (.missingReceiver name)
    | some (.shared _) => refuse inv (.readOnlyReceiver native)
    | some (.exclusive view) =>
      if view.native = native then body.toOutcome view inv.args inv.typeArgs
      else refuse inv (.foreignInstance native)

/-- A method that only reads its receiver. -/
def reading (native name : String) (params : List ParameterInfo) (returns : TypeHandle)
    (body : MemberM Value) : MethodInfo :=
  { ofBody name params returns false fun inv =>
      match inv.receiver with
      | none => refuse inv (.missingReceiver name)
      | some receiver =>
        if receiver.view.native = native then
          body.toOutcome receiver.view inv.args inv.typeArgs
        else refuse inv (.foreignInstance native) with
    mutates := false }

/-- A static method. -/
def static (name : String) (params : List ParameterInfo) (returns : TypeHandle)
    (body : MemberM Value) : MethodInfo :=
  ofBody name params returns true fun inv => body.toOutcome default inv.args inv.typeArgs

/-- A method with type arguments. Its body is given no view of its receiver. -/
def generic (name : String) (arity : Nat) (params : List ParameterInfo) (returns : TypeHandle)
    (isStatic : Bool) (body : MemberM Value) : MethodInfo :=
  { ofBody name params returns isStatic fun inv =>
      body.toOutcome ((inv.receiver.map Receiver.view).getD default) inv.args inv.typeArgs with
    arity }

/-- The method, not public. -/
def hidden (method : MethodInfo) : MethodInfo := { method with visibility := .nonPublic }

/-- The method, virtual. -/
def asVirtual (method : MethodInfo) : MethodInfo := { method with isVirtual := true }

/-- The method with a number of type arguments. -/
def withArity (method : MethodInfo) (arity : Nat) : MethodInfo := { method with arity }

/-- The method with one more attribute. -/
def withAttribute (method : MethodInfo) (extra : Attribute) : MethodInfo :=
  { method with attributes := method.attributes ++ [extra] }

/-- The types of the parameters. -/
def paramTypes (method : MethodInfo) : List TypeHandle := method.params.map (·.type)

/-- Whether the method takes part in virtual dispatch. -/
def dispatches (method : MethodInfo) : Bool := method.isVirtual && !method.isStatic

/-- Whether the name is that of a property accessor. -/
def isPropertyAccessor (method : MethodInfo) : Bool :=
  "get_".toList.isPrefixOf method.name.toList || "set_".toList.isPrefixOf method.name.toList

end MethodInfo

/-- The position of a method in the type that declares it. -/
structure MethodRef where
  declaring : TypeHandle
  index : Nat
  deriving DecidableEq

/-- A constructor. -/
structure ConstructorInfo where
  params : List ParameterInfo
  visibility : Visibility
  attributes : List Attribute
  body : ConstructorBody

/-- The types of a constructor's parameters. -/
def ConstructorInfo.paramTypes (ctor : ConstructorInfo) : List TypeHandle :=
  ctor.params.map (·.type)

end Introspect
