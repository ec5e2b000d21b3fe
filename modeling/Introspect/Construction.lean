import Introspect.Construction.Plan
import Introspect.Reflector

/-!
# `Introspect.Construction`: instances and calls from the values at hand

Instead of asking for exact parameter types, these operations choose a constructor or method by the
values: by their names, or by their order. Values are converted where that makes them fit.

`createFrom` takes the public fields and properties of a sample as named values. A value type that
is written member by member is kept in a cell meanwhile, so that the writes stay.
-/

set_option autoImplicit false

namespace Introspect.Reflector

/-- Values for a message, those with a name behind it. -/
def describeInputs (w : World) (inputs : List NamedValue) : String :=
  ", ".intercalate (inputs.map fun (name, v) => name ++ ": " ++ w.describe v)

/-- Values for a message. -/
def describeValues (w : World) (values : List Value) : String :=
  ", ".intercalate (values.map w.describe)

/-- The value in a place of a type. -/
def coerced (v : Value) (type : TypeHandle) : ReflectM Value :=
  invoke fun w => (w.coerce v type, w)

/-- The parameter lists to choose from: those of the declared constructors, and none at all for a
value type. -/
def constructorParams (type : TypeHandle) : ReflectM (List (List ParameterInfo)) := do
  let reg ← registry
  let declared ← ofRegistry (Query.constructors · type Flags.instanceAnyVisibility)
  let params := declared.map (·.params)
  -- A value type can be made from nothing unless a declared constructor does so already.
  return if reg.isValueType type && params.all (!·.isEmpty) then params ++ [[]] else params

/-- The cheapest way to place named values. -/
def planFor (type : TypeHandle) (inputs : List NamedValue) : ReflectM ConstructionPlan := do
  let w := (← get).world
  let plans ← (← constructorParams type).mapM fun params =>
    ofRegistry fun _ => ConstructionPlan.ofParams w type inputs params
  match ConstructionPlan.cheapest (plans.filterMap id) with
  | some plan => return plan
  | none => throw (.constructorNotFound (w.registry.nameOf type) (describeInputs w inputs))

/-- Writes a value into a member of a new instance. -/
def writeMember (type : TypeHandle) (target : Value) (member : MemberTarget) (v : Value) :
    ReflectM Unit := do
  -- The accessor is requested before the value is converted, so it is kept even if that fails.
  let flags := Flags.instanceAnyVisibility
  let setter ← match member with
    | .property name => propertySetter type name (some flags)
    | .field name => fieldSetter type name (some flags)
  use setter do
    let memberType ← match member with
      | .property name => do pure (← ofRegistry (Query.property · type name flags)).member.type
      | .field name => do pure (← ofRegistry (Query.field · type name flags)).member.type
    let v ← coerced v memberType
    invoke (setter.content.action.run target v)

/-- Writes values into members of a new instance. -/
def writeMembers (type : TypeHandle) (created : Value) (members : List (MemberTarget × Value)) :
    ReflectM Value := do
  if members.isEmpty then return created
  -- Writes to a boxed value type would be lost, so it is kept in a cell meanwhile.
  let target ← match created with
    | .struct .. => inWorld fun w => w.newCell created
    | other => pure other
  members.forM fun (member, v) => writeMember type target member v
  return (← get).world.opened target

/-- Creates an instance from named values. -/
def createWith (type : TypeHandle) (inputs : List NamedValue) : ReflectM Value := do
  let plan ← planFor type inputs
  let placed := plan.placements.zip inputs
  let args ← coerceInOrder plan placed
  let creator ← constructor type plan.params (some Flags.instanceAnyVisibility)
  use creator do
    let created ← invoke fun w =>
      let ((result, _), w) := creator.content.action.run args w
      (result, w)
    writeMembers type created (placed.filterMap fun (placement, _, v) =>
      match placement with
      | .member member => some (member, v)
      | _ => none)
where
  /-- The arguments of a plan. Values are converted in the order of the inputs. -/
  coerceInOrder (plan : ConstructionPlan) (placed : List (Placement × NamedValue)) :
      ReflectM (List Value) := do
    let reg ← registry
    placed.foldlM (fun args (placement, _, v) => do
      match placement with
      | .parameter index =>
        return args.set index (← coerced v (plan.params[index]?.getD TypeHandle.object))
      | _ => return args) (plan.params.map reg.zeroOf)

/-- Reads a field or property for a sample's value. -/
def readSample (sample : Value) (name : String)
    (request : ReflectM (Artifact (Prepared Reader))) : ReflectM NamedValue := do
  let getter ← request
  use getter do
    return (name, ← invoke (getter.content.action.run sample))

/-- Creates an instance from the public fields and properties of another one. -/
def createFrom (type : TypeHandle) (sample : Value) : ReflectM Value := do
  let flags := Flags.instancePublic
  match (← get).world.typeOf sample with
  | none => throw (.invoke .nullSample)
  | some source =>
    -- Fields go before properties, and all are read before any value is placed.
    let fields ← ofRegistry (Query.fields · source flags [])
    let fieldValues ← fields.mapM fun f =>
      readSample sample f.member.name (fieldGetter source f.member.name (some flags))
    let properties ← ofRegistry (Query.properties · source flags [])
    let readable := properties.filter fun p => !p.member.isIndexer && p.member.getter.isSome
    let propertyValues ← readable.mapM fun p =>
      readSample sample p.member.name (propertyGetter source p.member.name (some flags))
    createWith type (fieldValues ++ propertyValues)

/-- The arguments that values become for a parameter list, if it accepts all of them. -/
def argumentsFor (w : World) (values : List Value) (params : List ParameterInfo) :
    Option (List TypeHandle × List Value) :=
  if params.length ≠ values.length then none
  else
    ((params.zip values).mapM fun (p : ParameterInfo × Value) =>
        (w.coerce p.2 p.1.type).toOption).map
      fun args => (params.map (·.type), args)

/-- Creates an instance with the first constructor that accepts the values in order. -/
def createWithValues (type : TypeHandle) (values : List Value) : ReflectM Value := do
  let flags := Flags.instanceAnyVisibility
  let w := (← get).world
  let declared ← ofRegistry (Query.constructors · type flags)
  match declared.findSome? fun c => argumentsFor w values c.params with
  | none => throw (.constructorNotFound (w.registry.nameOf type) (describeValues w values))
  | some (params, args) =>
    let creator ← constructor type params (some flags)
    use creator (invoke fun w =>
      let ((result, _), w) := creator.content.action.run args w
      (result, w))

/-- Calls the first method of a name that accepts the values in order. Without a target the method
is static. -/
def callWithValues (type : TypeHandle) (target : Option Value) (name : String)
    (values : List Value) : ReflectM Value := do
  let flags :=
    if target.isSome then Flags.instanceAnyVisibility else Flags.staticAnyVisibility
  let w := (← get).world
  let found ← ofRegistry (Query.methods · type flags [name])
  -- The list of names may select by part or case; methods with type arguments are left out.
  let plain := found.filter fun m => m.member.arity == 0
  match plain.findSome? fun m => argumentsFor w values m.member.params with
  | none =>
    throw (.methodNotFound (w.registry.nameOf type) name (describeValues w values) flags)
  | some (params, args) =>
    -- The request goes through resolution again, which may settle on another overload.
    let call ← method type name params (some flags)
    use call (invoke fun w =>
      let ((result, _), w) := call.content.action.invoke (target.getD .null) args w
      (result, w))

end Introspect.Reflector
