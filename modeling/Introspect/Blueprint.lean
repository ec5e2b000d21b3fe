import Introspect.Member.Slot
import Introspect.Registry

/-!
# `Introspect.Blueprint`: what a type says about itself

A blueprint collects the members of a type before the type has a descriptor. `build` turns it into
one: enumeration members become constants behind the declared fields, attributes given by member
name are attached to every member of that name, a type without a declared base derives from the root
type, and the virtual methods get their slots.

`assignSlots` is the heart of the dispatch table. It starts from the table of the base type; a
virtual method takes the first slot whose method has the same name and parameter types, or a new
slot at the end. `assignSlots_length` says that the table never shrinks.
-/

set_option autoImplicit false

namespace Introspect

/-- A constructor before the type is built: its body makes the storage of the new instance. -/
structure ConstructorDraft where
  params : List ParameterInfo
  visibility : Visibility
  attributes : List Attribute
  body : MemberM Instance

/-- What a type says about itself. -/
structure Blueprint where
  name : String
  kind : TypeKind
  base : Option TypeHandle
  interfaces : List TypeHandle
  embedsBase : Option String
  /-- the element type, when this asks for the array type of it -/
  element : Option TypeHandle
  fields : List FieldInfo
  properties : List PropertyInfo
  methods : List MethodInfo
  constructors : List ConstructorDraft
  variants : List (String × Int64)
  attributes : List Attribute
  memberAttributes : List (String × Attribute)
  /-- the default value -/
  zero : TypeHandle → Value

namespace Blueprint

/-- A type without members. -/
def ofKind (name : String) (kind : TypeKind) (zero : TypeHandle → Value) : Blueprint :=
  { name, kind, base := none, interfaces := [], embedsBase := none, element := none, fields := []
    properties := [], methods := [], constructors := [], variants := [], attributes := []
    memberAttributes := [], zero }

/-- A reference type. -/
def reference (name : String) : Blueprint := ofKind name .reference fun _ => .null

/-- A value type with the storage of its default value. -/
def struct (name : String) (zero : Instance) : Blueprint :=
  ofKind name .struct fun type => .struct type zero

/-- An enumeration. -/
def enumeration (name : String) : Blueprint := ofKind name .enum fun type => .enum type 0

/-- An interface. -/
def interface (name : String) : Blueprint := ofKind name .interface fun _ => .null

/-- The array type of an element type. -/
def arrayOf (element : TypeHandle) : Blueprint :=
  { ofKind "" .array fun _ => .null with element := some element }

/-! ### Adding members -/

/-- Declares the base type; instances of `native` embed an instance of it. -/
def extending (b : Blueprint) (native : String) (base : TypeHandle) : Blueprint :=
  { b with base := some base, embedsBase := some native }

/-- Declares an interface; declaring it again changes nothing. -/
def implementing (b : Blueprint) (interface : TypeHandle) : Blueprint :=
  if interface ∈ b.interfaces then b else { b with interfaces := b.interfaces ++ [interface] }

/-- Adds an attribute to the type. -/
def withAttribute (b : Blueprint) (extra : Attribute) : Blueprint :=
  { b with attributes := b.attributes ++ [extra] }

/-- Adds an attribute to every field, property and method of a name, whenever it is added. -/
def withMemberAttribute (b : Blueprint) (member : String) (extra : Attribute) : Blueprint :=
  { b with memberAttributes := b.memberAttributes ++ [(member, extra)] }

/-- Adds a field. -/
def withField (b : Blueprint) (field : FieldInfo) : Blueprint :=
  { b with fields := b.fields ++ [field] }

/-- Adds a method. -/
def withMethod (b : Blueprint) (method : MethodInfo) : Blueprint :=
  { b with methods := b.methods ++ [method] }

/-- Adds a property as it is; its accessors are added as methods. -/
def withProperty (b : Blueprint) (property : PropertyInfo) : Blueprint :=
  { b with properties := b.properties ++ [property] }

/-- Takes the first argument out of its local. -/
def takeFirst : MemberM Value := do
  let frame ← get
  match frame.args with
  | [] => pure .null
  | v :: rest => do
    set { frame with args := Value.null :: rest }
    pure v

/-- A property of an instance with a getter. -/
def readOnlyProperty (b : Blueprint) (native name : String) (type : TypeHandle)
    (get : MemberM Value) : Blueprint :=
  (b.withMethod (.changing native ("get_" ++ name) [] type get)).withProperty
    { name, type, visibility := .isPublic, isStatic := false, indexTypes := []
      getter := some ("get_" ++ name), setter := none, attributes := [] }

/-- Gives the last property of a name its conventional setter. -/
def withSetter (b : Blueprint) (name : String) : Blueprint :=
  let rec mark : List PropertyInfo → List PropertyInfo
    | [] => []
    | p :: rest =>
      if p.name = name then { p with setter := some ("set_" ++ name) } :: rest else p :: mark rest
  { b with properties := (mark b.properties.reverse).reverse }

/-- A property of an instance with a getter and a setter. -/
def property (b : Blueprint) (native name : String) (type : TypeHandle) (get : MemberM Value)
    (set : Value → MemberM Unit) : Blueprint :=
  let setter := MethodInfo.changing native ("set_" ++ name) [.byValue "value" type] .void do
    set (← takeFirst)
    return .null
  ((b.readOnlyProperty native name type get).withMethod setter).withSetter name

/-- A static property with a getter and a setter. -/
def staticProperty (b : Blueprint) (name : String) (type : TypeHandle) (get : MemberM Value)
    (set : Value → MemberM Unit) : Blueprint :=
  let setter := MethodInfo.static ("set_" ++ name) [.byValue "value" type] .void do
    set (← takeFirst)
    return .null
  ((b.withMethod (.static ("get_" ++ name) [] type get)).withMethod setter).withProperty
    { name, type, visibility := .isPublic, isStatic := true, indexTypes := []
      getter := some ("get_" ++ name), setter := some ("set_" ++ name), attributes := [] }

/-- An indexed property `Item`. Its setter takes the index arguments and then the value. -/
def indexer (b : Blueprint) (native : String) (index : List ParameterInfo) (type : TypeHandle)
    (get : MemberM Value) (set : MemberM Unit) : Blueprint :=
  let setter := MethodInfo.changing native "set_Item" (index ++ [.byValue "value" type]) .void do
    set
    return .null
  ((b.withMethod (.changing native "get_Item" index type get)).withMethod setter).withProperty
    { name := "Item", type, visibility := .isPublic, isStatic := false
      indexTypes := index.map (·.type), getter := some "get_Item", setter := some "set_Item"
      attributes := [] }

/-- Adds a public constructor. -/
def withConstructor (b : Blueprint) (params : List ParameterInfo) (body : MemberM Instance) :
    Blueprint :=
  { b with constructors := b.constructors ++ [⟨params, .isPublic, [], body⟩] }

/-- Changes the last constructor. -/
def changeLast (change : ConstructorDraft → ConstructorDraft) :
    List ConstructorDraft → List ConstructorDraft
  | [] => []
  | [last] => [change last]
  | first :: rest => first :: changeLast change rest

/-- Makes the last constructor non-public. -/
def hideConstructor (b : Blueprint) : Blueprint :=
  { b with constructors := changeLast ({ · with visibility := .nonPublic }) b.constructors }

/-- Adds an attribute to the last constructor. -/
def withConstructorAttribute (b : Blueprint) (extra : Attribute) : Blueprint :=
  { b with
    constructors :=
      changeLast (fun c => { c with attributes := c.attributes ++ [extra] }) b.constructors }

/-- Adds a member of an enumeration. -/
def variant (b : Blueprint) (name : String) (value : Int64) : Blueprint :=
  { b with variants := b.variants ++ [(name, value)] }

/-! ### The dispatch table -/

/-- Whether the method in a slot has a name and parameter types. -/
def hasSignature (reg : Registry) (name : String) (params : List TypeHandle) (slot : MethodRef) :
    Bool :=
  match (reg.get slot.declaring).bind (·.methods[slot.index]?) with
  | some method => method.name == name && method.paramTypes == params
  | none => false

/-- Gives the methods from position `index` on their slots, starting from a table. -/
def assignSlots (reg : Registry) (type : TypeHandle) :
    Nat → List MethodInfo → List MethodRef → List MethodInfo × List MethodRef
  | _, [], table => ([], table)
  | index, method :: rest, table =>
    if method.dispatches then
      -- The type itself is not published yet, so its own methods override nothing here.
      let slot :=
        (table.findIdx? (hasSignature reg method.name method.paramTypes)).getD table.length
      let entry : MethodRef := ⟨type, index⟩
      let table := if slot < table.length then table.set slot entry else table ++ [entry]
      let (methods, table) := assignSlots reg type (index + 1) rest table
      ({ method with slot := some slot } :: methods, table)
    else
      let (methods, table) := assignSlots reg type (index + 1) rest table
      (method :: methods, table)

/-- The dispatch table of a base type; empty when it is not published yet. -/
def baseTable (reg : Registry) (base : Option TypeHandle) : List MethodRef :=
  match base.bind reg.get with
  | some info => info.dispatchTable
  | none => []

/-- Assigning slots never shortens the table. -/
theorem assignSlots_length (reg : Registry) (type : TypeHandle) (methods : List MethodInfo)
    (index : Nat) (table : List MethodRef) :
    table.length ≤ (assignSlots reg type index methods table).2.length := by
  induction methods generalizing index table with
  | nil => simp [assignSlots]
  | cons method rest ih =>
    unfold assignSlots
    split
    · refine Nat.le_trans ?_ (ih (index + 1) _)
      split <;> simp
    · exact ih (index + 1) table

/-! ### Building -/

/-- The attributes given for members of a name. -/
def attributesFor (b : Blueprint) (member : String) : List Attribute :=
  b.memberAttributes.filterMap fun (name, extra) => if name = member then some extra else none

/-- The boxed form of a new instance. -/
def wrap (kind : TypeKind) (type : TypeHandle) (data : Instance) : Code Value :=
  match kind with
  | .reference => .create type data .done
  | .struct => .done (.struct type data)
  | _ => .done .null

/-- The descriptor of a constructor. -/
def buildConstructor (kind : TypeKind) (type : TypeHandle) (draft : ConstructorDraft) :
    ConstructorInfo :=
  { params := draft.params, visibility := draft.visibility, attributes := draft.attributes
    body := fun args =>
      (draft.body.run.run ⟨default, args, []⟩).bind fun (result, frame) =>
        match result with
        | .ok data => (wrap kind type data).bind fun v => .done (.ok v, frame.args)
        | .error e => .done (.error e, frame.args) }

/-- The descriptor of a type with a given handle. -/
def build (b : Blueprint) (type : TypeHandle) (reg : Registry) : TypeInfo :=
  let variants := b.variants.map fun (name, value) =>
    FieldInfo.constant name type (.enum type value)
  let fields := (b.fields ++ variants).map fun f =>
    { f with attributes := f.attributes ++ b.attributesFor f.name }
  let properties := b.properties.map fun p =>
    { p with attributes := p.attributes ++ b.attributesFor p.name }
  let methods := b.methods.map fun m =>
    { m with attributes := m.attributes ++ b.attributesFor m.name }
  -- Attributes by member name come after those that a member brings along.
  let base := if b.kind = .root then none else some (b.base.getD TypeHandle.object)
  -- A base that is still being described has no table to start from.
  let (methods, dispatchTable) := assignSlots reg type 0 methods (baseTable reg base)
  { handle := type, name := b.name, kind := b.kind, base, interfaces := b.interfaces
    element := b.element, fields, properties, methods
    constructors := b.constructors.map (buildConstructor b.kind type)
    dispatchTable, zero := b.zero type, embedsBase := b.embedsBase, attributes := b.attributes }

end Blueprint

end Introspect
