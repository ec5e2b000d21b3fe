import Introspect.Attribute
import Introspect.Outline.Value

/-!
# `Introspect.Outline.Descriptor`: outlines of types and members

Types and members are records of what their descriptors say; their code is not shown. A member that
was found by a query also tells which type declares it.
-/

set_option autoImplicit false

namespace Introspect

/-- The word for a kind of member. -/
def MemberKind.label : MemberKind → String
  | .field => "field"
  | .property => "property"
  | .method => "method"
  | .constructor => "constructor"
  | .element => "element"
  | .mapping => "mapping"

/-- The kind of member with a word. -/
def MemberKind.ofLabel? (label : String) : Option MemberKind :=
  [.field, .property, .method, .constructor, .element, .mapping].find? (·.label == label)

/-- Every kind of member is found by its word. -/
theorem MemberKind.ofLabel?_label (kind : MemberKind) : ofLabel? kind.label = some kind := by
  cases kind <;> decide

/-- The word for a kind of type. -/
def TypeKind.label : TypeKind → String
  | .root => "object"
  | .void => "void"
  | .primitive => "primitive"
  | .string => "string"
  | .struct => "struct"
  | .reference => "class"
  | .enum => "enum"
  | .array => "array"
  | .interface => "interface"

/-- The word for a way of passing an argument. -/
def ParamMode.label : ParamMode → String
  | .byValue => "in"
  | .byRef => "ref"
  | .out => "out"

instance : Outlined MemberKind := ⟨fun p kind => outline p kind.label⟩
instance : Outlined TypeKind := ⟨fun p kind => outline p kind.label⟩
instance : Outlined ParamMode := ⟨fun p mode => outline p mode.label⟩
instance : Outlined Visibility := ⟨fun _ v => .bool (v == .isPublic)⟩
instance : Outlined Attribute := ⟨fun p a => outline p (a.name, a.value)⟩

instance : Outlined ParameterInfo :=
  ⟨fun p param => .list [outline p param.name, outline p param.type, outline p param.mode]⟩

instance : Outlined MethodRef := ⟨fun p ref => outline p (ref.declaring, ref.index)⟩

instance : Described FieldInfo where
  parts p field := [
    p.part "name" field.name, p.part "type" field.type, p.part "public" field.visibility,
    p.part "static" field.isStatic, p.part "literal" field.isConstant,
    p.part "writable" field.isWritable, p.part "backing" field.isBacking,
    p.part "attributes" field.attributes]

instance : Described PropertyInfo where
  parts p property := [
    p.part "name" property.name, p.part "type" property.type,
    p.part "public" property.visibility, p.part "static" property.isStatic,
    p.part "index" property.indexTypes, p.part "indexer" property.isIndexer,
    p.part "getter" property.getter, p.part "setter" property.setter,
    p.part "attributes" property.attributes]

instance : Described MethodInfo where
  parts p method := [
    p.part "name" method.name, p.part "params" method.params, p.part "returns" method.returns,
    p.part "void" (method.returns == TypeHandle.void), p.part "public" method.visibility,
    p.part "static" method.isStatic, p.part "virtual" method.isVirtual,
    p.part "arity" method.arity, p.part "mutates" method.mutates, p.part "slot" method.slot,
    p.part "accessor" method.isPropertyAccessor, p.part "attributes" method.attributes]

instance : Described ConstructorInfo where
  parts p ctor := [
    p.part "params" ctor.params, p.part "public" ctor.visibility,
    p.part "attributes" ctor.attributes]

instance : Described AnyMember where
  parts p
    | .field info => Described.parts p info
    | .property info => Described.parts p info
    | .method info => Described.parts p info
    | .constructor info => Described.parts p info

instance {α : Type} [Described α] : Described (Declared α) where
  parts p found := p.part "declaring" found.declaring :: Described.parts p found.member

instance : Described TypeInfo where
  parts p info := [
    p.part "name" info.name, p.part "kind" info.kind, p.part "base" info.base,
    p.part "interfaces" info.interfaces, p.part "element" info.element,
    p.part "value_type" info.isValueType, p.part "is_array" (info.kind == .array),
    p.part "is_interface" info.isInterface, p.part "attributes" info.attributes,
    p.part "fields" info.fields, p.part "properties" info.properties,
    p.part "methods" info.methods, p.part "constructors" info.constructors,
    p.part "vtable" info.dispatchTable, p.part "zero" info.zero]

/-- A member in short. -/
structure MemberSummary where
  found : Declared AnyMember

/-- A summary has the member's kind, the type that declares it, and its name. -/
instance : Outlined MemberSummary where
  outline p summary :=
    let ⟨declaring, member⟩ := summary.found
    .list [outline p member.kind, outline p declaring, outline p member.name]

/-- What one can ask about a list of attributes: for the first one, and for those of one or several
names. -/
def Attribute.answers (p : Viewpoint) (attributes : List Attribute) (name : String)
    (names : List String) : Outline :=
  .record [
    p.part "all" attributes, p.part "first" attributes.head?,
    p.part "attribute" (first? attributes name), p.part "named" (named attributes names),
    p.part "has" (has attributes name), p.part "has_any" (hasAny attributes names),
    p.part "has_all" (hasAll attributes names)]

end Introspect
