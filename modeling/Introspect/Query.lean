import Introspect.Resolver

/-!
# `Introspect.Query`: lists of members

Queries list the members of a type the way requests see them: the type chain is walked, most derived
type first, and a member hides those of its bases that have the same name. Methods are hidden by
methods of the same name and the same parameter types.

A list of names selects the members that match one of them; an empty list selects all. Every query
is `collect` with a test and a rule for hiding; `collect_append` says that a longer chain only adds
to what a shorter one found.
-/

set_option autoImplicit false

namespace Introspect

/-- A member together with the type that declares it. -/
structure Declared (α : Type) where
  declaring : TypeHandle
  member : α

namespace Query

/-- Whether a list of names selects a member. -/
def selects (flags : Flags) (names : List String) (member : String) : Bool :=
  names.isEmpty || names.any fun name => flags.matchesName member name

section

variable {α : Type}

/-- Adds a member that is wanted and not hidden. -/
def add (wanted : α → Bool) (hides : α → α → Bool) (declaring : TypeHandle)
    (found : List (Declared α)) (member : α) : List (Declared α) :=
  if wanted member && !found.any (fun earlier => hides earlier.member member) then
    found ++ [⟨declaring, member⟩]
  else found

/-- The wanted members along a chain, without hidden ones, after those found before. -/
def collect (members : TypeInfo → List α) (wanted : α → Bool) (hides : α → α → Bool)
    (chain : List TypeInfo) (found : List (Declared α)) : List (Declared α) :=
  chain.foldl (fun found info => (members info).foldl (add wanted hides info.handle) found) found

/-- A longer chain is walked after a shorter one. -/
theorem collect_append (members : TypeInfo → List α) (wanted : α → Bool) (hides : α → α → Bool)
    (first rest : List TypeInfo) (found : List (Declared α)) :
    collect members wanted hides (first ++ rest) found =
      collect members wanted hides rest (collect members wanted hides first found) := by
  simp [collect]

end

/-- Whether backing members are left out. -/
def skipsBacking (flags : Flags) : Bool := flags.contains Flags.excludeBackingMembers

/-- The fields of a type. -/
def fields (reg : Registry) (type : TypeHandle) (flags : Flags) (names : List String) :
    Except ReflectError (List (Declared FieldInfo)) := do
  let chain ← reg.typeChain type flags
  return collect TypeInfo.fields
    (fun f =>
      flags.matchesBinding f.visibility f.isStatic && !(skipsBacking flags && f.isBacking) &&
        selects flags names f.name)
    (fun a b => a.name == b.name) chain []

/-- The properties of a type. -/
def properties (reg : Registry) (type : TypeHandle) (flags : Flags) (names : List String) :
    Except ReflectError (List (Declared PropertyInfo)) := do
  let chain ← reg.typeChain type flags
  return collect TypeInfo.properties
    (fun p => flags.matchesBinding p.visibility p.isStatic && selects flags names p.name)
    (fun a b => a.name == b.name) chain []

/-- The methods of a type. -/
def methods (reg : Registry) (type : TypeHandle) (flags : Flags) (names : List String) :
    Except ReflectError (List (Declared MethodInfo)) := do
  let chain ← reg.typeChain type flags
  return collect TypeInfo.methods
    (fun m => flags.matchesBinding m.visibility m.isStatic &&
      !(skipsBacking flags && m.isPropertyAccessor) && selects flags names m.name)
    (fun a b => a.name == b.name && a.paramTypes == b.paramTypes) chain []

/-- The constructors of a type itself; none are inherited. -/
def constructors (reg : Registry) (type : TypeHandle) (flags : Flags) :
    Except ReflectError (List ConstructorInfo) := do
  let info ← reg.info type
  return info.constructors.filter fun c => flags.matchesBinding c.visibility false

/-- The first field of a name. -/
def field (reg : Registry) (type : TypeHandle) (name : String) (flags : Flags) :
    Except ReflectError (Declared FieldInfo) := do
  match ← fields reg type flags [name] with
  | first :: _ => return first
  | [] => throw (.memberNotFound (reg.nameOf type) name flags)

/-- The first property of a name. -/
def property (reg : Registry) (type : TypeHandle) (name : String) (flags : Flags) :
    Except ReflectError (Declared PropertyInfo) := do
  match ← properties reg type flags [name] with
  | first :: _ => return first
  | [] => throw (.memberNotFound (reg.nameOf type) name flags)

/-- The first method of a name with exactly these parameter types. -/
def method (reg : Registry) (type : TypeHandle) (name : String) (params : List TypeHandle)
    (flags : Flags) : Except ReflectError (Declared MethodInfo) := do
  let found ← methods reg type flags [name]
  match found.find? fun m => m.member.paramTypes == params with
  | some first => return first
  | none =>
    throw (.methodNotFound (reg.nameOf type) name (reg.describeTypes params) flags)

end Query

end Introspect
