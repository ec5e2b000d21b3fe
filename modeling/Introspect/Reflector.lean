import Introspect.Accessor.Mapper
import Introspect.Cache

/-!
# `Introspect.Reflector`: requests for accessors

A reflector keeps prepared accessors and mappers in two caches. A request builds a signature, and
prepares an accessor only if none is kept for that signature. The caller holds what it gets until it
is done with it: `use` runs an action and ends the hold afterwards.

Requests without flags see static members as well when they are for fields and properties, and
static members only when they are for static methods.

`request_of_hit` says that a kept accessor answers a request without any preparation.
-/

set_option autoImplicit false

namespace Introspect

/-- Prepared accessors and mappers. -/
structure Reflector where
  members : Cache Signature Accessor
  mappers : Cache MapSignature ObjectMapper
  /-- the flags of requests that give none -/
  standardFlags : Flags
  /-- how many requests have been resolved, a number without a limit -/
  resolutions : Nat

/-- A world and the reflector that works in it. -/
structure Session where
  world : World
  reflector : Reflector

/-- Requests and what is done with their answers. A failure keeps the state it arose in. -/
abbrev ReflectM (α : Type) : Type := ExceptT ReflectError (StateM Session) α

namespace Reflector

/-- A reflector that has prepared nothing yet. -/
def empty (strategy : CacheStrategy) (softLimit : Option Nat) (flags : Flags) : Reflector :=
  { members := .empty strategy softLimit, mappers := .empty strategy softLimit
    standardFlags := flags, resolutions := 0 }

/-- The usual reflector. -/
def standard : Reflector := empty .temporary none Flags.standard

/-- The flags of requests for fields and properties that give none. -/
def memberFlags (r : Reflector) : Flags := r.standardFlags ∪ Flags.staticMembers

/-- The flags of requests for static methods. -/
def staticFlags (r : Reflector) : Flags :=
  (r.standardFlags \ Flags.instanceMembers) ∪ Flags.staticMembers

/-- How many accessors and mappers are kept. -/
def size (r : Reflector) : Nat := r.members.size + r.mappers.size

/-- Takes out what nobody holds, and says how much that was. -/
def purge (r : Reflector) : Nat × Reflector :=
  let (members, membersLeft) := r.members.purge
  let (mappers, mappersLeft) := r.mappers.purge
  (members + mappers, { r with members := membersLeft, mappers := mappersLeft })

/-- Takes out everything. -/
def clear (r : Reflector) : Reflector :=
  { r with members := r.members.clear, mappers := r.mappers.clear }

/-! ### Access to the session -/

/-- The types of the session. -/
def registry : ReflectM Registry := do
  return (← get).world.registry

/-- Changes the reflector. -/
def update {α : Type} (change : Reflector → α × Reflector) : ReflectM α :=
  modifyGet fun s => ((change s.reflector).1, { s with reflector := (change s.reflector).2 })

/-- Changes the cache of members. -/
def updateMembers {α : Type}
    (change : Cache Signature Accessor → α × Cache Signature Accessor) : ReflectM α :=
  update fun r => ((change r.members).1, { r with members := (change r.members).2 })

/-- Changes the cache of mappers. -/
def updateMappers {α : Type}
    (change : Cache MapSignature ObjectMapper → α × Cache MapSignature ObjectMapper) :
    ReflectM α :=
  update fun r => ((change r.mappers).1, { r with mappers := (change r.mappers).2 })

/-- Something that is found out from the types alone. -/
def ofRegistry {α : Type} (f : Registry → Except ReflectError α) : ReflectM α := do
  liftExcept (f (← registry))
where
  /-- A result or failure. -/
  liftExcept : Except ReflectError α → ReflectM α
    | .ok a => pure a
    | .error e => throw e

/-- Runs something in the world of the session. -/
def inWorld {α : Type} (f : World → α × World) : ReflectM α :=
  modifyGet fun s => ((f s.world).1, { s with world := (f s.world).2 })

/-- Runs a call in the world of the session. -/
def invoke {α : Type} (call : World → Except InvokeError α × World) : ReflectM α := do
  match ← inWorld call with
  | .ok a => return a
  | .error e => throw (.invoke e)

/-! ### Requests -/

/-- Prepares an accessor without looking at what is kept. -/
def prepare {β : Type} (compiler : Compiler β) (sig : Signature) : ReflectM (Prepared β) := do
  -- A resolution counts even when the accessor cannot be prepared afterwards.
  let (result, resolved) := compiler.compile (← registry) sig
  update fun r => ((), { r with resolutions := r.resolutions + resolved })
  match result with
  | .ok prepared => return prepared
  | .error e => throw e

/-- Requests an accessor. -/
def request {β : Type} (compiler : Compiler β) (sig : Signature) :
    ReflectM (Artifact (Prepared β)) :=
  Cache.request updateMembers compiler.facet sig fun sig => prepare compiler sig

/-- Prepares a mapper without looking at what is kept. -/
def prepareMapper (sig : MapSignature) : ReflectM ObjectMapper := ofRegistry sig.compile

/-- Requests a mapper. -/
def requestMapper (sig : MapSignature) : ReflectM (Artifact ObjectMapper) :=
  Cache.request updateMappers Facet.whole sig prepareMapper

/-- Runs an action and ends the hold on an accessor, whether the action succeeds or not. -/
def use {α β : Type} (artifact : Artifact β) (action : ReflectM α) : ReflectM α :=
  ExceptT.mk do
    let result ← action.run
    (updateMembers fun c => ((), c.release artifact.id) : ReflectM Unit).run *> pure result

/-- Runs an action and ends the hold on a mapper, whether the action succeeds or not. -/
def useMapper {α : Type} (artifact : Artifact ObjectMapper) (action : ReflectM α) : ReflectM α :=
  ExceptT.mk do
    let result ← action.run
    (updateMappers fun c => ((), c.release artifact.id) : ReflectM Unit).run *> pure result

/-- The flags of requests for fields and properties, unless some are given. -/
def orMemberFlags (flags : Option Flags) : ReflectM Flags := do
  return flags.getD (← get).reflector.memberFlags

/-- The flags of other requests, unless some are given. -/
def orStandardFlags (flags : Option Flags) : ReflectM Flags := do
  return flags.getD (← get).reflector.standardFlags

/-- Reads of a field. -/
def fieldGetter (type : TypeHandle) (name : String) (flags : Option Flags) :
    ReflectM (Artifact (Prepared Reader)) := do
  request .getter (.field type name .read (← orMemberFlags flags))

/-- Writes of a field. -/
def fieldSetter (type : TypeHandle) (name : String) (flags : Option Flags) :
    ReflectM (Artifact (Prepared Writer)) := do
  request .setter (.field type name .write (← orMemberFlags flags))

/-- Reads of a property. -/
def propertyGetter (type : TypeHandle) (name : String) (flags : Option Flags) :
    ReflectM (Artifact (Prepared Reader)) := do
  request .getter (.property type name .read (← orMemberFlags flags))

/-- Writes of a property. -/
def propertySetter (type : TypeHandle) (name : String) (flags : Option Flags) :
    ReflectM (Artifact (Prepared Writer)) := do
  request .setter (.property type name .write (← orMemberFlags flags))

/-- The second request when the first one found no member. -/
def orElseMember {α : Type} (first second : ReflectM α) : ReflectM α :=
  tryCatch first fun
    | .memberNotFound .. => second
    | e => throw e

/-- Reads of a field, or else of a property. -/
def memberGetter (type : TypeHandle) (name : String) : ReflectM (Artifact (Prepared Reader)) :=
  orElseMember (fieldGetter type name none) (propertyGetter type name none)

/-- Writes of a field, or else of a property. -/
def memberSetter (type : TypeHandle) (name : String) : ReflectM (Artifact (Prepared Writer)) :=
  orElseMember (fieldSetter type name none) (propertySetter type name none)

/-- Calls of a method. -/
def method (type : TypeHandle) (name : String) (params : List TypeHandle)
    (flags : Option Flags) : ReflectM (Artifact (Prepared CallPlan)) := do
  request .method (.method type name params (← orStandardFlags flags))

/-- Calls of a static method. -/
def staticMethod (type : TypeHandle) (name : String) (params : List TypeHandle) :
    ReflectM (Artifact (Prepared CallPlan)) := do
  method type name params (some (← get).reflector.staticFlags)

/-- Calls of a method with type arguments. -/
def genericMethod (type : TypeHandle) (name : String) (params typeArgs : List TypeHandle)
    (flags : Flags) : ReflectM (Artifact (Prepared CallPlan)) :=
  request .method ((Signature.method type name params flags).withTypeArgs typeArgs)

/-- Creation of instances. -/
def constructor (type : TypeHandle) (params : List TypeHandle) (flags : Option Flags) :
    ReflectM (Artifact (Prepared Creator)) := do
  request .constructor (.constructor type params (← orStandardFlags flags))

/-- Reads of array elements. -/
def elementGetter (array : TypeHandle) : ReflectM (Artifact (Prepared ElementReader)) :=
  request .elementGetter (.element array .read)

/-- Writes of array elements. -/
def elementSetter (array : TypeHandle) : ReflectM (Artifact (Prepared ElementWriter)) :=
  request .elementSetter (.element array .write)

/-- Reads of an indexer. -/
def indexerGetter (type : TypeHandle) (index : List TypeHandle) :
    ReflectM (Artifact (Prepared CallPlan)) :=
  method type "get_Item" index none

/-- Writes of an indexer. -/
def indexerSetter (type : TypeHandle) (index : List TypeHandle) (value : TypeHandle) :
    ReflectM (Artifact (Prepared CallPlan)) :=
  method type "set_Item" (index ++ [value]) none

/-- Copies of members of given kinds and names. -/
def mapper (source target : TypeHandle) (sourceKinds targetKinds : DataKinds)
    (names : List String) (flags : Option Flags) : ReflectM (Artifact ObjectMapper) := do
  requestMapper
    (.between source target sourceKinds targetKinds names (← orStandardFlags flags))

/-- The member that a request asks for, with the signature that says so. -/
def resolve (sig : Signature) : ReflectM (MemberHandle × Signature) := do
  let found ← ofRegistry (Resolver.resolve · sig)
  update fun r => ((), { r with resolutions := r.resolutions + 1 })
  return (found.member, sig.withResolution found)

/-- A kept accessor answers a request; nothing is prepared, and the accessor has one more hold. -/
theorem request_of_hit {β : Type} (compiler : Compiler β) (sig : Signature) (s : Session)
    (found : Artifact (Prepared β))
    (h : s.reflector.members.findAs? compiler.facet sig = some found) :
    ((request compiler sig).run s).1 = .ok found ∧
      ((request compiler sig).run s).2.reflector.resolutions = s.reflector.resolutions := by
  have hl : (s.reflector.members.lookup compiler.facet sig).1 = some found := by
    simp [Cache.lookup, h]
  have hrun : (request compiler sig).run s =
      (.ok found, { s with
        reflector := { s.reflector with
          members := (s.reflector.members.lookup compiler.facet sig).2 } }) := by
    simp only [request, Cache.request, updateMembers, update, ExceptT.run, bind, ExceptT.bind,
      ExceptT.mk, ExceptT.bindCont, modifyGet, MonadStateOf.modifyGet, StateT.modifyGet,
      monadLift, MonadLift.monadLift, ExceptT.lift, StateT.bind, Functor.map, StateT.map, pure,
      hl]
    rfl
  rw [hrun]
  exact ⟨rfl, rfl⟩

end Reflector

end Introspect
