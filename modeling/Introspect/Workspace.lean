import Introspect.Shortcut

/-!
# `Introspect.Workspace`: names for values and accessors

A workspace runs requests in a session and keeps some of what comes out of them under names. An
accessor that a reflector keeps is held for as long as it has a name, so that a purge leaves it in
place; `release` ends the hold. The session's reflector can be replaced, which makes its holds
void, so each held accessor remembers the reflector that it comes from.

Shortcuts have a reflector of their own, which no request of the session sees.

`value?_nameValue` says that a named value is found again, and `accessors_drop` that dropping a name
leaves no accessor under it.
-/

set_option autoImplicit false

namespace Introspect

/-- A prepared accessor of any form. -/
inductive AnyAccessor
  | member (accessor : Accessor)
  | mapper (mapper : ObjectMapper)

/-- Where an accessor comes from. -/
inductive Origin
  /-- kept by a reflector, with the numbers of both -/
  | kept (reflector artifact : Nat)
  /-- prepared past the cache, with a number of its own -/
  | single (number : Nat)
  deriving DecidableEq

/-- An accessor whose hold has not ended. -/
structure HeldAccessor where
  accessor : AnyAccessor
  origin : Origin

/-- Whether two accessors have the same form. -/
def AnyAccessor.sameForm : AnyAccessor → AnyAccessor → Bool
  | .mapper _, .mapper _ => true
  | .member (.getter _), .member (.getter _) => true
  | .member (.setter _), .member (.setter _) => true
  | .member (.method _), .member (.method _) => true
  | .member (.constructor _), .member (.constructor _) => true
  | .member (.elementGetter _), .member (.elementGetter _) => true
  | .member (.elementSetter _), .member (.elementSetter _) => true
  | _, _ => false

/-- Whether two accessors are one and the same. Artifacts of different forms share numbers. -/
def HeldAccessor.same (a b : HeldAccessor) : Bool :=
  a.accessor.sameForm b.accessor && a.origin == b.origin

/-- A session with names. -/
structure Workspace where
  session : Session
  /-- the reflector of shortcuts -/
  shared : Reflector
  /-- how many reflectors the session had before -/
  generation : Nat
  /-- how many accessors have been prepared past the cache -/
  issued : Nat
  values : List (String × Value)
  accessors : List (String × HeldAccessor)

/-- Actions in a workspace. A failure keeps the state it arose in. -/
abbrev WorkM (α : Type) : Type := ExceptT ReflectError (StateM Workspace) α

namespace Workspace

/-- A workspace in a world, without names. -/
def ofWorld (world : World) : Workspace :=
  { session := ⟨world, .standard⟩, shared := .standard, generation := 0, issued := 0
    values := [], accessors := [] }

/-- Replaces the world. -/
def withWorld (work : Workspace) (world : World) : Workspace :=
  { work with session := { work.session with world } }

/-- Replaces the state of the session's reflector. -/
def withReflector (work : Workspace) (reflector : Reflector) : Workspace :=
  { work with session := { work.session with reflector } }

/-- Starts over with another reflector. -/
def renew (work : Workspace) (reflector : Reflector) : Workspace :=
  { work.withReflector reflector with generation := work.generation + 1 }

/-! ### Names -/

/-- Ends the hold on an accessor, if its reflector is still there. -/
def release (work : Workspace) (held : HeldAccessor) : Workspace :=
  match held.origin with
  | .single _ => work
  | .kept generation id =>
    -- A reflector that was replaced took its caches along.
    if generation = work.generation then
      let reflector := work.session.reflector
      match held.accessor with
      | .member _ => work.withReflector { reflector with members := reflector.members.release id }
      | .mapper _ => work.withReflector { reflector with mappers := reflector.mappers.release id }
    else work

/-- The value with a name. -/
def value? (work : Workspace) (name : String) : Option Value := work.values.lookup name

/-- The accessor with a name. -/
def accessor? (work : Workspace) (name : String) : Option HeldAccessor :=
  work.accessors.lookup name

/-- Gives a name to a value. -/
def nameValue (work : Workspace) (name : String) (v : Value) : Workspace :=
  { work with values := (name, v) :: work.values.filter (·.1 != name) }

/-- Takes the name from an accessor, and ends the hold on it. -/
def dropAccessor (work : Workspace) (name : String) : Workspace :=
  let work := match work.accessor? name with
    | some held => work.release held
    | none => work
  { work with accessors := work.accessors.filter (·.1 != name) }

/-- Gives a name to an accessor. The hold of an earlier one of the name ends. -/
def nameAccessor (work : Workspace) (name : String) (held : HeldAccessor) : Workspace :=
  let work := work.dropAccessor name
  { work with accessors := (name, held) :: work.accessors }

/-- Takes a name from whatever has it. -/
def drop (work : Workspace) (name : String) : Workspace :=
  let work := work.dropAccessor name
  { work with values := work.values.filter (·.1 != name) }

/-- Whether a name is in use. -/
def uses (work : Workspace) (name : String) : Bool :=
  (work.value? name).isSome || (work.accessor? name).isSome

/-- A named value is found under its name. -/
theorem value?_nameValue (work : Workspace) (name : String) (v : Value) :
    (work.nameValue name v).value? name = some v := by
  simp [nameValue, value?]

/-- After a name is dropped there is no accessor under it. -/
theorem accessors_drop (work : Workspace) (name : String) (entry : String × HeldAccessor)
    (h : entry ∈ (work.drop name).accessors) : entry.1 ≠ name := by
  simp only [drop, dropAccessor, List.mem_filter, bne_iff_ne] at h
  exact h.2

/-! ### Requests -/

/-- Runs a request in the session. -/
def request {α : Type} (action : ReflectM α) : WorkM α := do
  let work ← getThe Workspace
  let (result, session) := action.run.run work.session
  set { work with session }
  liftExcept result
where
  /-- A result or failure. -/
  liftExcept : Except ReflectError α → WorkM α
    | .ok a => pure a
    | .error e => throw e

/-- Runs a request with the reflector of shortcuts. -/
def requestShared {α : Type} (action : ReflectM α) : WorkM α := do
  let work ← getThe Workspace
  let (result, after) := action.run.run ⟨work.session.world, work.shared⟩
  set { work.withWorld after.world with shared := after.reflector }
  request.liftExcept result

/-- Requests an accessor, whose hold is the caller's. -/
def hold {β : Type} (compiler : Compiler β) (action : ReflectM (Artifact (Prepared β))) :
    WorkM HeldAccessor := do
  let artifact ← request action
  return ⟨.member (compiler.facet.wrap artifact.content), .kept (← get).generation artifact.id⟩

/-- Requests a mapper, whose hold is the caller's. -/
def holdMapper (action : ReflectM (Artifact ObjectMapper)) : WorkM HeldAccessor := do
  let artifact ← request action
  return ⟨.mapper artifact.content, .kept (← get).generation artifact.id⟩

/-- A number for an accessor that no cache keeps. -/
def nextOrigin : WorkM Origin :=
  modifyGet fun work => (.single work.issued, { work with issued := work.issued + 1 })

/-- Prepares an accessor past the cache. -/
def prepare {β : Type} (compiler : Compiler β) (sig : Signature) : WorkM HeldAccessor := do
  let prepared ← request (Reflector.prepare compiler sig)
  return ⟨.member (compiler.facet.wrap prepared), ← nextOrigin⟩

/-- Prepares a mapper past the cache. -/
def prepareMapper (sig : MapSignature) : WorkM HeldAccessor := do
  let mapper ← request (Reflector.prepareMapper sig)
  return ⟨.mapper mapper, ← nextOrigin⟩

end Workspace

end Introspect
