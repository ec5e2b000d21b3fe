import Introspect.Blueprint

/-!
# `Introspect.Registration`: types are described on first request

A description may ask for the types of other native types, its own included, and for array types. A
native type that is being described has a reserved handle, which such requests are answered with.
`request` answers a request: with the known type, the reserved handle, or by running the description
and publishing what it says.

Each native type is described at most once at a time, so requests nest no deeper than the family of
descriptions is large; that number is the limit the recursion runs on.
-/

set_option autoImplicit false

namespace Introspect

/-- A computation that may ask for types on the way to its result. -/
inductive Description (α : Type) : Type
  | done (result : α)
  /-- the type of a native type -/
  | request (native : NativeType) (next : TypeHandle → Description α)
  /-- the array type of an element type -/
  | arrayOf (element : TypeHandle) (next : TypeHandle → Description α)

namespace Description

/-- One description after another. -/
def bind {α β : Type} : Description α → (α → Description β) → Description β
  | done a, f => f a
  | request native next, f => request native fun type => (next type).bind f
  | arrayOf element next, f => arrayOf element fun type => (next type).bind f

instance : Monad Description where
  pure := done
  bind := bind

/-- Asks for the type of a native type. -/
def typeOf (native : NativeType) : Description TypeHandle := request native done

/-- Asks for the array type of an element type. -/
def arrayType (element : TypeHandle) : Description TypeHandle := arrayOf element done

/-- Runs a description, given how requests are answered. -/
def run {α : Type} (answer : NativeType → Registry → TypeHandle × Registry) :
    Description α → Registry → α × Registry
  | done a, reg => (a, reg)
  | request native next, reg =>
    let (type, reg) := answer native reg
    (next type).run answer reg
  | arrayOf element next, reg =>
    let (type, reg) := reg.arrayOf element
    (next type).run answer reg

end Description

/-- The descriptions of a set of native types. -/
abbrev Family : Type := List (NativeType × Description Blueprint)

namespace Registry

/-- The type of a native type that is known or being described. -/
def known (reg : Registry) (native : NativeType) : Option TypeHandle :=
  (reg.natives.lookup native).or (reg.pending.lookup native)

/-- Reserves a handle for a native type. -/
def reserve (reg : Registry) (native : NativeType) : TypeHandle × Registry :=
  let (type, reg) := reg.fresh
  (type, { reg with pending := (native, type) :: reg.pending })

/-- Ends the description of a native type. An array type takes the place of the reserved handle;
anything else is published under it. -/
def settle (reg : Registry) (native : NativeType) (type : TypeHandle) (b : Blueprint) :
    TypeHandle × Registry :=
  match b.element with
  | some element =>
    let (array, reg) := reg.arrayOf element
    (array, { reg with
      pending := reg.pending.filter (·.1 != native), natives := (native, array) :: reg.natives })
  | none =>
    let info := b.build type reg
    let reg := { reg with
      pending := reg.pending.filter (·.1 != native), natives := (native, type) :: reg.natives }
    (type, (reg.publish info).nameArraysOf type info.name)

/-- Answers a request, given how a native type that is neither known nor a list is described. -/
def requestWith (describe : NativeType → Registry → TypeHandle × Registry) :
    NativeType → Registry → TypeHandle × Registry
  | .list element, reg =>
    match reg.known (.list element) with
    | some type => (type, reg)
    | none =>
      -- A list reserves a handle of its own, which is lost to the array type in the end.
      let (type, reg) := reg.reserve (.list element)
      let (inner, reg) := requestWith describe element reg
      reg.settle (.list element) type (.arrayOf inner)
  | native, reg =>
    match reg.known native with
    | some type => (type, reg)
    | none => describe native reg

/-- Answers a request while at most `limit` more types can be under description. -/
def requestUpTo (family : Family) : Nat → NativeType → Registry → TypeHandle × Registry
  | 0 => requestWith fun _ reg => (.unregistered, reg)
  | limit + 1 => requestWith fun native reg =>
    match family.lookup native with
    | none => (.unregistered, reg)
    | some description =>
      let (type, reg) := reg.reserve native
      let (blueprint, reg) := description.run (requestUpTo family limit) reg
      reg.settle native type blueprint

/-- The type of a native type, described on first request. -/
def request (family : Family) (native : NativeType) (reg : Registry) : TypeHandle × Registry :=
  requestUpTo family family.length native reg

/-- Requests a list of native types, one after another. -/
def requestAll (family : Family) (natives : List NativeType) (reg : Registry) : Registry :=
  natives.foldl (fun reg native => (request family native reg).2) reg

/-- A known native type is answered without any change. -/
theorem request_of_known (family : Family) (native : NativeType) (reg : Registry)
    (type : TypeHandle) (h : reg.known native = some type) :
    request family native reg = (type, reg) := by
  have key : ∀ describe, requestWith describe native reg = (type, reg) := by
    intro describe
    cases native <;> simp [requestWith, h]
  unfold request
  cases family.length <;> simp [requestUpTo, key]

end Registry

end Introspect
