import Introspect.Proofs.Registry.Requests

/-!
# `Introspect.Proofs.Registry.Handles`: descriptors lie under their own handles

A registry is a list of descriptors, each with a handle in front, and each descriptor carries a
handle itself. `Keyed` says that the two are the same, so what was found under a handle can be found
again through the descriptor. It is kept by every step of a request (`kept_keyed`), so by any number
of requests for every family of descriptions (`keyed_requestAll`).

Publication is the only step that adds an entry, so what holds of each descriptor that is published
holds of `Every` entry. `ArraysBare` is another such property: array types declare no constructors.
-/

set_option autoImplicit false

namespace Introspect.Registry

variable {reg : Registry}

/-! ### Every entry -/

section Every

variable {P : TypeHandle → TypeInfo → Prop}

/-- Every entry has a property. -/
def Every (P : TypeHandle → TypeInfo → Prop) (reg : Registry) : Prop :=
  ∀ entry ∈ reg.types, P entry.1 entry.2

/-- What is found under a handle has the property. -/
theorem Every.get {type : TypeHandle} {info : TypeInfo} (h : reg.Every P)
    (hinfo : reg.get type = some info) : P type info := by
  obtain ⟨front, back, htypes, -⟩ := List.lookup_eq_some_iff.mp hinfo
  have hentry : (type, info) ∈ reg.types := by simp [htypes]
  exact h _ hentry

/-- Registries with the same entries have the same properties. -/
theorem every_of_types_eq {other : Registry} (h : reg.Every P) (htypes : other.types = reg.types) :
    other.Every P := by
  intro entry hentry
  rw [htypes] at hentry
  exact h entry hentry

/-- Publication is the only step that adds an entry. -/
theorem every_publish (h : reg.Every P) {info : TypeInfo} (hinfo : P info.handle info) :
    (reg.publish info).Every P := by
  intro entry hentry
  rcases List.mem_cons.mp hentry with rfl | hold
  · exact hinfo
  · exact h entry hold

/-- The built-in types are published one after another. -/
theorem every_initial (hbuiltins : ∀ info ∈ builtins, P info.handle info) : initial.Every P := by
  have hall : ∀ (infos : List TypeInfo) {reg : Registry}, reg.Every P →
      (∀ info ∈ infos, P info.handle info) → (infos.foldl publish reg).Every P := by
    intro infos
    induction infos with
    | nil => exact fun h _ => h
    | cons info rest ih =>
        intro reg h hinfos
        exact ih (every_publish h (hinfos info List.mem_cons_self))
          fun other hother => hinfos other (.tail _ hother)
  exact hall builtins (by simp [Every]) hbuiltins

section Arrays

variable (harray : ∀ array element name, P array (arrayInfo array element name))

include harray

/-- A request for an array type publishes its descriptor, if anything. -/
theorem every_arrayOf (h : reg.Every P) (element : TypeHandle) :
    (reg.arrayOf element).2.Every P := by
  unfold arrayOf
  split
  · exact h
  · exact every_publish (every_of_types_eq h rfl) (harray _ _ _)

/-- Naming an array type publishes its descriptor again. -/
theorem every_nameArraysOf (h : reg.Every P) (element : TypeHandle) (name : String) :
    (reg.nameArraysOf element name).Every P := by
  unfold nameArraysOf
  split
  · exact every_publish h (harray _ _ _)
  · exact h

/-- A description that is settled is published as it is built, unless it stands for an array
type. -/
theorem every_settle (h : reg.Every P) (native : NativeType) (type : TypeHandle) {b : Blueprint}
    (hbuild : b.element = none → P type (b.build type reg)) :
    (reg.settle native type b).2.Every P := by
  unfold settle
  split
  · exact every_of_types_eq (every_arrayOf harray h _) rfl
  · next helement =>
      refine every_nameArraysOf harray (every_publish ?_ (hbuild helement)) type _
      exact every_of_types_eq h rfl

end Arrays

end Every

/-! ### Handles -/

/-- Every descriptor lies under its own handle. -/
def Keyed (reg : Registry) : Prop :=
  ∀ entry ∈ reg.types, entry.2.handle = entry.1

/-- Being keyed is a property of every entry. -/
theorem keyed_iff_every : reg.Keyed ↔ reg.Every fun type info => info.handle = type := Iff.rfl

/-- A descriptor that is found under a handle carries that handle. -/
theorem Keyed.handle_eq {type : TypeHandle} {info : TypeInfo} (h : reg.Keyed)
    (hinfo : reg.get type = some info) : info.handle = type :=
  (keyed_iff_every.mp h).get hinfo

/-- Registries with the same entries are keyed alike. -/
theorem keyed_of_types_eq {other : Registry} (h : reg.Keyed) (htypes : other.types = reg.types) :
    other.Keyed :=
  keyed_iff_every.mpr (every_of_types_eq (keyed_iff_every.mp h) htypes)

/-- The built-in types lie under their handles. -/
theorem keyed_initial : initial.Keyed := keyed_iff_every.mpr (every_initial fun _ _ => rfl)

/-- A request for an array type publishes it under its handle, if at all. -/
theorem keyed_arrayOf (h : reg.Keyed) (element : TypeHandle) : (reg.arrayOf element).2.Keyed :=
  keyed_iff_every.mpr (every_arrayOf (fun _ _ _ => rfl) (keyed_iff_every.mp h) element)

/-- A description that is settled is published under the handle that it was built with. -/
theorem keyed_settle (h : reg.Keyed) (native : NativeType) (type : TypeHandle) (b : Blueprint) :
    (reg.settle native type b).2.Keyed :=
  keyed_iff_every.mpr
    (every_settle (fun _ _ _ => rfl) (keyed_iff_every.mp h) native type fun _ => rfl)

/-- What requests do to a registry keeps it keyed. -/
theorem kept_keyed : Kept Keyed where
  reserve _ h := keyed_of_types_eq h rfl
  arrayOf element h := keyed_arrayOf h element
  settle native b _ h _ := keyed_settle h native _ b

/-- A type that is declared is published under its own handle. -/
theorem keyed_declare (h : reg.Keyed) (native : NativeType) (b : Blueprint) :
    (reg.declare native b).2.Keyed :=
  kept_keyed.declare h native b

/-- Any number of requests keep a registry keyed. -/
theorem keyed_requestAll (family : Family) (natives : List NativeType) (h : reg.Keyed) :
    (requestAll family natives reg).Keyed :=
  kept_keyed.requestAll family natives h

/-! ### Array types -/

/-- Array types declare no constructors. -/
def ArraysBare (reg : Registry) : Prop :=
  reg.Every fun _ info => info.kind = .array → info.constructors = []

/-- There are no array types at the start. -/
theorem arraysBare_initial : initial.ArraysBare := by
  refine every_initial fun info hinfo hkind => ?_
  have hnone : ∀ info ∈ builtins, info.kind ≠ .array := by decide
  exact absurd hkind (hnone info hinfo)

/-- A type that is declared is no array type, unless its description asks for that of an element
type. -/
theorem arraysBare_declare (h : reg.ArraysBare) (native : NativeType) {b : Blueprint}
    (hkind : b.element = none → b.kind ≠ .array) : (reg.declare native b).2.ArraysBare := by
  have hreserved : (reg.reserve native).2.ArraysBare := every_of_types_eq h rfl
  refine every_settle (fun _ _ _ _ => rfl) hreserved native _ fun helement harray => ?_
  exact absurd harray (hkind helement)

end Introspect.Registry
