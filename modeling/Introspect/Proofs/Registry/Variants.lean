import Introspect.Conversion
import Introspect.Proofs.Registry.Handles

/-!
# `Introspect.Proofs.Registry.Variants`: enumerations with nothing but their own members

A description is run by answering its requests, and what it says depends on the answers. `Always`
is about what it says whatever they are. A property of descriptors that all array types have, and
all types that are built from what the descriptions of a family say, is one of every descriptor
after any number of requests (`every_requestAll`).

One such property is about enumerations. An enumeration may be given constants that are no members,
such as a number or a member of another enumeration, and a text that names one is converted to it.
`EnumsByVariants` says that there are none. This is so when no description gives constants to an
enumeration by hand, and all of them are declared as variants (`enumsByVariants_requestAll`).
-/

set_option autoImplicit false

namespace Introspect

/-! ### What a description says, whatever the answers are -/

namespace Description

variable {α : Type} {p : α → Prop} {description : Description α}

/-- The result has a property, however the requests are answered. -/
def Always (p : α → Prop) : Description α → Prop
  | done a => p a
  | request _ next => ∀ type, Always p (next type)
  | arrayOf _ next => ∀ type, Always p (next type)

/-- The answers of a run are among those that are possible. -/
theorem Always.run (h : description.Always p)
    (answer : NativeType → Registry → TypeHandle × Registry) (reg : Registry) :
    p (description.run answer reg).1 := by
  induction description generalizing reg with
  | done a => exact h
  | request native next ih => exact ih _ (h _) _
  | arrayOf element next ih => exact ih _ (h _) _

end Description

/-- The members of an enumeration are declared as variants, and it has no other constants. -/
def Blueprint.DeclaresVariants (b : Blueprint) : Prop :=
  b.kind = .enum → ∀ field ∈ b.fields, field.constant? = none

namespace Registry

variable {reg : Registry} {P : TypeHandle → TypeInfo → Prop} {Q : Blueprint → Prop}
  {family : Family}

section Requests

/-! ### Properties of descriptors across requests -/

variable (harray : ∀ array element name, P array (arrayInfo array element name))
  (hbuild : ∀ {b : Blueprint}, Q b → ∀ type reg, b.element = none → P type (b.build type reg))

include harray

/-- A description that runs keeps a property that the answers to its requests keep. -/
theorem every_run {α : Type} {answer : NativeType → Registry → TypeHandle × Registry}
    (hanswer : ∀ native {reg : Registry}, reg.Every P → (answer native reg).2.Every P)
    (description : Description α) (h : reg.Every P) :
    (description.run answer reg).2.Every P := by
  induction description generalizing reg with
  | done a => exact h
  | request native next ih => exact ih _ (hanswer native h)
  | arrayOf element next ih => exact ih _ (every_arrayOf harray h element)

/-- A request keeps a property that the description of an unknown type keeps. A list is made into an
array type. -/
theorem every_requestWith {describe : NativeType → Registry → TypeHandle × Registry}
    (hdescribe : ∀ native {reg : Registry}, reg.Every P → (describe native reg).2.Every P)
    (native : NativeType) (h : reg.Every P) : (requestWith describe native reg).2.Every P := by
  fun_induction requestWith describe native reg with
  | case1 => exact h
  | case2 element reg _ type reserved hreserve inner answered hanswer ih =>
      have hreserved : reserved.Every P :=
        every_of_types_eq h (congrArg (·.2.types) hreserve).symm
      have hanswered : answered.Every P := by
        rw [hanswer] at ih
        exact ih hreserved
      exact every_settle harray hanswered _ type fun hnone => by cases hnone
  | case3 => exact h
  | case4 => exact hdescribe _ h

include hbuild

/-- A request keeps a property that all types have that the family describes. -/
theorem every_requestUpTo (hfamily : ∀ entry ∈ family, entry.2.Always Q) (limit : Nat)
    (native : NativeType) (h : reg.Every P) : (requestUpTo family limit native reg).2.Every P := by
  induction limit generalizing native reg with
  | zero => exact every_requestWith harray (fun _ _ h => h) native h
  | succ limit ih =>
      refine every_requestWith harray (fun native reg h => ?_) native h
      split
      · exact h
      · next description hdescription =>
          obtain ⟨front, back, hentries, -⟩ := List.lookup_eq_some_iff.mp hdescription
          have halways : description.Always Q := hfamily (native, description) (by simp [hentries])
          have hreserved : (reg.reserve native).2.Every P := every_of_types_eq h rfl
          have hrun := every_run harray (fun native _ h => ih native h) description hreserved
          exact every_settle harray hrun native _ (hbuild (halways.run _ _) _ _)

/-- Any number of requests keep a property that all types have that the family describes. -/
theorem every_requestAll (hfamily : ∀ entry ∈ family, entry.2.Always Q)
    (natives : List NativeType) (h : reg.Every P) : (requestAll family natives reg).Every P := by
  induction natives generalizing reg with
  | nil => exact h
  | cons native rest ih =>
      exact ih (every_requestUpTo harray hbuild hfamily family.length native h)

end Requests

/-! ### Enumerations -/

/-- The constants of every enumeration stand for values of it. -/
def EnumsByVariants (reg : Registry) : Prop :=
  reg.Every fun type info => info.kind = .enum → ∀ field ∈ info.fields,
    ∀ content, field.constant? = some content → ∃ n, content = .enum type n

/-- An enumeration that declares variants is built with its own members only. -/
theorem exists_enum_of_build {b : Blueprint} (hb : b.DeclaresVariants) {type : TypeHandle}
    (hkind : b.kind = .enum) {field : FieldInfo} (hfield : field ∈ (b.build type reg).fields)
    {content : Value} (hcontent : field.constant? = some content) :
    ∃ n, content = .enum type n := by
  obtain ⟨declared, hdeclared, rfl⟩ := List.mem_map.mp hfield
  -- The attributes that the field has got on the way do not matter.
  have hsame : declared.constant? = some content := hcontent
  rcases List.mem_append.mp hdeclared with hmem | hmem
  · rw [hb hkind declared hmem] at hsame
    cases hsame
  · obtain ⟨⟨name, n⟩, -, rfl⟩ := List.mem_map.mp hmem
    exact ⟨n, (Option.some.inj hsame).symm⟩

/-- There are no enumerations at the start. -/
theorem enumsByVariants_initial : initial.EnumsByVariants := by
  refine every_initial fun info hinfo hkind => ?_
  have hnone : ∀ info ∈ builtins, info.kind ≠ .enum := by decide
  exact absurd hkind (hnone info hinfo)

/-- A type that declares variants is declared. -/
theorem enumsByVariants_declare (h : reg.EnumsByVariants) (native : NativeType) {b : Blueprint}
    (hb : b.DeclaresVariants) : (reg.declare native b).2.EnumsByVariants := by
  have hreserved : (reg.reserve native).2.EnumsByVariants := every_of_types_eq h rfl
  refine every_settle (fun _ _ _ hkind => by cases hkind) hreserved native _ fun _ hkind => ?_
  exact fun field hfield content hcontent => exists_enum_of_build hb hkind hfield hcontent

/-- Requests add no enumeration with other constants if the family describes none. -/
theorem enumsByVariants_requestAll
    (hfamily : ∀ entry ∈ family, entry.2.Always Blueprint.DeclaresVariants)
    (natives : List NativeType) (h : reg.EnumsByVariants) :
    (requestAll family natives reg).EnumsByVariants := by
  refine every_requestAll (fun _ _ _ hkind => by cases hkind) (fun hb type reg _ hkind => ?_)
    hfamily natives h
  exact fun field hfield content hcontent => exists_enum_of_build hb hkind hfield hcontent

end Registry

end Introspect
