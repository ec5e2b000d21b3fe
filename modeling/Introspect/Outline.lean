import Introspect.Layout

/-!
# `Introspect.Outline`: plain data that stands for other things

An outline is a tree of plain data. It says what a reader can know about a value, a descriptor or a
request without the handles and references that only one registry and one store give a meaning to:
types become their names, objects their slots.

What an outline needs to know besides the thing itself is its `Viewpoint`. Types that have outlines
are instances of `Outlined`.
-/

set_option autoImplicit false

namespace Introspect

/-- A tree of plain data. -/
inductive Outline
  | null
  | bool (b : Bool)
  /-- a number of no certain width -/
  | number (n : Int)
  /-- a 64-bit whole number -/
  | int64 (n : Int64)
  | float (x : Float64)
  | text (s : String)
  | list (items : List Outline)
  /-- named parts -/
  | record (parts : List (String × Outline))
  deriving Inhabited

/-- What names handles and opens references: a world, and the layouts of native types. -/
structure Viewpoint where
  world : World
  layout? : String → Option Layout

/-- Types whose values have an outline. -/
class Outlined (α : Type) where
  /-- the outline of a value -/
  outline : Viewpoint → α → Outline

export Outlined (outline)

/-- Types whose outline is a record. -/
class Described (α : Type) where
  /-- the parts of the record -/
  parts : Viewpoint → α → List (String × Outline)

/-- A named part of a record. -/
def Viewpoint.part {α : Type} [Outlined α] (p : Viewpoint) (name : String) (a : α) :
    String × Outline :=
  (name, outline p a)

instance {α : Type} [Described α] : Outlined α := ⟨fun p a => .record (Described.parts p a)⟩

instance : Outlined Outline := ⟨fun _ o => o⟩
instance : Outlined Unit := ⟨fun _ _ => .null⟩
instance : Outlined Bool := ⟨fun _ b => .bool b⟩
instance : Outlined Nat := ⟨fun _ n => .number n⟩
instance : Outlined Int := ⟨fun _ n => .number n⟩
instance : Outlined Int32 := ⟨fun _ n => .number n.toInt⟩
instance : Outlined Int64 := ⟨fun _ n => .int64 n⟩
instance : Outlined Float64 := ⟨fun _ x => .float x⟩
instance : Outlined String := ⟨fun _ s => .text s⟩

/-- Nothing is null. -/
instance {α : Type} [Outlined α] : Outlined (Option α) where
  outline p
    | some a => outline p a
    | none => .null

instance {α : Type} [Outlined α] : Outlined (List α) :=
  ⟨fun p items => .list (items.map (outline p))⟩

/-- A pair is a list of two. -/
instance {α β : Type} [Outlined α] [Outlined β] : Outlined (α × β) :=
  ⟨fun p ab => .list [outline p ab.1, outline p ab.2]⟩

end Introspect
