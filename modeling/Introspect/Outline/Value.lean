import Introspect.Outline

/-!
# `Introspect.Outline.Value`: outlines of values

The outline of a value goes down to a given number of levels: the value itself is one, slots, items
and the content of a cell are one below what holds them. What lies deeper is only marked as such, so
that a value that reaches itself has an outline too. `value_zero` says so for the last level.

An object that is locked against reading shows no slots.
-/

set_option autoImplicit false

namespace Introspect.Viewpoint

/-- The outlines of an instance's slots, those of the base first. -/
def slots (p : Viewpoint) (shown : World → Value → Outline) (data : Instance) : Outline :=
  match p.layout? data.native with
  | some layout =>
    let (values, w) := layout.dump p.world data
    .list (values.map (shown w))
  | none => .list []

/-- The outline of a value with at most `levels` levels. -/
def value (p : Viewpoint) : Nat → World → Value → Outline
  | 0, _, _ => .record [("deep", .bool true)]
  | _, _, .null => .null
  | _, _, .bool b => .bool b
  | _, _, .int32 n => .number n.toInt
  | _, _, .int64 n => .int64 n
  | _, _, .float64 x => .float x
  | _, _, .string s => .text s
  | _, w, .enum type n =>
    .record [("enum", .text (w.registry.nameOf type)), ("v", .text (Decimal.ofInt n.toInt))]
  | levels + 1, w, .struct type data =>
    .record [("struct", .text (w.registry.nameOf type)),
      ("s", slots { p with world := w } (p.value levels) data)]
  | levels + 1, w, .object ref =>
    let name := ("object", .text (w.registry.nameOf ref.type))
    match w.lock ref .shared with
    | .ok _ => .record [name, ("s", slots { p with world := w } (p.value levels) (w.payload ref))]
    | .error _ => .record [name, ("locked", .bool true)]
  | levels + 1, w, .array ref =>
    .record [("array", .text (w.registry.nameOf ref.element)),
      ("items", .list ((w.items ref).map (p.value levels w)))]
  | levels + 1, w, .cell ref => .record [("cell", p.value levels w (w.cellContent ref))]

/-- The number of levels that are shown. -/
def levels : Nat := 6

/-- Below the last level nothing of a value is shown. -/
theorem value_zero (p : Viewpoint) (w : World) (v : Value) :
    p.value 0 w v = .record [("deep", .bool true)] := by
  simp [value]

end Introspect.Viewpoint

namespace Introspect

instance : Outlined Value := ⟨fun p v => p.value Viewpoint.levels p.world v⟩

/-- A type is shown by its name. -/
instance : Outlined TypeHandle := ⟨fun p type => .text (p.world.registry.nameOf type)⟩

/-- What is known of an array besides the place where it is kept. -/
instance : Described ArrayRef where
  parts p array :=
    let items := p.world.items array
    [p.part "len" items.length, p.part "empty" items.isEmpty, p.part "type" array.type,
      p.part "element" array.element, p.part "items" items]

/-- What a value is at each built-in type; null where it is something else. Every whole number and
enumeration member has 64 bits too, shown in decimal digits. -/
def Viewpoint.facets (p : Viewpoint) (v : Value) : Outline :=
  .record [
    ("null", .bool (match v with | .null => true | _ => false)),
    ("bool", match v with | .bool b => .bool b | _ => .null),
    ("i32", match v with | .int32 n => .number n.toInt | _ => .null),
    p.part "i64" (v.asInt64.map fun n => Decimal.ofInt n.toInt),
    ("f64", match v with | .float64 x => .float x | _ => .null),
    ("str", match v with | .string s => .text s | _ => .null),
    ("object", .bool (match v with | .object _ => true | _ => false)),
    ("array", match v with | .array array => outline p (p.world.items array).length | _ => .null),
    ("cell", .bool v.isCell),
    ("struct", match v with | .struct type _ => outline p type | _ => .null)]

end Introspect
