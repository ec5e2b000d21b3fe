import Introspect.Proofs.Accessor.Storage
import Introspect.Proofs.Accessor.View

/-!
# `Introspect.Proofs.Accessor.Aside`: what a write of a target leaves alone

`World.Replaced` tells how the storage of a target looks after a write. This module is about all
other storage. `World.Aside` says that two worlds differ in the storage of one target at most, and
that no object is held that was free before. `World.withExclusive_aside` proves it of every write.

A source that is `World.Apart` from the target shares no storage with it, and no one holds it. Such
a source stays apart whatever is written to the target (`World.Apart.aside`), and its storage is as
before (`World.Apart.opened_eq`, `World.Apart.payload_eq`).
-/

set_option autoImplicit false

namespace Introspect

namespace World

variable {w after last : World} {source target v inner : Value} {object : ObjectRef}
  {declaring : TypeHandle} {α : Type}

/-! ### Storage aside from a target -/

/-- Two worlds that differ in the storage of one target at most: in the object that it is, or in the
cell that it is. Objects that were free are still free. -/
structure Aside (w after : World) (target : Value) : Prop where
  alike : w.Alike after
  cells : ∀ cell, target ≠ .cell cell → after.cellContent cell = w.cellContent cell
  payload : ∀ object, (∀ held, w.opened target = .object held → held.id ≠ object.id) →
    after.payload object = w.payload object
  unlocked : ∀ object, w.Unlocked object → after.Unlocked object
  held : ∀ object, after.opened target = .object object ↔ w.opened target = .object object

/-- Nothing has changed in the same world. -/
theorem Aside.refl (w : World) (target : Value) : w.Aside w target :=
  ⟨⟨rfl, rfl⟩, fun _ _ => rfl, fun _ _ => rfl, fun _ h => h, fun _ => Iff.rfl⟩

/-- Changes to one target, one after another, are changes to that target. -/
theorem Aside.trans (h : w.Aside after target) (h' : after.Aside last target) :
    w.Aside last target := by
  constructor
  · exact h.alike.trans h'.alike
  · intro cell hcell
    exact (h'.cells cell hcell).trans (h.cells cell hcell)
  · intro object hother
    have hother' : ∀ held, after.opened target = .object held → held.id ≠ object.id := by
      intro held hheld
      exact hother held ((h.held held).mp hheld)
    exact (h'.payload object hother').trans (h.payload object hother)
  · intro object hfree
    exact h'.unlocked object (h.unlocked object hfree)
  · intro object
    exact (h'.held object).trans (h.held object)

/-- The locks do not matter for what a cell holds. -/
theorem Undisturbed.opened_eq (h : Undisturbed w after) (v : Value) :
    after.opened v = w.opened v := by
  rw [h.same]
  cases v <;> rfl

/-- Nothing has changed but the way in which the locks are written down. -/
theorem Undisturbed.aside (h : Undisturbed w after) (target : Value) : w.Aside after target := by
  have hopened : after.opened target = w.opened target := h.opened_eq target
  constructor
  · rw [h.same]
    exact ⟨rfl, rfl⟩
  · intro cell _
    rw [h.same]
    rfl
  · intro object _
    rw [h.same]
    rfl
  · intro object hfree
    exact h.unlocked hfree
  · intro object
    rw [hopened]

/-- The storage of an object is that of the targets that are the object. -/
theorem aside_setPayload (htarget : w.opened target = .object object) (data : Instance) :
    w.Aside (w.setPayload object data) target := by
  constructor
  · exact ⟨rfl, rfl⟩
  · intro cell _
    rfl
  · intro other hother
    have hne : object.id ≠ other.id := hother object htarget
    simp [payload, setPayload, Array.getElem?_setIfInBounds_ne hne]
  · intro other hfree
    exact hfree
  · intro other
    cases target <;> exact Iff.rfl

/-- A value type in a cell is the storage of that cell. -/
theorem aside_setCell {cell : CellRef} {type : TypeHandle} {data : Instance}
    (hcell : w.cellContent cell = .struct type data) (changed : Instance) :
    w.Aside (w.setCell cell (.struct type changed)) (.cell cell) := by
  have hstored := cellContent_setCell w cell (.struct type changed)
    (inHeap_of_cellContent (by simp [hcell]))
  constructor
  · exact ⟨rfl, rfl⟩
  · intro other hother
    refine cellContent_setCell_of_ne ?_ w _
    rintro rfl
    exact hother rfl
  · intro object _
    rfl
  · intro object hfree
    exact hfree
  · intro object
    -- The cell holds a value type before and after, and never an object.
    simp only [opened, hstored, hcell, reduceCtorEq]

/-- A write changes the storage of its target only, whatever comes of it. -/
theorem withExclusive_aside (h : w.Settable target) (declaring : TypeHandle)
    {body : ExclusiveBody α} (hbody : Tame body) :
    w.Aside (w.withExclusive target declaring .store body).2 target := by
  cases h with
  | @object object htarget _ hfree =>
      cases hpart : w.partOf object declaring with
      | none => exact (withExclusive_foreign htarget hfree hpart .store body).2.aside target
      | some found =>
          obtain ⟨locked, hlock⟩ := lock_of_unlocked hfree .exclusive
          rw [withExclusive_part htarget hlock hpart, hbody.world]
          have hsettled : Undisturbed w (locked.unlock object .exclusive) :=
            undisturbed_unlock hfree hlock
          exact (hsettled.aside target).trans
            (aside_setPayload ((hsettled.opened_eq target).trans htarget) _)
  | @boxed cell type data htarget hcell =>
      subst htarget
      have hworld := hbody.world data w
      simp only [withExclusive, hcell, if_true, changeCopy]
      split
      · rcases hran : body data w with ⟨⟨result, changed⟩, after⟩
        obtain rfl : after = w := by simpa [hran] using hworld
        cases result with
        | ok result => exact aside_setCell hcell changed
        | error e => exact .refl after _
      · exact .refl w _

/-! ### Sources that are apart from a target -/

/-- A source whose storage is not that of a target: no chain of cells leads from it through the
target, and if an object lies at the end, it is another one than the target, and no one holds it. -/
def Apart (w : World) (source target : Value) : Prop :=
  ∃ cells inner, w.Nests cells source inner ∧ (∀ cell ∈ cells, target ≠ .cell cell) ∧
    ∀ object, inner = .object object → w.Unlocked object ∧
      ∀ held, w.opened target = .object held → held.id ≠ object.id

/-- A chain of cells that does not go through the target is the same afterwards. -/
theorem Nests.aside {cells : List CellRef} (h : w.Nests cells v inner)
    (hafter : w.Aside after target) (hcells : ∀ cell ∈ cells, target ≠ .cell cell) :
    after.Nests cells v inner := by
  induction h with
  | bare hv => exact .bare hv
  | @inside cell rest inner hrest ih =>
      refine .inside ?_
      rw [hafter.cells cell (hcells cell List.mem_cons_self)]
      exact ih fun other hother => hcells other (.tail _ hother)

/-- A source stays apart from a target that is changed. -/
theorem Apart.aside (h : w.Apart source target) (hafter : w.Aside after target) :
    after.Apart source target := by
  obtain ⟨cells, inner, hnests, hcells, hobject⟩ := h
  refine ⟨cells, inner, hnests.aside hafter hcells, hcells, fun object hinner => ?_⟩
  obtain ⟨hfree, hother⟩ := hobject object hinner
  refine ⟨hafter.unlocked object hfree, fun held hheld => ?_⟩
  exact hother held ((hafter.held held).mp hheld)

/-- A source that is apart leads to the same value as before. -/
theorem Apart.content_eq (h : w.Apart source target) (hafter : w.Aside after target) :
    after.content source = w.content source := by
  obtain ⟨cells, inner, hnests, hcells, -⟩ := h
  rw [content_of_nests hnests, content_of_nests (hnests.aside hafter hcells)]

/-- A source that is apart opens to the same value as before. -/
theorem Apart.opened_eq (h : w.Apart source target) (hafter : w.Aside after target) :
    after.opened source = w.opened source := by
  obtain ⟨cells, inner, hnests, hcells, -⟩ := h
  cases hnests with
  | bare hsource => rw [opened_of_not_cell _ hsource, opened_of_not_cell _ hsource]
  | @inside cell rest inner _ => exact hafter.cells cell (hcells cell List.mem_cons_self)

/-- A chain that is apart from a target has an end. -/
theorem Apart.content_not_cell (h : w.Apart source target) : (w.content source).isCell = false := by
  obtain ⟨cells, inner, hnests, -, -⟩ := h
  rw [content_of_nests hnests]
  exact hnests.not_cell

/-- No one holds an object that is at the end of a source. -/
theorem Apart.unlocked (h : w.Apart source target) (hsource : w.content source = .object object) :
    w.Unlocked object := by
  obtain ⟨cells, inner, hnests, -, hobject⟩ := h
  exact (hobject object ((content_of_nests hnests).symm.trans hsource)).1

/-- An object that is at the end of a source has the same storage as before. -/
theorem Apart.payload_eq (h : w.Apart source target) (hafter : w.Aside after target)
    (hsource : w.content source = .object object) : after.payload object = w.payload object := by
  obtain ⟨cells, inner, hnests, -, hobject⟩ := h
  have hother := (hobject object ((content_of_nests hnests).symm.trans hsource)).2
  exact hafter.payload object hother

/-- The storage of a value depends on what it opens to, and on the object that this is. -/
theorem view?_congr (hregistry : after.registry = w.registry)
    (hopened : after.opened v = w.opened v)
    (hpayload : ∀ object, w.opened v = .object object → after.payload object = w.payload object) :
    after.view? v declaring = w.view? v declaring := by
  unfold view?
  rw [hopened]
  split
  · next object hobject => simp only [partOf, hpayload object hobject, hregistry]
  · rfl
  · rfl

end World

end Introspect
