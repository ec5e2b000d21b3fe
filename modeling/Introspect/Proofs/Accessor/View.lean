import Introspect.Proofs.Accessor.Target
import Introspect.Proofs.World.Cells

/-!
# `Introspect.Proofs.Accessor.View`: the view that a body gets of its target

A body runs on a part of an object that is held, or on a value type; `World.Viewed` says on which,
and in which world. `withShared_ok` and `withExclusive_ok` say that a body that succeeded has run on
such a view.

A body that writes no cell itself writes none on such a view (`withShared_cells`,
`withExclusive_error_cells`), with one exception: one that changes a copy of a value type, and
succeeds, may have that copy stored in the cell that was the target. `stored` names the cell and its
new content, and `withExclusive_ok` says that no other cell changes.
-/

set_option autoImplicit false

namespace Introspect

namespace World

variable {α : Type} {w locked : World} {target : Value} {declaring : TypeHandle}
  {writeBack : WriteBack}

/-- The view that a body gets of a value as a type, and the world that it runs in: the part of an
object that is held, or a value type. -/
inductive Viewed (w : World) (declaring : TypeHandle) (mode : Hold) :
    Value → Instance → World → Prop
  | object {object : ObjectRef} {depth : Nat} {part : Instance} {locked : World} :
      w.lock object mode = .ok locked → w.partOf object declaring = some (depth, part) →
      Viewed w declaring mode (.object object) part locked
  | struct (data : Instance) : Viewed w declaring mode (.struct declaring data) data w

/-- Taking a lock writes no cell. -/
theorem lock_cells {object : ObjectRef} {mode : Hold} (h : w.lock object mode = .ok locked) :
    locked.cells = w.cells := by
  rw [(lock_eq h).2]

/-- Ending a guard writes no cell. -/
theorem unlock_cells (w : World) (object : ObjectRef) (mode : Hold) :
    (w.unlock object mode).cells = w.cells := rfl

/-- Replacing the storage of an object writes no cell. -/
theorem setPayload_cells (w : World) (object : ObjectRef) (data : Instance) :
    (w.setPayload object data).cells = w.cells := rfl

/-- The world that a body runs in has the cells of the world before. -/
theorem Viewed.cells {mode : Hold} {seen : Value} {view : Instance} {start : World}
    (h : w.Viewed declaring mode seen view start) : start.cells = w.cells := by
  cases h with
  | object hlock _ => exact lock_cells hlock
  | struct data => rfl

/-! ### Reading -/

/-- A body that reads a view, and writes no cell, writes none under a lock either. -/
theorem withShared_cells (w : World) (target : Value) (declaring : TypeHandle)
    {body : SharedBody α} (hbody : ∀ view w, (body view w).2.cells = w.cells) :
    (w.withShared target declaring body).2.cells = w.cells := by
  unfold withShared
  split
  · next object _ =>
      unfold readObject
      cases hlock : w.lock object .shared with
      | error e => rfl
      | ok locked =>
          cases hpart : locked.partOf object declaring with
          | none => simpa only [hpart, unlock_cells] using lock_cells hlock
          | some found =>
              simpa only [hpart, unlock_cells] using
                (hbody found.2 locked).trans (lock_cells hlock)
  · split
    · exact hbody _ w
    · rfl
  · rfl
  · rfl

/-- A body that reads and succeeds has run on a view of the target. -/
theorem withShared_ok {body : SharedBody α} {v : α}
    (h : (w.withShared target declaring body).1 = .ok v) :
    ∃ view start, w.Viewed declaring .shared (w.content target) view start ∧
      (body view start).1 = .ok v := by
  unfold withShared at h
  split at h
  · next object hobject =>
      unfold readObject at h
      cases hlock : w.lock object .shared with
      | error e => simp [hlock] at h
      | ok locked =>
          cases hpart : locked.partOf object declaring with
          | none => simp [hlock, hpart] at h
          | some found =>
              simp only [hlock, hpart] at h
              rw [partOf_lock hlock] at hpart
              exact ⟨found.2, locked, hobject ▸ .object hlock hpart, h⟩
  · next type data hstruct =>
      split at h
      · next htype => exact ⟨data, w, hstruct ▸ htype ▸ .struct data, h⟩
      · simp at h
  · simp at h
  · simp at h

/-! ### Changing -/

/-- The cell that gets a changed copy of the value type it holds, and its new content. -/
def stored (w : World) (target : Value) (writeBack : WriteBack) (changed : Instance) :
    Option (CellRef × Value) :=
  match target with
  | .cell cell =>
    match w.cellContent cell with
    | .struct type _ => if writeBack = .store then some (cell, .struct type changed) else none
    | _ => none
  | _ => none

/-- Without the wish to store it, no cell gets a copy. -/
theorem stored_discard (w : World) (target : Value) (changed : Instance) :
    w.stored target .discard changed = none := by
  unfold stored
  split
  · split <;> rfl
  · rfl

/-- A cell that holds a value type is in the heap: elsewhere there is only null. -/
theorem inHeap_of_stored {changed : Instance} {cell : CellRef} {content : Value}
    (h : w.stored target writeBack changed = some (cell, content)) :
    cell.id < w.cells.size := by
  unfold stored at h
  split at h
  · next held =>
      split at h
      · next type data hcontent =>
          split at h
          · obtain ⟨rfl, -⟩ : held = cell ∧ Value.struct type changed = content := by
              simpa using h
            exact inHeap_of_cellContent (by simp [hcontent])
          · simp at h
      · simp at h
  · simp at h

/-- A body that changes an object writes no cell. -/
theorem changeObject_cells (w : World) (object : ObjectRef) (declaring : TypeHandle)
    {body : ExclusiveBody α} (hbody : ∀ view w, (body view w).2.cells = w.cells) :
    (w.changeObject object declaring body).2.cells = w.cells := by
  unfold changeObject
  cases hlock : w.lock object .exclusive with
  | error e => rfl
  | ok locked =>
      cases hpart : locked.partOf object declaring with
      | none => simpa only [hpart, unlock_cells] using lock_cells hlock
      | some found =>
          simpa only [hpart, unlock_cells, setPayload_cells] using
            (hbody found.2 locked).trans (lock_cells hlock)

/-- A body that changes an object and succeeds has run on a part of it. -/
theorem changeObject_ok {object : ObjectRef} {body : ExclusiveBody α} {v : α}
    (h : (w.changeObject object declaring body).1 = .ok v) :
    ∃ view start, w.Viewed declaring .exclusive (.object object) view start ∧
      (body view start).1.1 = .ok v := by
  unfold changeObject at h
  cases hlock : w.lock object .exclusive with
  | error e => simp [hlock] at h
  | ok locked =>
      cases hpart : locked.partOf object declaring with
      | none => simp [hlock, hpart] at h
      | some found =>
          simp only [hlock, hpart] at h
          rw [partOf_lock hlock] at hpart
          exact ⟨found.2, locked, .object hlock hpart, h⟩

/-- A body that fails on a copy writes no cell. -/
theorem changeCopy_error_cells {type : TypeHandle} {data : Instance} {cell : Option CellRef}
    {body : ExclusiveBody α} {e : InvokeError}
    (hbody : ∀ view w, (body view w).2.cells = w.cells)
    (h : (w.changeCopy type data declaring cell body).1 = .error e) :
    (w.changeCopy type data declaring cell body).2.cells = w.cells := by
  have hcells := hbody data w
  unfold changeCopy at h ⊢
  split
  · next htype =>
      rcases hran : body data w with ⟨⟨result, changed⟩, after⟩
      simp only [if_pos htype, hran] at h hcells ⊢
      cases result with
      | ok v => cases cell <;> simp at h
      | error e' => exact hcells
  · rfl

/-- A body that succeeds on a copy leaves the changed copy in the cell, if there is one. -/
theorem changeCopy_ok {type : TypeHandle} {data : Instance} {cell : Option CellRef}
    {body : ExclusiveBody α} {v : α} (hbody : ∀ view w, (body view w).2.cells = w.cells)
    (h : (w.changeCopy type data declaring cell body).1 = .ok v) :
    type = declaring ∧ (body data w).1.1 = .ok v ∧
      (w.changeCopy type data declaring cell body).2.cells =
        (w.writeCells (cell.map (·, .struct type (body data w).1.2)).toList).cells := by
  have hcells := hbody data w
  unfold changeCopy at h ⊢
  split
  · next htype =>
      rcases hran : body data w with ⟨⟨result, changed⟩, after⟩
      simp only [if_pos htype, hran] at h hcells ⊢
      cases result with
      | error e => simp at h
      | ok v' =>
          cases cell with
          | none => exact ⟨htype, h, hcells⟩
          | some cell => exact ⟨htype, h, by simp [setCell, writeCells, hcells]⟩
  · next htype => simp [htype] at h

/-- A body that fails on a view that it may change leaves no trace in a cell. -/
theorem withExclusive_error_cells {body : ExclusiveBody α} {e : InvokeError}
    (hbody : ∀ view w, (body view w).2.cells = w.cells)
    (h : (w.withExclusive target declaring writeBack body).1 = .error e) :
    (w.withExclusive target declaring writeBack body).2.cells = w.cells := by
  unfold withExclusive at h ⊢
  split
  · exact changeObject_cells w _ declaring hbody
  · exact changeCopy_error_cells hbody h
  · next cell =>
      simp only at h
      split
      · next hcell => exact changeCopy_error_cells hbody (by simpa only [hcell] using h)
      · exact changeObject_cells w _ declaring hbody
      · rfl
      · rfl
  · rfl
  · rfl

/-- A body that succeeds on a view that it may change has its copy of a value type stored in the
cell that was the target, if the caller wants it, and leaves the other cells as they were. -/
theorem withExclusive_ok {body : ExclusiveBody α} {v : α}
    (hbody : ∀ view w, (body view w).2.cells = w.cells)
    (h : (w.withExclusive target declaring writeBack body).1 = .ok v) :
    ∃ view start, w.Viewed declaring .exclusive (w.opened target) view start ∧
      (body view start).1.1 = .ok v ∧
      (w.withExclusive target declaring writeBack body).2.cells =
        (w.writeCells (w.stored target writeBack (body view start).1.2).toList).cells := by
  unfold withExclusive at h ⊢
  split at h
  · next object =>
      obtain ⟨view, start, hviewed, hresult⟩ := changeObject_ok h
      exact ⟨view, start, hviewed, hresult, changeObject_cells w object declaring hbody⟩
  · next type data =>
      obtain ⟨rfl, hresult, hcells⟩ := changeCopy_ok hbody h
      exact ⟨data, w, .struct data, hresult, hcells⟩
  · next cell =>
      split at h
      · next type data hcell =>
          obtain ⟨rfl, hresult, hcells⟩ := changeCopy_ok hbody h
          refine ⟨data, w, ?_, hresult, hcells.trans ?_⟩
          · rw [show w.opened (.cell cell) = .struct type data from hcell]
            exact .struct data
          · simp only [stored, hcell]
            split <;> rfl
      · next object hcell =>
          obtain ⟨view, start, hviewed, hresult⟩ := changeObject_ok h
          refine ⟨view, start, ?_, hresult, ?_⟩
          · rwa [show w.opened (.cell cell) = .object object from hcell]
          · simp only [stored, hcell]
            exact changeObject_cells w object declaring hbody
      · simp at h
      · simp at h
  · simp at h
  · simp at h

end World

end Introspect
