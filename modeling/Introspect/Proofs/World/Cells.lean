import Introspect.Proofs.World.Cast

/-!
# `Introspect.Proofs.World.Cells`: who writes a cell

Member code asks its surroundings for many things, but for no cell: `Code.run_cells` says that
running any code leaves all cells as they are.

What a list of writes leaves in a cell is the last content written there
(`cellContent_writeCells_last`), or what it held before (`cellContent_writeCells_of_not_mem`).
Writes to other cells do not get in each other's way (`writeCells_setCell`).
-/

set_option autoImplicit false

namespace Introspect

namespace World

variable {w : World}

/-! ### Member code -/

mutual

/-- Boxing allocates arrays, and writes no cell. -/
theorem box_cells (w : World) (native : NativeType) :
    (content : Datum) → (w.box native content).2.cells = w.cells
  | .value _ => rfl
  | .list contents => boxAll_cells w (elementOf native) contents

/-- Boxing the items of a list writes no cell. -/
theorem boxAll_cells (w : World) (native : NativeType) :
    (contents : List Datum) → (w.boxAll native contents).2.cells = w.cells
  | [] => rfl
  | content :: rest => (boxAll_cells _ native rest).trans (box_cells w native content)

end

/-- A change to an object replaces the storage of that object only. -/
theorem update_eq_ok {object : ObjectRef} {type : TypeHandle} {native : String}
    {change : Instance → Instance} {after : World}
    (h : w.update object type native change = .ok after) :
    ∃ data, after = w.setPayload object data := by
  simp only [update] at h
  repeat' split at h
  all_goals cases h
  exact ⟨_, rfl⟩

end World

/-- Member code writes no cell. -/
theorem Code.run_cells {α : Type} (code : Code α) (w : World) :
    (code.run w).2.cells = w.cells := by
  induction code generalizing w with
  | done result => rfl
  | nameOf type next ih => exact ih _ w
  | describe v next ih => exact ih _ w
  | zeroOf type next ih => exact ih _ w
  | cast v type next ih => exact ih _ w
  | unbox native v next ih => exact ih _ w
  | box native content next ih => exact (ih _ _).trans (w.box_cells native content)
  | create type data next ih => exact ih _ _
  | load key next ih => exact ih _ w
  | store key content next ih => exact ih _
  | inspect target type native next ih => exact ih _ w
  | update target type native change next ih =>
      simp only [Code.run]
      split
      · next after hupdate =>
          obtain ⟨data, rfl⟩ := World.update_eq_ok hupdate
          exact ih _ _
      · exact ih _ w

namespace World

variable {w : World} {writes back : List (CellRef × Value)} {cell : CellRef} {v : Value}

/-! ### Lists of writes -/

/-- A cell that holds something is in the heap: elsewhere there is only null. -/
theorem inHeap_of_cellContent (h : w.cellContent cell ≠ .null) : cell.id < w.cells.size := by
  by_contra hout
  have hnone : w.cells[cell.id]? = none := Array.getElem?_eq_none (Nat.le_of_not_lt hout)
  exact h (by simp [cellContent, hnone])

/-- A cell that is not written holds what it held before. -/
theorem cellContent_setCell_of_ne {other : CellRef} (h : other ≠ cell) (w : World) (v : Value) :
    (w.setCell other v).cellContent cell = w.cellContent cell := by
  have hid : other.id ≠ cell.id := fun hid => h (congrArg CellRef.mk hid)
  simp [cellContent, setCell, Array.getElem?_setIfInBounds_ne hid]

/-- Writing cells does not make more of them. -/
theorem size_writeCells (w : World) (writes : List (CellRef × Value)) :
    (w.writeCells writes).cells.size = w.cells.size := by
  induction writes generalizing w with
  | nil => rfl
  | cons write rest ih => exact (ih _).trans Array.size_setIfInBounds

/-- One list of writes after another. -/
theorem writeCells_append (w : World) (first rest : List (CellRef × Value)) :
    w.writeCells (first ++ rest) = (w.writeCells first).writeCells rest :=
  List.foldl_append

/-- Writes to two cells go in any order. -/
theorem setCell_comm {other : CellRef} (h : cell ≠ other) (w : World) (v x : Value) :
    (w.setCell cell v).setCell other x = (w.setCell other x).setCell cell v := by
  have hid : cell.id ≠ other.id := fun hid => h (congrArg CellRef.mk hid)
  simp only [setCell, Array.setIfInBounds_comm v x hid]

/-- A write goes behind writes to other cells. -/
theorem writeCells_setCell (h : ∀ x, (cell, x) ∉ writes) (w : World) (v : Value) :
    (w.setCell cell v).writeCells writes = (w.writeCells writes).setCell cell v := by
  induction writes generalizing w with
  | nil => rfl
  | cons write rest ih =>
      obtain ⟨other, x⟩ := write
      have hne : cell ≠ other := by
        rintro rfl
        exact h x List.mem_cons_self
      calc ((w.setCell cell v).setCell other x).writeCells rest
          = ((w.setCell other x).setCell cell v).writeCells rest := by rw [setCell_comm hne]
        _ = ((w.setCell other x).writeCells rest).setCell cell v :=
            ih (fun y hy => h y (List.mem_cons_of_mem _ hy)) _

/-- Cells that no write is for hold what they held before. -/
theorem cellContent_writeCells_of_not_mem (h : ∀ v, (cell, v) ∉ writes) :
    (w.writeCells writes).cellContent cell = w.cellContent cell := by
  induction writes generalizing w with
  | nil => rfl
  | cons write rest ih =>
      obtain ⟨other, v⟩ := write
      have hne : other ≠ cell := by
        rintro rfl
        exact h v List.mem_cons_self
      calc ((w.setCell other v).writeCells rest).cellContent cell
          = (w.setCell other v).cellContent cell :=
            ih fun v hmem => h v (List.mem_cons_of_mem _ hmem)
        _ = w.cellContent cell := cellContent_setCell_of_ne hne w v

/-- A cell in the heap holds what the last write for it has put there. -/
theorem cellContent_writeCells_last (hcell : cell.id < w.cells.size)
    (front : List (CellRef × Value)) (hback : ∀ v, (cell, v) ∉ back) :
    (w.writeCells (front ++ (cell, v) :: back)).cellContent cell = v := by
  rw [writeCells_append]
  calc (((w.writeCells front).setCell cell v).writeCells back).cellContent cell
      = ((w.writeCells front).setCell cell v).cellContent cell :=
        cellContent_writeCells_of_not_mem hback
    _ = v := cellContent_setCell _ _ _ (by rwa [size_writeCells])

/-- What a cell holds depends on the cells only. -/
theorem cellContent_congr {w' : World} (h : w.cells = w'.cells) (cell : CellRef) :
    w.cellContent cell = w'.cellContent cell := by
  rw [cellContent, cellContent, h]

/-- What a list of writes leaves in the cells depends on the cells only. -/
theorem writeCells_cells_congr {w' : World} (h : w.cells = w'.cells)
    (writes : List (CellRef × Value)) :
    (w.writeCells writes).cells = (w'.writeCells writes).cells := by
  induction writes generalizing w w' with
  | nil => exact h
  | cons write rest ih => exact ih (by simp [setCell, h])

end World

end Introspect
