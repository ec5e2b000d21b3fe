import Introspect.World
import Mathlib.Data.List.Nodup
import Mathlib.Data.List.Perm.Subperm

/-!
# `Introspect.Proofs.World.Content`: what lies at the end of a chain of cells

A cell may hold a cell, to any depth. `Nests w cells v inner` says that `v` is `inner` inside the
cells of the list, outermost first, where `inner` is no cell. `content` follows at most as many
cells as the heap has, and one more; `content_of_nests` says that this is always enough: a chain
that ends visits no cell twice (`nodup_of_nests`), and all of its cells but the last are in the heap
(`inBounds_of_nests`). So `content` finds the end of every chain that has one, and
`nests_iff_content` says which values that are.

A cell that leads back to itself has no content. `content` then stops at some cell of the loop.
-/

set_option autoImplicit false

namespace Introspect.World

/-- `v` is `inner` inside the given cells, outermost first, and `inner` is no cell. -/
inductive Nests (w : World) : List CellRef → Value → Value → Prop
  | bare {v : Value} : v.isCell = false → Nests w [] v v
  | inside {cell : CellRef} {rest : List CellRef} {inner : Value} :
      Nests w rest (w.cellContent cell) inner → Nests w (cell :: rest) (.cell cell) inner

variable {w : World} {cells rest : List CellRef} {v inner : Value}

/-- A value that is no cell is at the end of its chain. -/
theorem follow_of_not_cell (w : World) (limit : Nat) (h : v.isCell = false) :
    w.follow limit v = v := by
  cases v with
  | cell cell => simp [Value.isCell] at h
  | _ => cases limit <;> rfl

/-- A value that is no cell is its own content. -/
theorem content_of_not_cell (w : World) (h : v.isCell = false) : w.content v = v :=
  follow_of_not_cell w _ h

/-- A value that is no cell is opened already. -/
theorem opened_of_not_cell (w : World) (h : v.isCell = false) : w.opened v = v := by
  cases v with
  | cell cell => simp [Value.isCell] at h
  | _ => rfl

/-- The end of a chain is no cell. -/
theorem Nests.not_cell (h : Nests w cells v inner) : inner.isCell = false := by
  induction h with
  | bare hv => exact hv
  | inside _ ih => exact ih

/-- A value starts one chain only. -/
theorem Nests.unique {cells' : List CellRef} {inner' : Value} (h : Nests w cells v inner)
    (h' : Nests w cells' v inner') : cells = cells' ∧ inner = inner' := by
  induction h generalizing cells' with
  | bare hv =>
      cases h' with
      | bare _ => exact ⟨rfl, rfl⟩
      | inside _ => simp [Value.isCell] at hv
  | inside _ ih =>
      cases h' with
      | bare hv => simp [Value.isCell] at hv
      | inside hrest =>
          obtain ⟨rfl, rfl⟩ := ih hrest
          exact ⟨rfl, rfl⟩

/-- The chain goes on from each of its cells. -/
theorem Nests.suffix {front : List CellRef} {cell : CellRef}
    (h : Nests w (front ++ cell :: rest) v inner) : Nests w (cell :: rest) (.cell cell) inner := by
  induction front generalizing v with
  | nil =>
      cases h with
      | inside hrest => exact .inside hrest
  | cons first front ih =>
      cases h with
      | inside hrest => exact ih hrest

/-- A chain that ends visits no cell twice: from the second visit on it would be as long as from the
first. -/
theorem nodup_of_nests (h : Nests w cells v inner) : cells.Nodup := by
  induction h with
  | bare _ => exact List.nodup_nil
  | @inside cell rest inner hrest ih =>
      refine List.nodup_cons.mpr ⟨fun hmem => ?_, ih⟩
      obtain ⟨front, back, rfl⟩ := List.append_of_mem hmem
      have hlong : Nests w (cell :: (front ++ cell :: back)) (.cell cell) inner := .inside hrest
      have hsame := (hlong.unique hrest.suffix).1
      have hlen := congrArg List.length hsame
      simp only [List.length_cons, List.length_append] at hlen
      omega

/-- A chain without cells is the value itself. -/
theorem Nests.bare_eq (h : Nests w [] v inner) : v = inner := by
  cases h with
  | bare _ => rfl

/-- A chain with a first cell starts at that cell. -/
theorem Nests.head_eq {cell : CellRef} (h : Nests w (cell :: rest) v inner) : v = .cell cell := by
  cases h with
  | inside _ => rfl

/-- A cell that holds a cell is in the heap: elsewhere there is only null. -/
theorem inBounds_of_content_cell {cell next : CellRef} (h : w.cellContent cell = .cell next) :
    cell.id < w.cells.size := by
  by_contra hout
  have hnone : w.cells[cell.id]? = none := Array.getElem?_eq_none (Nat.le_of_not_lt hout)
  simp [cellContent, hnone] at h

/-- All cells of a chain but the last are in the heap. -/
theorem inBounds_of_nests (h : Nests w cells v inner) :
    ∀ cell ∈ cells.dropLast, cell.id < w.cells.size := by
  induction h with
  | bare _ => simp
  | @inside cell rest inner hrest ih =>
      intro other hother
      cases rest with
      | nil => simp at hother
      | cons next rest =>
          rw [List.dropLast_cons_cons, List.mem_cons] at hother
          rcases hother with rfl | hother
          · exact inBounds_of_content_cell hrest.head_eq
          · exact ih other hother

/-- A chain has at most one cell more than the heap. -/
theorem length_le_of_nests (h : Nests w cells v inner) : cells.length ≤ w.cells.size + 1 := by
  have hinj : Function.Injective CellRef.id := by
    rintro ⟨a⟩ ⟨b⟩ hab
    exact congrArg CellRef.mk hab
  have hnodup : (cells.dropLast.map CellRef.id).Nodup :=
    List.Nodup.map hinj ((nodup_of_nests h).sublist (List.dropLast_sublist cells))
  have hsub : cells.dropLast.map CellRef.id ⊆ List.range w.cells.size := by
    intro id hid
    obtain ⟨cell, hcell, rfl⟩ := List.mem_map.mp hid
    exact List.mem_range.mpr (inBounds_of_nests h cell hcell)
  have hlen := (hnodup.subperm hsub).length_le
  simp only [List.length_map, List.length_dropLast, List.length_range] at hlen
  omega

/-- Following enough cells of a chain finds its end. -/
theorem follow_of_nests (h : Nests w cells v inner) :
    ∀ limit, cells.length ≤ limit → w.follow limit v = inner := by
  induction h with
  | bare hv => exact fun limit _ => follow_of_not_cell w limit hv
  | inside _ ih =>
      intro limit hlimit
      cases limit with
      | zero => simp at hlimit
      | succ limit => exact ih limit (by simpa using hlimit)

/-- The content of a value is what lies at the end of its chain of cells. -/
theorem content_of_nests (h : Nests w cells v inner) : w.content v = inner :=
  follow_of_nests h _ (length_le_of_nests h)

/-- Following cells to a value that is no cell goes along a chain. -/
theorem nests_follow (limit : Nat) (h : (w.follow limit v).isCell = false) :
    ∃ cells, Nests w cells v (w.follow limit v) := by
  induction limit generalizing v with
  | zero => exact ⟨[], .bare h⟩
  | succ limit ih =>
      cases hv : v.isCell with
      | false =>
          rw [follow_of_not_cell w _ hv]
          exact ⟨[], .bare hv⟩
      | true =>
          cases v with
          | cell cell =>
              obtain ⟨cells, hcells⟩ := ih h
              exact ⟨cell :: cells, .inside hcells⟩
          | _ => simp [Value.isCell] at hv

/-- A value has a chain that ends exactly when its content is no cell, and then that is the end. -/
theorem nests_iff_content :
    (∃ cells, Nests w cells v inner) ↔ w.content v = inner ∧ inner.isCell = false := by
  constructor
  · rintro ⟨cells, h⟩
    exact ⟨content_of_nests h, h.not_cell⟩
  · rintro ⟨rfl, h⟩
    exact nests_follow _ h

/-- Opening a cell goes one step along its chain. -/
theorem Nests.opened (h : Nests w cells v inner) : Nests w cells.tail (w.opened v) inner := by
  cases h with
  | bare hv => rw [opened_of_not_cell w hv]; exact .bare hv
  | inside hrest => exact hrest

end Introspect.World
