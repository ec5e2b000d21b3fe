import Introspect.Accessor.Arguments
import Introspect.Proofs.World.Cells

/-!
# `Introspect.Proofs.Accessor.CopyOut`: where the locals of a call end up

After a body has succeeded, `copyOut` brings the locals of parameters passed by reference back. It
writes the cells among the arguments one after another, so its effect on the heap is a list of
writes: `stores`. A cell that is passed twice is written twice, and the later write stays;
`stores_last` finds that write in the list.

`Delivered` puts together what the caller sees afterwards, argument by argument and cell by cell,
for a body that may have had its copy of the target stored in a cell before. `delivered_copyOut`
proves all of it.
-/

set_option autoImplicit false

namespace Introspect

namespace ArgPlan

variable {slot : ParamSlot} {slots : List ParamSlot} {v arg : Value} {locals args : List Value}
  {i : Nat} {cell : CellRef}

/-! ### One argument after another -/

/-- What becomes of one argument. -/
def returned (slot : ParamSlot) (v : Value) : Value → Value
  | .cell cell => .cell cell
  | arg => if slot.mode.isByRef then v else arg

/-- The write to the cell that one argument is. -/
def storeOf (slot : ParamSlot) (v : Value) : Value → Option (CellRef × Value)
  | .cell cell => if slot.mode.isByRef then some (cell, v) else none
  | _ => none

/-- The writes to the cells among the arguments, in order. -/
def stores : List ParamSlot → List Value → List Value → List (CellRef × Value)
  | slot :: slots, v :: locals, arg :: args =>
    (storeOf slot v arg).toList ++ stores slots locals args
  | _, _, _ => []

/-- Copying out treats the first argument and then the others. -/
theorem copyBack_cons (slot : ParamSlot) (slots : List ParamSlot) (v arg : Value)
    (locals args : List Value) (w : World) :
    copyBack (slot :: slots) (v :: locals) (arg :: args) w =
      let (rest, after) := copyBack slots locals args (w.writeCells (storeOf slot v arg).toList)
      (returned slot v arg :: rest, after) := by
  cases hmode : slot.mode.isByRef <;> cases arg <;>
    simp [copyBack, returned, storeOf, hmode, World.writeCells]

/-- In the heap, copying out writes the cells among the arguments and nothing else. -/
theorem copyBack_world (slots : List ParamSlot) (locals args : List Value) (w : World) :
    (copyBack slots locals args w).2 = w.writeCells (stores slots locals args) := by
  induction slots generalizing locals args w with
  | nil => rfl
  | cons slot slots ih =>
      cases locals with
      | nil => rfl
      | cons v locals =>
          cases args with
          | nil => rfl
          | cons arg args => rw [copyBack_cons, stores, World.writeCells_append, ← ih]

/-- Each argument is treated on its own. -/
theorem copyBack_args (w : World) (hslot : slots[i]? = some slot) (hlocal : locals[i]? = some v)
    (harg : args[i]? = some arg) :
    (copyBack slots locals args w).1[i]? = some (returned slot v arg) := by
  induction slots generalizing locals args w i with
  | nil => simp at hslot
  | cons first slots ih =>
      cases locals with
      | nil => simp at hlocal
      | cons firstLocal locals =>
          cases args with
          | nil => simp at harg
          | cons firstArg args =>
              rw [copyBack_cons]
              cases i with
              | zero =>
                  simp only [List.getElem?_cons_zero, Option.some.injEq] at hslot hlocal harg
                  subst hslot hlocal harg
                  rfl
              | succ i =>
                  simp only [List.getElem?_cons_succ] at hslot hlocal harg ⊢
                  exact ih _ hslot hlocal harg

/-- There are as many arguments afterwards as before. -/
theorem copyBack_length (slots : List ParamSlot) (locals args : List Value) (w : World) :
    (copyBack slots locals args w).1.length = args.length := by
  induction slots generalizing locals args w with
  | nil => rfl
  | cons slot slots ih =>
      cases locals with
      | nil => rfl
      | cons v locals =>
          cases args with
          | nil => rfl
          | cons arg args =>
              rw [copyBack_cons]
              exact congrArg (· + 1) (ih locals args _)

/-- What becomes of the arguments does not depend on the heap. -/
theorem copyBack_args_eq (slots : List ParamSlot) (locals args : List Value) (w w' : World) :
    (copyBack slots locals args w).1 = (copyBack slots locals args w').1 := by
  induction slots generalizing locals args w w' with
  | nil => rfl
  | cons slot slots ih =>
      cases locals with
      | nil => rfl
      | cons first locals =>
          cases args with
          | nil => rfl
          | cons arg args =>
              simp only [copyBack_cons]
              exact congrArg _ (ih locals args _ _)

/-! ### The last write to a cell -/

/-- Argument `i` is a certain cell, passed by reference. -/
def Shares (slots : List ParamSlot) (args : List Value) (i : Nat) (cell : CellRef) : Prop :=
  ∃ slot, slots[i]? = some slot ∧ slot.mode.isByRef = true ∧ args[i]? = some (.cell cell)

/-- The arguments behind the first one share the cells that they share on their own. -/
theorem shares_succ :
    Shares (slot :: slots) (arg :: args) (i + 1) cell ↔ Shares slots args i cell := by
  simp [Shares]

/-- The first argument is the cell that it is written to. -/
theorem storeOf_eq_some_iff {x : Value} :
    storeOf slot v arg = some (cell, x) ↔
      x = v ∧ Shares (slot :: slots) (arg :: args) 0 cell := by
  cases arg with
  | cell other =>
      cases hmode : slot.mode.isByRef with
      | false => simp [storeOf, Shares, hmode]
      | true =>
          simp only [storeOf, Shares, hmode, if_true, Option.some.injEq, Prod.mk.injEq,
            List.getElem?_cons_zero, Value.cell.injEq, exists_eq_left', true_and]
          exact ⟨fun h => ⟨h.2.symm, h.1⟩, fun h => ⟨h.2, h.1.symm⟩⟩
  | _ => simp [storeOf, Shares]

/-- A cell is written only when it is passed by reference. -/
theorem shares_of_mem_stores {x : Value} (h : (cell, x) ∈ stores slots locals args) :
    ∃ i, Shares slots args i cell := by
  induction slots generalizing locals args with
  | nil => simp [stores] at h
  | cons slot slots ih =>
      cases locals with
      | nil => simp [stores] at h
      | cons v locals =>
          cases args with
          | nil => simp [stores] at h
          | cons arg args =>
              rw [stores, List.mem_append, Option.mem_toList] at h
              cases h with
              | inl hfirst => exact ⟨0, (storeOf_eq_some_iff.mp hfirst).2⟩
              | inr hrest =>
                  obtain ⟨i, hi⟩ := ih hrest
                  exact ⟨i + 1, shares_succ.mpr hi⟩

/-- The last parameter that a cell is passed to has the last write to that cell. -/
theorem stores_last (hshares : Shares slots args i cell)
    (hlast : ∀ j, i < j → ¬ Shares slots args j cell) (hlocal : locals[i]? = some v) :
    ∃ front back, stores slots locals args = front ++ (cell, v) :: back ∧
      ∀ x, (cell, x) ∉ back := by
  induction slots generalizing locals args i with
  | nil =>
      obtain ⟨slot, hslot, -⟩ := hshares
      simp at hslot
  | cons slot slots ih =>
      cases locals with
      | nil => simp at hlocal
      | cons first locals =>
          cases args with
          | nil =>
              obtain ⟨slot, -, -, harg⟩ := hshares
              simp at harg
          | cons arg args =>
              cases i with
              | zero =>
                  obtain rfl : first = v := by simpa using hlocal
                  have hfirst : storeOf slot first arg = some (cell, first) :=
                    storeOf_eq_some_iff.mpr ⟨rfl, hshares⟩
                  refine ⟨[], stores slots locals args, ?_, fun x hx => ?_⟩
                  · rw [stores, hfirst]
                    rfl
                  · obtain ⟨j, hj⟩ := shares_of_mem_stores hx
                    exact hlast (j + 1) (Nat.succ_pos j) (shares_succ.mpr hj)
              | succ i =>
                  have hrest : ∀ j, i < j → ¬ Shares slots args j cell := fun j hj h =>
                    hlast (j + 1) (Nat.succ_lt_succ hj) (shares_succ.mpr h)
                  obtain ⟨front, back, hstores, hback⟩ :=
                    ih (shares_succ.mp hshares) hrest (by simpa using hlocal)
                  refine ⟨(storeOf slot first arg).toList ++ front, back, ?_, hback⟩
                  rw [stores, hstores, List.append_assoc]

/-- A write to a cell that is no argument may as well come after the copying out. -/
theorem copyOut_setCell {plan : ArgPlan} {locals args : List Value} (hcell : .cell cell ∉ args)
    (w : World) (v : Value) :
    (plan.copyOut locals args (w.setCell cell v)).2 =
      (plan.copyOut locals args w).2.setCell cell v := by
  have hfree : ∀ x, (cell, x) ∉ stores plan.slots locals args := by
    intro x hx
    obtain ⟨i, slot, -, -, harg⟩ := shares_of_mem_stores hx
    exact hcell (List.mem_of_getElem? harg)
  simp only [copyOut, copyBack_world]
  exact World.writeCells_setCell hfree w v

/-! ### What the caller sees -/

/-- How a body ended: its result, its locals, and the cell that its copy of the target was stored
in, with the content, if there is one. -/
structure Finish (α : Type) where
  result : α
  locals : List Value
  target : Option (CellRef × Value)

/-- What the caller sees of the arguments and the cells after a body has ended. -/
structure Delivered {α : Type} (plan : ArgPlan) (args : List Value) (w : World)
    (finish : Finish α) (returned : List Value) (after : World) : Prop where
  /-- there is a local for every argument -/
  locals : finish.locals.length = args.length
  /-- no argument is lost or added -/
  length : returned.length = args.length
  /-- an argument passed by value is unchanged -/
  byValue : ∀ (i : Nat) (slot : ParamSlot), plan.slots[i]? = some slot →
    slot.mode.isByRef = false → returned[i]? = args[i]?
  /-- an argument passed by reference that is no cell is the local now -/
  byRef : ∀ (i : Nat) (slot : ParamSlot) (arg : Value), plan.slots[i]? = some slot →
    slot.mode.isByRef = true → args[i]? = some arg → arg.isCell = false →
    returned[i]? = finish.locals[i]?
  /-- a cell passed by reference stays in its place -/
  kept : ∀ i cell, Shares plan.slots args i cell → returned[i]? = some (.cell cell)
  /-- and holds the local of the last parameter that it was passed to -/
  stored : ∀ i cell, Shares plan.slots args i cell →
    (∀ j, i < j → ¬ Shares plan.slots args j cell) →
    finish.locals[i]? = some (after.cellContent cell)
  /-- the target's cell holds the body's copy, unless it is passed by reference itself -/
  target : ∀ cell content, finish.target = some (cell, content) →
    (∀ i, ¬ Shares plan.slots args i cell) → after.cellContent cell = content
  /-- every other cell is unchanged -/
  others : ∀ cell, (∀ i, ¬ Shares plan.slots args i cell) →
    (∀ content, finish.target ≠ some (cell, content)) → after.cellContent cell = w.cellContent cell

/-- Copying out delivers what a body left, in a world where at most the target's cell was written
since the call began. -/
theorem delivered_copyOut {α : Type} {plan : ArgPlan} {finish : Finish α} {w mid : World}
    (hcount : args.length = plan.slots.length) (hlocals : finish.locals.length = args.length)
    (hargs : ∀ cell, .cell cell ∈ args → cell.id < w.cells.size)
    (htarget : ∀ cell content, finish.target = some (cell, content) → cell.id < w.cells.size)
    (hmid : mid.cells = (w.writeCells finish.target.toList).cells) :
    Delivered plan args w finish (plan.copyOut finish.locals args mid).1
      (plan.copyOut finish.locals args mid).2 := by
  -- All writes since the call began, in one list: the target's cell first.
  have hafter : ∀ cell, (plan.copyOut finish.locals args mid).2.cellContent cell =
      (w.writeCells (finish.target.toList ++ stores plan.slots finish.locals args)).cellContent
        cell := by
    intro cell
    rw [copyOut, copyBack_world, World.writeCells_append]
    exact World.cellContent_congr (World.writeCells_cells_congr hmid _) cell
  have hlocal : ∀ {i : Nat} {arg : Value}, args[i]? = some arg →
      ∃ v, finish.locals[i]? = some v := by
    intro i arg harg
    obtain ⟨hi, -⟩ := List.getElem?_eq_some_iff.mp harg
    exact ⟨finish.locals[i], List.getElem?_eq_getElem (hlocals ▸ hi)⟩
  refine ⟨hlocals, copyBack_length _ _ _ _, ?byValue, ?byRef, ?kept, ?stored, ?target, ?others⟩
  case byValue =>
    intro i slot hslot hmode
    cases harg : args[i]? with
    | none =>
        have hout : args.length ≤ i := List.getElem?_eq_none_iff.mp harg
        have hin : i < plan.slots.length := (List.getElem?_eq_some_iff.mp hslot).1
        omega
    | some arg =>
        obtain ⟨v, hv⟩ := hlocal harg
        rw [copyOut, copyBack_args mid hslot hv harg]
        cases arg <;> simp [returned, hmode]
  case byRef =>
    intro i slot arg hslot hmode harg hcell
    obtain ⟨v, hv⟩ := hlocal harg
    rw [copyOut, copyBack_args mid hslot hv harg, hv]
    cases arg with
    | cell cell => simp [Value.isCell] at hcell
    | _ => simp [returned, hmode]
  case kept =>
    rintro i cell ⟨slot, hslot, -, harg⟩
    obtain ⟨v, hv⟩ := hlocal harg
    rw [copyOut, copyBack_args mid hslot hv harg]
    rfl
  case stored =>
    intro i cell hshares hlast
    obtain ⟨slot, hslot, hmode, harg⟩ := id hshares
    obtain ⟨v, hv⟩ := hlocal harg
    obtain ⟨front, back, hstores, hback⟩ := stores_last hshares hlast hv
    rw [hv, hafter, hstores, ← List.append_assoc, World.cellContent_writeCells_last
      (hargs cell (List.mem_of_getElem? harg)) _ hback]
  case target =>
    intro cell content hwritten hshares
    have hrest : ∀ x, (cell, x) ∉ stores plan.slots finish.locals args := by
      intro x hx
      obtain ⟨i, hi⟩ := shares_of_mem_stores hx
      exact hshares i hi
    rw [hafter, hwritten]
    exact World.cellContent_writeCells_last (htarget cell content hwritten) [] hrest
  case others =>
    intro cell hshares hother
    rw [hafter]
    refine World.cellContent_writeCells_of_not_mem fun x hx => ?_
    rw [List.mem_append, Option.mem_toList] at hx
    cases hx with
    | inl hwritten => exact hother x hwritten
    | inr hstored =>
        obtain ⟨i, hi⟩ := shares_of_mem_stores hstored
        exact hshares i hi

end ArgPlan

end Introspect
