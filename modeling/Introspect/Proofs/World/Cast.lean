import Introspect.Accessor
import Introspect.Proofs.World.Content

/-!
# `Introspect.Proofs.World.Cast`: what a checked conversion delivers

`cast` opens one cell and then looks at the runtime type, which sees through all cells.
`cast_eq_ok_iff` and `cast_eq_error_iff` say when the conversion succeeds and what it answers.

`cast_delivers` is the main result, for a value inside any number of cells. The type that was asked
for is always respected, and a failure is a null where a value type is required, or else a wrong
type. What is delivered is the content itself, and no cell, exactly for values inside at most one
cell. A value inside two cells or more loses the outermost one only, so what is delivered is again a
cell; the array element that it is stored in then follows later writes to that cell, and
`cast_keeps_inner_cell` shows one that does.

Element writes go through `cast`. `ElementWriter.run_eq_ok` says what a successful one leaves in the
heap, and `getItem_writeCells` that writes to cells leave arrays alone.
-/

set_option autoImplicit false

namespace Introspect

namespace World

/-! ### The outcome of a conversion -/

/-- Of the values that are no cells, null alone has no type. -/
theorem directType_eq_none_iff {v : Value} (h : v.isCell = false) :
    directType v = none ↔ v = .null := by
  cases v with
  | cell cell => simp [Value.isCell] at h
  | _ => simp [directType]

/-- A value inside cells has the type of what lies at the end. -/
theorem typeOf_of_nests {w : World} {cells : List CellRef} {v inner : Value}
    (h : w.Nests cells v inner) : w.typeOf v = directType inner := by
  rw [typeOf, content_of_nests h]

variable {w : World} {v r : Value} {type : TypeHandle} {e : InvokeError}

/-- A conversion to another type than the root type answers with the opened value, if that is of the
type. A null is of every type that is no value type. -/
theorem cast_eq_ok_iff (htype : type ≠ .object) :
    w.cast v type = .ok r ↔
      r = w.opened v ∧
        ((w.typeOf (w.opened v) = none ∧ w.registry.isValueType type = false) ∨
          ∃ actual, w.typeOf (w.opened v) = some actual ∧
            w.registry.isAssignable type actual = true) := by
  simp only [cast, if_neg htype]
  cases w.typeOf (w.opened v) with
  | none =>
      cases w.registry.isValueType type
      · simp [eq_comm (a := r)]
      · simp
  | some actual =>
      by_cases hassign : w.registry.isAssignable type actual = true
      · simp [hassign, eq_comm (a := r)]
      · have hne : actual ≠ type := by
          rintro rfl
          exact hassign (w.registry.isAssignable_refl actual)
        simp [hassign, hne]

/-- A value that is not inside two cells is converted to a cell for the root type only. -/
theorem isCell_of_cast (hv : (w.opened v).isCell = false) (h : w.cast v type = .ok r) :
    type = .object ∨ r.isCell = false := by
  by_cases htype : type = .object
  · exact .inl htype
  · obtain ⟨rfl, -⟩ := (cast_eq_ok_iff htype).mp h
    exact .inr hv

/-- A conversion fails on a null where a value type is required, and on a value of another type. -/
theorem cast_eq_error_iff (htype : type ≠ .object) :
    w.cast v type = .error e ↔
      (w.typeOf (w.opened v) = none ∧ w.registry.isValueType type = true ∧
          e = .nullToValueType (w.registry.nameOf type)) ∨
        ∃ actual, w.typeOf (w.opened v) = some actual ∧
          w.registry.isAssignable type actual = false ∧
          e = .wrongType (w.registry.nameOf type) (w.registry.nameOf actual) := by
  simp only [cast, if_neg htype]
  cases w.typeOf (w.opened v) with
  | none =>
      cases w.registry.isValueType type
      · simp
      · simp [eq_comm (a := e)]
  | some actual =>
      by_cases hassign : w.registry.isAssignable type actual = true
      · simp [hassign]
      · have hne : actual ≠ type := by
          rintro rfl
          exact hassign (w.registry.isAssignable_refl actual)
        simp [hassign, hne, eq_comm (a := e)]

/-- The opened value has the type of what lies at the end of the chain. -/
theorem typeOf_opened {cells : List CellRef} {inner : Value} (h : w.Nests cells v inner) :
    w.typeOf (w.opened v) = directType inner :=
  typeOf_of_nests h.opened

/-- A chain of cells without an end has no type. -/
theorem typeOf_of_endless (h : ¬ ∃ cells inner, w.Nests cells v inner) :
    w.typeOf v = none := by
  cases hcontent : w.content v with
  | cell cell => rw [typeOf, hcontent]; rfl
  | _ =>
      obtain ⟨cells, hnests⟩ := nests_iff_content.mpr ⟨hcontent, rfl⟩
      exact absurd ⟨cells, _, hnests⟩ h

/-- A value and what is left of it without its outermost cell have the same type. -/
theorem typeOf_opened_eq (w : World) (v : Value) : w.typeOf (w.opened v) = w.typeOf v := by
  by_cases hends : ∃ cells inner, w.Nests cells v inner
  · obtain ⟨cells, inner, hnests⟩ := hends
    rw [typeOf_opened hnests, typeOf_of_nests hnests]
  · rw [typeOf_of_endless hends]
    cases v with
    | cell cell =>
        -- Whatever ends behind the first cell ends behind the whole chain.
        refine typeOf_of_endless fun ⟨cells, inner, hnests⟩ => hends ⟨cell :: cells, inner, ?_⟩
        exact .inside hnests
    | _ => exact absurd ⟨[], _, .bare rfl⟩ hends

/-- Opening a value inside at most one cell gives the content. -/
theorem opened_eq_content {cells : List CellRef} {inner : Value} (h : w.Nests cells v inner)
    (hone : cells.length ≤ 1) : w.opened v = inner := by
  have htail : cells.tail = [] := List.eq_nil_of_length_eq_zero (by simp; omega)
  exact (htail ▸ h.opened).bare_eq

/-- Opening a value inside two cells or more gives the second one. -/
theorem opened_eq_second {outer next : CellRef} {rest : List CellRef} {inner : Value}
    (h : w.Nests (outer :: next :: rest) v inner) : w.opened v = .cell next :=
  h.opened.head_eq

/-! ### Element writes -/

/-- A list of writes to cells, in order. -/
def writeCells (w : World) (writes : List (CellRef × Value)) : World :=
  writes.foldl (fun w (cell, x) => w.setCell cell x) w

/-- Writes to cells change cells only. -/
theorem writeCells_eq (w : World) (writes : List (CellRef × Value)) :
    w.writeCells writes = { w with cells := (w.writeCells writes).cells } := by
  induction writes generalizing w with
  | nil => rfl
  | cons write rest ih => exact ih (w.setCell write.1 write.2)

/-- Writes to cells leave the elements of arrays alone. -/
theorem getItem_writeCells (w : World) (writes : List (CellRef × Value)) (array : ArrayRef)
    (index : Nat) : (w.writeCells writes).getItem array index = w.getItem array index := by
  rw [writeCells_eq]
  rfl

/-- A cell in the heap holds what was written last. -/
theorem cellContent_setCell (w : World) (cell : CellRef) (x : Value)
    (hcell : cell.id < w.cells.size) : (w.setCell cell x).cellContent cell = x := by
  simp [cellContent, setCell, hcell]

/-- An element is found as it was written. -/
theorem getItem_setItems (w : World) (array : ArrayRef) (index : Nat) (x : Value)
    (hindex : index < (w.items array).length) :
    (w.setItems array ((w.items array).set index x)).getItem array index = .ok x := by
  have harray : array.id < w.arrays.size := by
    by_contra hout
    have hnone : w.arrays[array.id]? = none := Array.getElem?_eq_none (Nat.le_of_not_lt hout)
    simp [items, hnone] at hindex
  have hitems : ∀ xs, (w.setItems array xs).items array = xs := by
    intro xs
    simp [items, setItems, harray]
  simp [getItem, hitems, hindex]

/-- An array that was found for a target is of the type that was asked for, and is found again by
itself. -/
theorem arrayOf_array {w : World} {target : Value} {arrayType : TypeHandle} {array : ArrayRef}
    (h : w.arrayOf target arrayType = .ok array) (later : World) :
    later.arrayOf (.array array) arrayType = .ok array := by
  have hself : later.content (.array array) = .array array := content_of_not_cell later rfl
  unfold arrayOf at h ⊢
  rw [hself]
  split at h
  · split at h
    · next htype =>
        obtain rfl : _ = array := by simpa using h
        simp [htype]
    · simp at h
  · simp at h
  · simp at h

end World

/-- A successful element write has converted the value and stored it in the array that the target
stands for, at a position inside it. -/
theorem ElementWriter.run_eq_ok {writer : ElementWriter} {target v : Value} {index : Nat}
    {w after : World} (h : writer.run target index v w = .ok after) :
    ∃ stored array, w.cast v writer.element = .ok stored ∧
      w.arrayOf target writer.array = .ok array ∧ index < (w.items array).length ∧
      after = w.setItems array ((w.items array).set index stored) := by
  unfold run at h
  cases hcast : w.cast v writer.element with
  | error e => simp [hcast, bind, Except.bind] at h
  | ok stored =>
      cases harray : w.arrayOf target writer.array with
      | error e => simp [hcast, harray, bind, Except.bind] at h
      | ok array =>
          simp only [hcast, harray, bind, Except.bind, World.setItem] at h
          split at h
          · next hindex => exact ⟨stored, array, rfl, rfl, hindex, by simpa using h.symm⟩
          · simp at h

/-- What a successful element write stored is read back from the array, whatever is written to cells
meanwhile. -/
theorem ElementWriter.read_back {writer : ElementWriter} {target v : Value} {index : Nat}
    {w after : World} (h : writer.run target index v w = .ok after) :
    ∃ array stored, w.arrayOf target writer.array = .ok array ∧
      w.cast v writer.element = .ok stored ∧ after.cells = w.cells ∧
      ∀ writes, (ElementReader.mk writer.array).run (.array array) index
        (after.writeCells writes) = .ok stored := by
  obtain ⟨stored, array, hcast, harray, hindex, rfl⟩ := ElementWriter.run_eq_ok h
  refine ⟨array, stored, harray, hcast, rfl, fun writes => ?_⟩
  have hfound := World.arrayOf_array harray
    ((w.setItems array ((w.items array).set index stored)).writeCells writes)
  simp only [ElementReader.run, hfound, bind, Except.bind, World.getItem_writeCells]
  exact World.getItem_setItems w array index stored hindex

namespace World

/-! ### What is delivered -/

/-- A conversion of a value inside any number of cells, to another type than the root type:

* what it delivers is the content itself, and no cell, when there is at most one cell around the
  content, and is again a cell when there are more;
* what it delivers is null at a type that is no value type, or has a runtime type that is assignable
  to the type asked for;
* it fails for a null at a value type, or else because the type is wrong;
* an element written through it is read back unchanged after any writes to cells, and stands for the
  same content, when there is at most one cell around the content; otherwise it stands for whatever
  is written to the second cell.

A value without content, a cell that leads back to itself, has no runtime type to look at. -/
theorem cast_delivers {w : World} {cells : List CellRef} {v content : Value}
    (hv : w.Nests cells v content) {type : TypeHandle} (htype : type ≠ .object) :
    (∀ r, w.cast v type = .ok r →
      (cells.length ≤ 1 → r = content ∧ r.isCell = false) ∧
      (2 ≤ cells.length → r.isCell = true) ∧
      ((content = .null ∧ w.registry.isValueType type = false) ∨
        ∃ actual, w.typeOf r = some actual ∧ w.registry.isAssignable type actual = true)) ∧
    (∀ e, w.cast v type = .error e →
      (e.kind = .nullReference ↔ content = .null ∧ w.registry.isValueType type = true) ∧
      (e.kind = .nullReference ∨ e.kind = .invalidCast)) ∧
    ∀ (writer : ElementWriter) (target : Value) (index : Nat) (after : World),
      writer.element = type → writer.run target index v w = .ok after →
      ∃ array stored, w.arrayOf target writer.array = .ok array ∧
        (∀ writes, (ElementReader.mk writer.array).run (.array array) index
          (after.writeCells writes) = .ok stored) ∧
        (cells.length ≤ 1 → ∀ writes, (after.writeCells writes).content stored = content) ∧
        ∀ outer next rest, cells = outer :: next :: rest → next.id < w.cells.size →
          ∀ x, x.isCell = false → (after.setCell next x).content stored = x := by
  have hnull : directType content = none ↔ content = .null :=
    directType_eq_none_iff hv.not_cell
  have htypeOf := typeOf_opened hv
  refine ⟨fun r hr => ?_, fun e he => ?_, fun writer target index after helement hrun => ?_⟩
  · obtain ⟨rfl, hfits⟩ := (cast_eq_ok_iff htype).mp hr
    refine ⟨fun hone => ?_, fun htwo => ?_, ?_⟩
    · rw [opened_eq_content hv hone]
      exact ⟨rfl, hv.not_cell⟩
    · obtain ⟨outer, next, rest, rfl⟩ : ∃ outer next rest, cells = outer :: next :: rest := by
        match cells, htwo with
        | outer :: next :: rest, _ => exact ⟨outer, next, rest, rfl⟩
      rw [opened_eq_second hv]
      rfl
    · rw [htypeOf, hnull] at hfits
      rw [htypeOf]
      exact hfits
  · rw [cast_eq_error_iff htype, htypeOf, hnull] at he
    rcases he with ⟨hcontent, hvalue, rfl⟩ | ⟨actual, hactual, -, rfl⟩
    · exact ⟨by simp [InvokeError.kind, hcontent, hvalue], .inl rfl⟩
    · have hsome : content ≠ .null := by
        rintro rfl
        simp [directType] at hactual
      exact ⟨by simp [InvokeError.kind, hsome], .inr rfl⟩
  · subst helement
    obtain ⟨array, stored, harray, hcast, hcells, hread⟩ := ElementWriter.read_back hrun
    obtain ⟨rfl, -⟩ := (cast_eq_ok_iff htype).mp hcast
    refine ⟨array, _, harray, hread, fun hone writes => ?_, ?_⟩
    · rw [opened_eq_content hv hone]
      exact content_of_not_cell _ hv.not_cell
    · rintro outer next rest rfl hnext x hx
      have hnests : (after.setCell next x).Nests [next] (.cell next) x := by
        refine .inside ?_
        rw [cellContent_setCell after next x (by rwa [hcells])]
        exact .bare hx
      rw [opened_eq_second hv]
      exact content_of_nests hnests

/-- A number in a cell, another cell around that one, and an array of one number. -/
def numberInCells : World :=
  { ofRegistry (Registry.initial.arrayOf .int32).2 with
    arrays := #[[.int32 0]], cells := #[.int32 5, .cell ⟨0⟩] }

/-- Writes of elements to an array of numbers. -/
def numberWriter : ElementWriter := ⟨(Registry.initial.arrayOf .int32).1, .int32⟩

/-- The array in `numberInCells`. -/
def numberArray : ArrayRef := ⟨0, numberWriter.array, .int32⟩

/-- The number inside one cell is delivered as a number, and an element that was written from the
cell stays what it is. -/
theorem cast_delivers_boxed_number :
    numberInCells.Nests [⟨0⟩] (.cell ⟨0⟩) (.int32 5) ∧ TypeHandle.int32 ≠ .object ∧
      numberInCells.cast (.cell ⟨0⟩) .int32 = .ok (.int32 5) ∧
      Value.isCell (.int32 5) = false ∧
      ∃ after array stored,
        numberWriter.run (.array numberArray) 0 (.cell ⟨0⟩) numberInCells = .ok after ∧
        ∀ writes, (ElementReader.mk numberWriter.array).run (.array array) 0
          (after.writeCells writes) = .ok stored ∧
          (after.writeCells writes).content stored = .int32 5 := by
  have hnests : numberInCells.Nests [⟨0⟩] (.cell ⟨0⟩) (.int32 5) := .inside (.bare rfl)
  have htype : TypeHandle.int32 ≠ .object := by decide
  have hcast : numberInCells.cast (.cell ⟨0⟩) .int32 = .ok (.int32 5) := rfl
  have hwrite : numberWriter.run (.array numberArray) 0 (.cell ⟨0⟩) numberInCells =
      .ok (numberInCells.setItems numberArray [.int32 5]) := rfl
  obtain ⟨hok, -, hstore⟩ := cast_delivers hnests htype
  obtain ⟨array, stored, -, hread, hcontent, -⟩ :=
    hstore numberWriter (.array numberArray) 0 _ rfl hwrite
  exact ⟨hnests, htype, hcast, ((hok _ hcast).1 (by decide)).2, _, array, stored, hwrite,
    fun writes => ⟨hread writes, hcontent (by decide) writes⟩⟩

/-- The number inside two cells is delivered as the inner cell, and an element that was written from
it changes with that cell. -/
theorem cast_keeps_inner_cell :
    numberInCells.cast (.cell ⟨1⟩) .int32 = .ok (.cell ⟨0⟩) ∧
      ∃ after, numberWriter.run (.array numberArray) 0 (.cell ⟨1⟩) numberInCells = .ok after ∧
        after.getItem numberArray 0 = .ok (.cell ⟨0⟩) ∧
        after.content (.cell ⟨0⟩) = .int32 5 ∧
        (after.setCell ⟨0⟩ (.int32 6)).content (.cell ⟨0⟩) = .int32 6 :=
  ⟨rfl, _, rfl, rfl, rfl, rfl⟩

end World

end Introspect
