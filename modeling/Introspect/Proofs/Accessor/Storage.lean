import Introspect.Proofs.Accessor.Slots
import Introspect.Proofs.Accessor.Target
import Introspect.Proofs.World.Cells

/-!
# `Introspect.Proofs.Accessor.Storage`: the storage that a field of a target is in

An accessor of a field looks at its target first. `World.Settable` says which targets a field can be
written through, and `World.view?` what storage an accessor of a type then works on: the part of an
object that belongs to the type, or a value type in a cell.

`World.withShared_congr` says that a read depends on this storage only. `World.withExclusive_ends`
says what a write does to it: the storage of one type is replaced, that of every other type keeps
its slots (`World.Replaced`), and the target can be used as before (`World.Continues`).
-/

set_option autoImplicit false

namespace Introspect

namespace World

variable {w after locked : World} {target : Value} {object : ObjectRef}
  {declaring other : TypeHandle} {depth : Nat} {part changed : Instance} {α : Type}

/-! ### Targets and their storage -/

/-- A target that fields can be written through: an object that no one holds, bare or in a cell, or
a value type in a cell. -/
inductive Settable (w : World) (target : Value) : Prop
  | object {object : ObjectRef} :
      w.opened target = .object object → object.id < w.objects.size → w.Unlocked object →
      Settable w target
  | boxed {cell : CellRef} {type : TypeHandle} {data : Instance} :
      target = .cell cell → w.cellContent cell = .struct type data → Settable w target

/-- The storage of a target that belongs to a type: a part of an object, or a value type. -/
def view? (w : World) (target : Value) (declaring : TypeHandle) : Option Instance :=
  match w.opened target with
  | .object object => (w.partOf object declaring).map Prod.snd
  | .struct type data => if type = declaring then some data else none
  | _ => none

/-- A later world in which the same can be done with a target. -/
structure Continues (w after : World) (target : Value) : Prop where
  alike : w.Alike after
  settable : after.Settable target
  type : directType (after.opened target) = directType (w.opened target)

/-- The storage of a target that belongs to a type is another one, and all storage that belongs to
other types has the slots that it had. -/
structure Replaced (w after : World) (target : Value) (declaring : TypeHandle)
    (changed : Instance) : Prop where
  self : after.view? target declaring = some changed
  others : ∀ other, other ≠ declaring →
    Option.Rel Instance.Alike (w.view? target other) (after.view? target other)

/-- When one slot was changed, the others have the same content, on whatever type they are. -/
theorem Replaced.rel_sameAt {view : Instance} {slot otherSlot : String} {content : Datum}
    (h : w.Replaced after target declaring (view.set slot content))
    (hview : w.view? target declaring = some view)
    (hslots : other = declaring → otherSlot ≠ slot) :
    Option.Rel (Instance.SameAt otherSlot) (w.view? target other) (after.view? target other) := by
  by_cases hother : other = declaring
  · rw [hother, hview, h.self]
    exact .some ⟨Instance.native_set _ _ _, Instance.get_set_of_ne (hslots hother) view⟩
  · exact Instance.rel_sameAt_of_alike (h.others other hother) _

/-- A lock that was taken changed neither types nor arrays. -/
theorem lock_alike {mode : Hold} (h : w.lock object mode = .ok locked) : w.Alike locked := by
  rw [(lock_eq h).2]
  exact ⟨rfl, rfl⟩

/-- What lies in a cell that holds a value type is the storage of that type only. -/
theorem view?_boxed {cell : CellRef} {type : TypeHandle} {data : Instance}
    (hcell : w.cellContent cell = .struct type data) (declaring : TypeHandle) :
    w.view? (.cell cell) declaring = if type = declaring then some data else none := by
  simp only [view?, opened, hcell]

/-- The storage of an object is in its parts. -/
theorem view?_object (htarget : w.opened target = .object object) (declaring : TypeHandle) :
    w.view? target declaring = (w.partOf object declaring).map Prod.snd := by
  simp only [view?, htarget]

/-! ### Worlds that differ in locks only -/

/-- An object that no one holds is not held later either, when the same locks are held. -/
theorem Undisturbed.unlocked (h : Undisturbed w after) (hfree : w.Unlocked object) :
    after.Unlocked object := by
  refine ⟨(h.states _).trans hfree.1, fun thread => ?_⟩
  have hheld : after.locks.holdOf thread object.id = w.locks.holdOf thread object.id := by
    simp only [LockTable.holdOf, LockTable.held, h.holds]
  exact hheld.trans (hfree.2 thread)

/-- The locks do not matter for the storage of a target. -/
theorem Undisturbed.view?_eq (h : Undisturbed w after) (target : Value) (declaring : TypeHandle) :
    after.view? target declaring = w.view? target declaring := by
  rw [h.same]
  cases target <;> rfl

/-- With the same locks held, the same can be done with an object. -/
theorem Undisturbed.continues (h : Undisturbed w after) (htarget : w.opened target = .object object)
    (hin : object.id < w.objects.size) (hfree : w.Unlocked object) : w.Continues after target := by
  have hopened : after.opened target = w.opened target := by
    rw [h.same]
    cases target <;> rfl
  have hobjects : after.objects = w.objects := by rw [h.same]
  have hsettable : after.Settable target :=
    .object (hopened.trans htarget) (hobjects ▸ hin) (h.unlocked hfree)
  refine ⟨?_, hsettable, congrArg directType hopened⟩
  rw [h.same]
  exact ⟨rfl, rfl⟩

/-! ### Reading -/

/-- A read runs on the storage that belongs to the type, or fails because there is none. -/
theorem withShared_view (h : w.Settable target) (declaring : TypeHandle) (body : SharedBody α) :
    (∃ view start, w.view? target declaring = some view ∧ w.Alike start ∧
        (w.withShared target declaring body).1 = (body view start).1) ∨
      w.view? target declaring = none ∧ ∃ actual, directType (w.opened target) = some actual ∧
        (w.withShared target declaring body).1 = .error (w.notAnInstance actual declaring) := by
  cases h with
  | @object object htarget _ hfree =>
      rw [view?_object htarget, htarget]
      cases hpart : w.partOf object declaring with
      | some found =>
          obtain ⟨locked, hlock⟩ := lock_of_unlocked hfree .shared
          refine .inl ⟨found.2, locked, rfl, lock_alike hlock, ?_⟩
          rw [withShared_part htarget hlock hpart]
      | none =>
          exact .inr ⟨rfl, object.type, rfl, (withShared_foreign htarget hfree hpart body).1⟩
  | @boxed cell type data htarget hcell =>
      subst htarget
      have hcontent : w.content (.cell cell) = .struct type data :=
        content_of_nests (.inside (by rw [hcell]; exact .bare rfl))
      rw [view?_boxed hcell, show w.opened (.cell cell) = .struct type data from hcell]
      simp only [withShared, hcontent]
      split
      · exact .inl ⟨data, w, rfl, ⟨rfl, rfl⟩, rfl⟩
      · exact .inr ⟨rfl, type, rfl, rfl⟩

/-- A read has the same result in a later world, if its body has on the storage there. -/
theorem withShared_congr (h : w.Settable target) (hafter : w.Continues after target)
    {body : SharedBody α} {R : Instance → Instance → Prop}
    (hviews : Option.Rel R (w.view? target declaring) (after.view? target declaring))
    (hbody : ∀ view view' start start', R view view' → start.Alike start' →
      (body view' start').1 = (body view start).1) :
    (after.withShared target declaring body).1 = (w.withShared target declaring body).1 := by
  -- Either both worlds have such storage, or neither has; the mixed cases contradict `hviews`.
  rcases withShared_view h declaring body with
      ⟨view, start, hview, hstart, hrun⟩ | ⟨hnone, actual, hactual, hrun⟩ <;>
    rcases withShared_view hafter.settable declaring body with
      ⟨view', start', hview', hstart', hrun'⟩ | ⟨hnone', actual', hactual', hrun'⟩
  · rw [hview, hview'] at hviews
    obtain ⟨hsame⟩ := hviews
    rw [hrun, hrun']
    exact hbody _ _ _ _ hsame ((hstart.symm.trans hafter.alike).trans hstart')
  · rw [hview, hnone'] at hviews
    nomatch hviews
  · rw [hnone, hview'] at hviews
    nomatch hviews
  · obtain rfl : actual = actual' :=
      Option.some.inj ((hactual.symm.trans hafter.type.symm).trans hactual')
    rw [hrun, hrun']
    simp only [notAnInstance, Registry.nameOf, hafter.alike.registry]

/-! ### Writing -/

/-- A target that fields can be written through is no boxed value type. -/
theorem requireWritable_of_settable (h : w.Settable target) :
    w.requireWritable target = .ok () := by
  cases h with
  | object htarget _ _ => exact requireWritable_object htarget
  | boxed htarget _ =>
      subst htarget
      rfl

/-- A part of an object that is replaced by one of the same native type and with the same base is
seen as the type that it belongs to, and no other type sees other slots. -/
theorem replaced_setPayload (htarget : w.opened target = .object object)
    (hin : object.id < w.objects.size) (hpart : w.partOf object declaring = some (depth, part))
    (hnative : changed.native = part.native) (hbase : changed.base = part.base) :
    w.Replaced (w.setPayload object ((w.payload object).setPart depth changed)) target declaring
      changed := by
  have hopened : (w.setPayload object ((w.payload object).setPart depth changed)).opened target =
      .object object := by
    rw [← htarget]
    cases target <;> rfl
  have hpayload : (w.setPayload object ((w.payload object).setPart depth changed)).payload object =
      (w.payload object).setPart depth changed := by
    simp [payload, setPayload, hin]
  have hat := partOf_eq_some_iff.mp hpart
  have hput := Instance.part_setPart hat.part_eq changed
  constructor
  · obtain ⟨view, hview, -⟩ := hat.setPart hat.part_eq hnative hbase
    obtain rfl : changed = view := Option.some.inj (hput.symm.trans hview.part_eq)
    rw [view?_object hopened, partOf_eq_some_iff.mpr (hpayload ▸ hview)]
    rfl
  · intro other hother
    rw [view?_object htarget, view?_object hopened]
    cases hfound : w.partOf object other with
    | some found =>
        obtain ⟨place, view⟩ := found
        have hview := partOf_eq_some_iff.mp hfound
        obtain ⟨view', hview', halike⟩ := hview.setPart hat.part_eq hnative hbase
        rw [partOf_eq_some_iff.mpr (hpayload ▸ hview')]
        exact .some (halike fun hplace => hother (hview.target_unique (hplace ▸ hat)))
    | none =>
        cases hlater : (w.setPayload object ((w.payload object).setPart depth changed)).partOf
            object other with
        | none => exact .none
        | some found =>
            -- Putting the old part back would make it one of the instance as it was.
            obtain ⟨place, view'⟩ := found
            have hview' := partOf_eq_some_iff.mp hlater
            rw [hpayload] at hview'
            obtain ⟨view, hview, -⟩ := hview'.setPart hput hnative.symm hbase.symm
            rw [Instance.setPart_setPart hat.part_eq, Instance.setPart_part hat.part_eq] at hview
            rw [partOf_eq_some_iff.mpr hview] at hfound
            simp at hfound

/-- Replacing a part of an object in a world that differs in locks only does no more than that, and
leaves as much to be done with the object. -/
theorem Undisturbed.replaced {settled : World} (h : Undisturbed w settled)
    (htarget : w.opened target = .object object) (hin : object.id < w.objects.size)
    (hfree : w.Unlocked object) (hpart : w.partOf object declaring = some (depth, part))
    (hnative : changed.native = part.native) (hbase : changed.base = part.base) :
    w.Continues (settled.setPayload object ((w.payload object).setPart depth changed)) target ∧
      w.Replaced (settled.setPayload object ((w.payload object).setPart depth changed)) target
        declaring changed := by
  have hfree' := h.unlocked hfree
  obtain ⟨locks, rfl⟩ : ∃ locks, settled = { w with locks } := ⟨_, h.same⟩
  have hopened : ∀ data, (setPayload { w with locks } object data).opened target =
      w.opened target := by
    intro data
    cases target <;> rfl
  constructor
  · refine ⟨⟨rfl, rfl⟩, .object ((hopened _).trans htarget) ?_ hfree',
      congrArg directType (hopened _)⟩
    simpa [setPayload] using hin
  · have hreplaced := replaced_setPayload htarget hin hpart hnative hbase
    exact ⟨hreplaced.self, hreplaced.others⟩

/-- A cell that holds a value type takes another instance of that type, and no other type sees
it. -/
theorem replaced_setCell {cell : CellRef} {type : TypeHandle} {data : Instance}
    (hcell : w.cellContent cell = .struct type data) (changed : Instance) :
    w.Continues (w.setCell cell (.struct type changed)) (.cell cell) ∧
      w.Replaced (w.setCell cell (.struct type changed)) (.cell cell) type changed := by
  have hstored := cellContent_setCell w cell (.struct type changed)
    (inHeap_of_cellContent (by simp [hcell]))
  have hopened : directType ((w.setCell cell (.struct type changed)).opened (.cell cell)) =
      directType (w.opened (.cell cell)) := by
    simp only [opened, hstored, hcell, directType]
  refine ⟨⟨⟨rfl, rfl⟩, .boxed rfl hstored, hopened⟩, ?_, fun other hother => ?_⟩
  · rw [view?_boxed hstored, if_pos rfl]
  · rw [view?_boxed hstored, view?_boxed hcell, if_neg hother.symm, if_neg hother.symm]
    exact .none

/-- A body that leaves the world alone, and the native type and the base of the storage that it
gets. -/
structure Tame (body : ExclusiveBody α) : Prop where
  world : ∀ view start, (body view start).2 = start
  native : ∀ view start, (body view start).1.2.native = view.native
  base : ∀ view start, (body view start).1.2.base = view.base

/-- How a write of a target as a type ends: it ran on the storage that belongs to the type, which it
replaced, or it failed and left all storage alone. -/
def Ends (w : World) (target : Value) (declaring : TypeHandle) (body : ExclusiveBody α)
    (ran : Except InvokeError α × World) : Prop :=
  w.Continues ran.2 target ∧
    ((∃ view start, w.view? target declaring = some view ∧ w.Alike start ∧
        ran.1 = (body view start).1.1 ∧
        w.Replaced ran.2 target declaring (body view start).1.2) ∨
      (∃ e, ran.1 = .error e) ∧ ∀ other, ran.2.view? target other = w.view? target other)

/-- A write of an object that no one holds. -/
theorem withExclusive_ends_object (htarget : w.opened target = .object object)
    (hin : object.id < w.objects.size) (hfree : w.Unlocked object) (declaring : TypeHandle)
    {body : ExclusiveBody α} (hbody : Tame body) :
    w.Ends target declaring body (w.withExclusive target declaring .store body) := by
  cases hpart : w.partOf object declaring with
  | none =>
      obtain ⟨hresult, hundisturbed⟩ := withExclusive_foreign htarget hfree hpart .store body
      exact ⟨hundisturbed.continues htarget hin hfree,
        .inr ⟨⟨_, hresult⟩, hundisturbed.view?_eq target⟩⟩
  | some found =>
      obtain ⟨depth, part⟩ := found
      obtain ⟨locked, hlock⟩ := lock_of_unlocked hfree .exclusive
      obtain ⟨hcontinues, hreplaced⟩ := (undisturbed_unlock hfree hlock).replaced htarget hin
        hfree hpart (hbody.native part locked) (hbody.base part locked)
      rw [withExclusive_part htarget hlock hpart, hbody.world]
      refine ⟨hcontinues, .inl ⟨part, locked, ?_, lock_alike hlock, rfl, hreplaced⟩⟩
      rw [view?_object htarget, hpart]
      rfl

/-- A write of a value type in a cell. -/
theorem withExclusive_ends_boxed {cell : CellRef} {type : TypeHandle} {data : Instance}
    (hcell : w.cellContent cell = .struct type data) (declaring : TypeHandle)
    {body : ExclusiveBody α} (hbody : Tame body) :
    w.Ends (.cell cell) declaring body (w.withExclusive (.cell cell) declaring .store body) := by
  have hsame : w.Continues w (.cell cell) := ⟨⟨rfl, rfl⟩, .boxed rfl hcell, rfl⟩
  simp only [withExclusive, hcell, if_true, changeCopy]
  split
  · next htype =>
      subst htype
      have hworld := hbody.world data w
      rcases hran : body data w with ⟨⟨result, changed⟩, after⟩
      obtain rfl : after = w := by simpa [hran] using hworld
      cases result with
      | ok result =>
          obtain ⟨hcontinues, hreplaced⟩ := replaced_setCell hcell changed
          refine ⟨hcontinues, .inl ⟨data, after, ?_, ⟨rfl, rfl⟩, by rw [hran], ?_⟩⟩
          · rw [view?_boxed hcell, if_pos rfl]
          · rw [hran]
            exact hreplaced
      | error e => exact ⟨hsame, .inr ⟨⟨e, rfl⟩, fun _ => rfl⟩⟩
  · exact ⟨hsame, .inr ⟨⟨_, rfl⟩, fun _ => rfl⟩⟩

/-- A write runs on the storage that belongs to the type, and replaces it, or fails and leaves all
storage alone. -/
theorem withExclusive_ends (h : w.Settable target) (declaring : TypeHandle)
    {body : ExclusiveBody α} (hbody : Tame body) :
    w.Ends target declaring body (w.withExclusive target declaring .store body) := by
  cases h with
  | object htarget hin hfree => exact withExclusive_ends_object htarget hin hfree declaring hbody
  | boxed htarget hcell =>
      subst htarget
      exact withExclusive_ends_boxed hcell declaring hbody

end World

end Introspect
