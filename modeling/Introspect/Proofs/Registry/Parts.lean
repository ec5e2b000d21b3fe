import Introspect.Proofs.Registry.Derivation

/-!
# `Introspect.Proofs.Registry.Parts`: replacing a slot, and a part, of an instance

An instance is a chain of parts, one embedded in another, and each part has slots of its own. Slots
and parts are both read and written by position, and both obey the laws that one expects of that: a
slot that was written reads as what was written (`Instance.get_set_self`) and leaves the others
alone (`Instance.get_set_of_ne`); a part that was put somewhere is found there
(`Instance.part_setPart`), and putting the old one back undoes the change
(`Instance.setPart_setPart`, `Instance.setPart_part`).

Which part belongs to a type depends on the native types of the parts and on what they embed, and
not on slots. `Registry.PartAt.setPart` concludes that a part may be replaced by another one of the
same native type and with the same base: every type finds its part where it was, and only the
replaced one has other slots. Different types have their parts at different depths
(`Registry.PartAt.target_unique`), so that is the part of one type only.
-/

set_option autoImplicit false

namespace Introspect

namespace Instance

variable {data part changed : Instance} {slot other : String} {content : Datum} {depth : Nat}

/-! ### Slots -/

/-- The instance has a slot of that name. -/
def HasSlot (data : Instance) (slot : String) : Prop :=
  (data.slots.lookup slot).isSome = true

/-- A slot that is there holds what was written last. -/
theorem lookup_setIn_self {slots : List (String × Datum)} (h : (slots.lookup slot).isSome = true) :
    (setIn slot content slots).lookup slot = some content := by
  induction slots with
  | nil => simp at h
  | cons entry rest ih =>
      obtain ⟨name, old⟩ := entry
      by_cases hname : name = slot
      · simp [setIn, hname]
      · have hbeq : (slot == name) = false := by simpa using Ne.symm hname
        rw [List.lookup_cons, hbeq] at h
        simp only [setIn, if_neg hname, List.lookup_cons, hbeq]
        exact ih h

/-- Writing a slot leaves the others as they were. -/
theorem lookup_setIn_of_ne (h : other ≠ slot) (slots : List (String × Datum)) :
    (setIn slot content slots).lookup other = slots.lookup other := by
  induction slots with
  | nil => rfl
  | cons entry rest ih =>
      obtain ⟨name, old⟩ := entry
      by_cases hname : name = slot
      · have hbeq : (other == name) = false := by simpa [hname] using h
        simp [setIn, hname, List.lookup_cons, hname ▸ hbeq]
      · simp only [setIn, if_neg hname, List.lookup_cons, ih]

/-- Writing a slot does not change what the instance was made for. -/
@[simp] theorem native_set (data : Instance) (slot : String) (content : Datum) :
    (data.set slot content).native = data.native := by
  cases data
  rfl

/-- Writing a slot does not change what the instance embeds. -/
@[simp] theorem base_set (data : Instance) (slot : String) (content : Datum) :
    (data.set slot content).base = data.base := by
  cases data
  rfl

/-- Writing a slot works on the list of slots. -/
theorem slots_set (data : Instance) (slot : String) (content : Datum) :
    (data.set slot content).slots = setIn slot content data.slots := by
  cases data
  rfl

/-- A slot reads as what was written. -/
theorem get_set_self (h : data.HasSlot slot) : (data.set slot content).get slot = content := by
  rw [get, slots_set, lookup_setIn_self h]
  rfl

/-- The other slots read as before. -/
theorem get_set_of_ne (h : other ≠ slot) (data : Instance) :
    (data.set slot content).get other = data.get other := by
  rw [get, get, slots_set, lookup_setIn_of_ne h]

/-! ### Parts -/

/-- Another base does not change what the instance was made for. -/
@[simp] theorem native_setBase (data base : Instance) :
    (data.setBase base).native = data.native := by
  cases data
  rfl

/-- The base is the one that was put there. -/
@[simp] theorem base_setBase (data base : Instance) : (data.setBase base).base = some base := by
  cases data
  rfl

/-- Another base leaves the slots alone. -/
@[simp] theorem slots_setBase (data base : Instance) : (data.setBase base).slots = data.slots := by
  cases data
  rfl

/-- A part that is not the instance itself is a part of the base. -/
theorem part_succ_eq_some_iff :
    data.part (depth + 1) = some part ↔ ∃ base, data.base = some base ∧ base.part depth = some part
    := by
  simp [Instance.part, Option.bind_eq_some_iff]

/-- A part further down is replaced inside the base. -/
theorem setPart_succ {base : Instance} (h : data.base = some base) (changed : Instance) :
    data.setPart (depth + 1) changed = data.setBase (base.setPart depth changed) := by
  simp [setPart, h]

/-- A part is found where it was put. -/
theorem part_setPart (h : data.part depth = some part) (changed : Instance) :
    (data.setPart depth changed).part depth = some changed := by
  induction depth generalizing data with
  | zero => rfl
  | succ depth ih =>
      obtain ⟨base, hbase, hpart⟩ := part_succ_eq_some_iff.mp h
      rw [setPart_succ hbase]
      exact part_succ_eq_some_iff.mpr ⟨_, base_setBase _ _, ih hpart⟩

/-- Of two parts put in one place the second counts. -/
theorem setPart_setPart (h : data.part depth = some part) (first second : Instance) :
    (data.setPart depth first).setPart depth second = data.setPart depth second := by
  induction depth generalizing data with
  | zero => rfl
  | succ depth ih =>
      obtain ⟨base, hbase, hpart⟩ := part_succ_eq_some_iff.mp h
      rw [setPart_succ hbase, setPart_succ hbase, setPart_succ (base_setBase _ _), ih hpart]
      cases data
      rfl

/-- Putting back what is there changes nothing. -/
theorem setPart_part (h : data.part depth = some part) : data.setPart depth part = data := by
  induction depth generalizing data with
  | zero => exact (Option.some.inj h).symm
  | succ depth ih =>
      obtain ⟨base, hbase, hpart⟩ := part_succ_eq_some_iff.mp h
      rw [setPart_succ hbase, ih hpart]
      obtain ⟨native, outer, slots⟩ := data
      obtain rfl : outer = some base := hbase
      rfl

/-- Of the same native type, and with equal slots; what is embedded may differ. -/
structure Alike (data other : Instance) : Prop where
  native : other.native = data.native
  slots : other.slots = data.slots

/-- Slots of instances that are alike read the same. -/
theorem Alike.get_eq {other : Instance} (h : data.Alike other) (slot : String) :
    other.get slot = data.get slot := by
  rw [get, get, h.slots]

/-- Storage that is the same has the same slots. -/
theorem rel_alike_self (view : Option Instance) :
    Option.Rel Alike view view := by
  cases view with
  | none => exact .none
  | some view => exact .some ⟨rfl, rfl⟩

/-- Of the same native type, and with the same content in one slot. -/
structure SameAt (slot : String) (data other : Instance) : Prop where
  native : other.native = data.native
  content : other.get slot = data.get slot

/-- Storage with the same slots has the same content in each of them. -/
theorem rel_sameAt_of_alike {view view' : Option Instance} (h : Option.Rel Alike view view')
    (slot : String) : Option.Rel (SameAt slot) view view' := by
  cases h with
  | none => exact .none
  | some halike => exact .some ⟨halike.native, halike.get_eq slot⟩

end Instance

namespace Registry

variable {reg : Registry} {type target other : TypeHandle} {data part view changed : Instance}
  {depth place : Nat}

/-- The parts at one depth belong to one type. -/
theorem PartAt.target_unique (h : reg.PartAt target type data depth part)
    (h' : reg.PartAt other type data depth view) : target = other := by
  induction h generalizing view with
  | self =>
      cases h' with
      | self => rfl
  | embedded _ hinfo hbase _ hinner _ ih =>
      cases h' with
      | embedded _ hinfo' hbase' _ hinner' hrest' =>
          obtain rfl := Option.some.inj (hinfo.symm.trans hinfo')
          obtain rfl := Option.some.inj (hbase.symm.trans hbase')
          obtain rfl := Option.some.inj (hinner.symm.trans hinner')
          exact ih hrest'

/-- A part may be replaced by one of the same native type and with the same base: the parts of all
types stay where they are, and those elsewhere keep their slots. -/
theorem PartAt.setPart (h : reg.PartAt target type data place view)
    (hpart : data.part depth = some part) (hnative : changed.native = part.native)
    (hbase : changed.base = part.base) :
    ∃ view', reg.PartAt target type (data.setPart depth changed) place view' ∧
      (place ≠ depth → view.Alike view') := by
  induction h generalizing depth with
  | @self data =>
      refine ⟨data.setPart depth changed, .self, fun hne => ?_⟩
      obtain ⟨depth, rfl⟩ := Nat.exists_eq_succ_of_ne_zero hne.symm
      obtain ⟨base, hinner, -⟩ := Instance.part_succ_eq_some_iff.mp hpart
      rw [Instance.setPart_succ hinner]
      exact ⟨Instance.native_setBase _ _, Instance.slots_setBase _ _⟩
  | @embedded type base info data inner view place hne hinfo hup hembeds hinner hrest ih =>
      cases depth with
      | zero =>
          obtain rfl : data = part := Option.some.inj hpart
          exact ⟨view, .embedded hne hinfo hup (hnative ▸ hembeds) (hbase.trans hinner) hrest,
            fun _ => ⟨rfl, rfl⟩⟩
      | succ depth =>
          obtain ⟨inner', hinner', hpart⟩ := Instance.part_succ_eq_some_iff.mp hpart
          obtain rfl : inner = inner' := Option.some.inj (hinner.symm.trans hinner')
          obtain ⟨view', hview, halike⟩ := ih hpart
          rw [Instance.setPart_succ hinner]
          refine ⟨view', .embedded hne hinfo hup ?_ (Instance.base_setBase _ _) hview,
            fun hplace => halike fun heq => hplace (congrArg (· + 1) heq)⟩
          rw [Instance.native_setBase]
          exact hembeds

end Registry

end Introspect
