import Introspect.Proofs.Accessor.Compiled
import Introspect.Proofs.Accessor.Storage
import Introspect.Proofs.Registry.Assembly

/-!
# `Introspect.Proofs.Accessor.RoundTrip`: reading what was written

A field is written through one compiled accessor and read through another, and each of them looks
at the target again. `Writer.run_slot` and `Reader.run_slot_congr` say what the two do when the
field is backed by a slot.

`Access.set_get` puts them together. A value that was accepted is read back, after the conversion to
the type of the field. No other field of the target reads differently, those of its base types and
of the types derived from the declaring one included, and after a write that failed no field does.
-/

set_option autoImplicit false

namespace Introspect

/-! ### Slots of fields -/

section Slots

variable {w after : World} {target : Value} {declaring type : TypeHandle} {slot : String}
  {get : Instance → Code (Except InvokeError Value)}
  {set : Instance → Value → Code (Except InvokeError Unit × Instance)}
  {set? : Option (Instance → Value → Code (Except InvokeError Unit × Instance))}

/-- The code that writes a slot touches nothing else. -/
theorem FieldAccess.SlotBacked.tame
    (hbacked : (FieldAccess.perInstance get (some set)).SlotBacked slot type) (v : Value) :
    World.Tame fun view w => (set view v).run w := by
  have hcases : ∀ view start,
      (∃ e, (set view v).run start = ((.error e, view), start)) ∨
        ∃ content, (set view v).run start = ((.ok (), view.set slot content), start) := by
    intro view start
    cases hresult : ((set view v).run start).1.1 with
    | error e => exact .inl ⟨e, hbacked.fails rfl hresult⟩
    | ok result =>
        obtain ⟨content, hrun, -⟩ := hbacked.keeps rfl hresult
        exact .inr ⟨content, hrun⟩
  constructor <;> intro view start <;>
    rcases hcases view start with ⟨e, hrun⟩ | ⟨content, hrun⟩ <;> simp [hrun]

/-- A read of a slot has the same result in a later world, if the slot has the same content. -/
theorem Reader.run_slot_congr (hbacked : (FieldAccess.perInstance get set?).SlotBacked slot type)
    (htarget : w.Settable target) (hafter : w.Continues after target)
    (hviews : Option.Rel (Instance.SameAt slot) (w.view? target declaring)
      (after.view? target declaring)) :
    ((Reader.field declaring get).run target after).1 =
      ((Reader.field declaring get).run target w).1 :=
  World.withShared_congr htarget hafter hviews fun _ _ _ _ hsame halike =>
    hbacked.reads rfl hsame halike

/-- A read gives what the code of the field reads from the storage of the target. -/
theorem Reader.run_view {view : Instance} {x : Value} (htarget : w.Settable target)
    (hview : w.view? target declaring = some view)
    (hget : ∀ start, w.Alike start → ((get view).run start).1 = .ok x) :
    ((Reader.field declaring get).run target w).1 = .ok x := by
  rcases World.withShared_view htarget declaring (fun view w => (get view).run w)
    with ⟨view', start, hview', hstart, hrun⟩ | ⟨hnone, -⟩
  · obtain rfl : view = view' := Option.some.inj (hview.symm.trans hview')
    exact hrun.trans (hget start hstart)
  · simp [hview] at hnone

/-- A write of a slot fails and leaves all slots alone, or puts the converted value into that
slot. -/
theorem Writer.run_slot (hbacked : (FieldAccess.perInstance get (some set)).SlotBacked slot type)
    (htarget : w.Settable target) (declaring : TypeHandle) (v : Value) :
    w.Continues ((Writer.field declaring type set).run target v w).2 target ∧
      ((∃ e, ((Writer.field declaring type set).run target v w).1 = .error e) ∧
          (∀ other, Option.Rel Instance.Alike (w.view? target other)
            (((Writer.field declaring type set).run target v w).2.view? target other)) ∨
        ∃ x view content, ((Writer.field declaring type set).run target v w).1 = .ok () ∧
          w.cast v type = .ok x ∧ w.view? target declaring = some view ∧
          w.Replaced ((Writer.field declaring type set).run target v w).2 target declaring
            (view.set slot content) ∧
          (type = .object ∨ x.isCell = false → view.HasSlot slot → ∀ later, w.Alike later →
            ((get (view.set slot content)).run later).1 = .ok x)) := by
  have hsame : w.Continues w target := ⟨⟨rfl, rfl⟩, htarget, rfl⟩
  simp only [Writer.run, World.requireWritable_of_settable htarget]
  cases hcast : w.cast v type with
  | error e => exact ⟨hsame, .inl ⟨⟨e, rfl⟩, fun other => Instance.rel_alike_self _⟩⟩
  | ok x =>
      obtain ⟨hcontinues, ⟨view, start, hview, hstart, hresult, hreplaced⟩ | ⟨hfail, hviews⟩⟩ :=
        World.withExclusive_ends htarget declaring (hbacked.tame x)
      · refine ⟨hcontinues, ?_⟩
        cases hwritten : ((set view x).run start).1.1 with
        | error e =>
            simp only [hbacked.fails rfl hwritten] at hresult hreplaced
            refine .inl ⟨⟨e, hresult⟩, fun other => ?_⟩
            by_cases hother : other = declaring
            · rw [hother, hreplaced.self, hview]
              exact Instance.rel_alike_self _
            · exact hreplaced.others other hother
        | ok result =>
            obtain ⟨content, hrun, hkeeps⟩ := hbacked.keeps rfl hwritten
            simp only [hrun] at hresult hreplaced
            exact .inr ⟨x, view, content, hresult, rfl, hview, hreplaced,
              fun hx hslot later hlater => hkeeps hx hslot later (hstart.symm.trans hlater)⟩
      · exact ⟨hcontinues, .inl ⟨hfail, fun other =>
          hviews other ▸ Instance.rel_alike_self _⟩⟩

end Slots

/-! ### Accessors of fields -/

/-- A type has an instance field at an index. -/
def Registry.InstanceField (reg : Registry) (type : TypeHandle) (index : Nat) : Prop :=
  ∃ field, Resolver.fieldAt reg (.field type index) = some field ∧ field.isStatic = false

/-- A field can be read, and has the same content through a target in two worlds. -/
def Registry.ReadsAlike (reg : Registry) (type : TypeHandle) (index : Nat) (target : Value)
    (w after : World) : Prop :=
  ∃ reader, Reader.ofMember reg (.field type index) = .ok reader ∧
    (reader.run target after).1 = (reader.run target w).1

section Fields

variable {reg : Registry} {type declaring : TypeHandle} {index : Nat} {field : FieldInfo}
  {w after : World} {target : Value}

/-- An instance field has code that reads it. -/
theorem FieldInfo.access_of_not_static (h : field.isStatic = false) :
    ∃ get set, field.access = .perInstance get set := by
  unfold isStatic at h
  split at h
  · next get set haccess => exact ⟨get, set, haccess⟩
  · simp at h

/-- The prepared read of an instance field. -/
theorem Reader.ofMember_field {get : Instance → Code (Except InvokeError Value)}
    {set : Option (Instance → Value → Code (Except InvokeError Unit × Instance))}
    (hfield : Resolver.fieldAt reg (.field type index) = some field)
    (haccess : field.access = .perInstance get set) :
    Reader.ofMember reg (.field type index) = .ok (.field type get) := by
  obtain ⟨info, hinfo, hat⟩ := Option.bind_eq_some_iff.mp hfield
  simp [Reader.ofMember, Registry.info, hinfo, hat, haccess, bind, Except.bind, pure, Except.pure]

/-- The prepared write of an instance field. -/
theorem Writer.ofMember_field {get : Instance → Code (Except InvokeError Value)}
    {set : Option (Instance → Value → Code (Except InvokeError Unit × Instance))} {writer : Writer}
    (hfield : Resolver.fieldAt reg (.field type index) = some field)
    (haccess : field.access = .perInstance get set)
    (h : Writer.ofMember reg (.field type index) = .ok writer) :
    ∃ write, set = some write ∧ writer = .field type field.type write := by
  obtain ⟨info, hinfo, hat⟩ := Option.bind_eq_some_iff.mp hfield
  cases set with
  | none =>
      simp [Writer.ofMember, Registry.info, hinfo, hat, haccess, bind, Except.bind, throw, throwThe,
        MonadExceptOf.throw] at h
  | some write =>
      refine ⟨write, rfl, ?_⟩
      simpa [Writer.ofMember, Registry.info, hinfo, hat, haccess, bind, Except.bind, pure,
        Except.pure, eq_comm] using h

/-- A slot-backed field reads alike through a target whose storage has the same content in that
slot. -/
theorem Registry.Slotted.readsAlike {slots : Nat → String} (hslotted : reg.Slotted slots type)
    (hfield : Resolver.fieldAt reg (.field type index) = some field)
    (hinstance : field.isStatic = false) (htarget : w.Settable target)
    (hafter : w.Continues after target)
    (hviews : Option.Rel (Instance.SameAt (slots index)) (w.view? target type)
      (after.view? target type)) : reg.ReadsAlike type index target w after := by
  obtain ⟨get, set, haccess⟩ := FieldInfo.access_of_not_static hinstance
  exact ⟨_, Reader.ofMember_field hfield haccess,
    Reader.run_slot_congr (haccess ▸ hslotted.backed hfield hinstance) htarget hafter hviews⟩

/-- Two accessors that were compiled for one instance field hold the two halves of its code. -/
theorem Access.field_of_compile {name : String} {flags : Flags} {getter : Prepared Reader}
    {setter : Prepared Writer} {n m : Nat}
    (hgetter : Compiler.getter.compile reg (.field type name .read flags) = (.ok getter, n))
    (hsetter : Compiler.setter.compile reg (.field type name .write flags) = (.ok setter, m))
    (hread : getter.signature.resolution.map (·.member) = some (.field declaring index))
    (hwrite : setter.signature.resolution.map (·.member) = some (.field declaring index))
    (hfield : Resolver.fieldAt reg (.field declaring index) = some field)
    (hinstance : field.isStatic = false) :
    ∃ get set, field.access = .perInstance get (some set) ∧
      getter.action = .field declaring get ∧ setter.action = .field declaring field.type set := by
  obtain ⟨get, set?, haccess⟩ := FieldInfo.access_of_not_static hinstance
  have hreader : Reader.ofMember reg (.field declaring index) = .ok getter.action :=
    Compiler.prepare_of_compile hgetter hread
  have hwriter : Writer.ofMember reg (.field declaring index) = .ok setter.action :=
    Compiler.prepare_of_compile hsetter hwrite
  obtain ⟨set, rfl, hset⟩ := Writer.ofMember_field hfield haccess hwriter
  exact ⟨get, set, haccess,
    Except.ok.inj (hreader.symm.trans (Reader.ofMember_field hfield haccess)), hset⟩

/-- A field that is backed by a slot, read and written by two accessors that were compiled for the
same name, through an object that no one holds or a value type in a cell, whose storage has that
slot, with a value that is not inside two cells:

* after a write that succeeded, the read gives the value as it was converted to the type of the
  field, and every other slot-backed field of the target, on whatever type it is declared, reads as
  before;
* after a write that failed, every slot-backed field of the target reads as before. -/
theorem Access.set_get {slotOf : TypeHandle → Nat → String} {name : String} {flags : Flags}
    {getter : Prepared Reader} {setter : Prepared Writer} {n m : Nat} {v : Value}
    (hgetter : Compiler.getter.compile reg (.field type name .read flags) = (.ok getter, n))
    (hsetter : Compiler.setter.compile reg (.field type name .write flags) = (.ok setter, m))
    (hread : getter.signature.resolution.map (·.member) = some (.field declaring index))
    (hwrite : setter.signature.resolution.map (·.member) = some (.field declaring index))
    (hfield : Resolver.fieldAt reg (.field declaring index) = some field)
    (hinstance : field.isStatic = false) (hslotted : reg.Slotted (slotOf declaring) declaring)
    (htarget : w.Settable target)
    (hslot : ∀ view, w.view? target declaring = some view →
      view.HasSlot (slotOf declaring index))
    (hv : (w.opened v).isCell = false) :
    ((setter.action.run target v w).1 = .ok () →
      (∃ x, w.cast v field.type = .ok x ∧
        (getter.action.run target (setter.action.run target v w).2).1 = .ok x) ∧
      ∀ other place, (other, place) ≠ (declaring, index) → reg.Slotted (slotOf other) other →
        reg.InstanceField other place →
        reg.ReadsAlike other place target w (setter.action.run target v w).2) ∧
    ∀ e, (setter.action.run target v w).1 = .error e →
      ∀ other place, reg.Slotted (slotOf other) other → reg.InstanceField other place →
        reg.ReadsAlike other place target w (setter.action.run target v w).2 := by
  obtain ⟨get, set, haccess, hget, hset⟩ := field_of_compile hgetter hsetter hread hwrite hfield
    hinstance
  have hbacked := haccess ▸ hslotted.backed hfield hinstance
  rw [hget, hset]
  obtain ⟨hcontinues, ⟨⟨e, hfail⟩, hviews⟩ |
      ⟨x, view, content, hdone, hcast, hview, hreplaced, hkeeps⟩⟩ :=
    Writer.run_slot hbacked htarget declaring v
  · refine ⟨fun hdone => by simp [hfail] at hdone, fun _ _ other place hother hplace => ?_⟩
    obtain ⟨otherField, hotherField, hotherInstance⟩ := hplace
    exact hother.readsAlike hotherField hotherInstance htarget hcontinues
      (Instance.rel_sameAt_of_alike (hviews other) _)
  · refine ⟨fun _ => ⟨⟨x, hcast, ?_⟩, fun other place hne hother hplace => ?_⟩,
      fun e hfail => by simp [hdone] at hfail⟩
    · exact Reader.run_view hcontinues.settable hreplaced.self fun start hstart =>
        hkeeps (World.isCell_of_cast hv hcast) (hslot view hview) start
          (hcontinues.alike.trans hstart)
    · obtain ⟨otherField, hotherField, hotherInstance⟩ := hplace
      refine hother.readsAlike hotherField hotherInstance htarget hcontinues
        (hreplaced.rel_sameAt hview fun hdeclaring hsame => hne ?_)
      -- On the declaring type, another field has another slot.
      subst hdeclaring
      rw [hslotted.distinct hotherField hotherInstance hfield hinstance hsame]

end Fields

namespace Access

/-- A type with a text that cannot be written, and a number. -/
def vehicle : TypeHandle × Registry :=
  Registry.initial.declare (.described "Vehicle") <|
    ((Blueprint.reference "Vehicle").withField
      (.readOnlyOfSlot "Vehicle" "Plate" "plate" .string .string)).withField
      (.ofSlot "Vehicle" "Wheels" "wheels" .int32 .int32)

/-- A type that derives from it, with a field for any value. -/
def lorry : TypeHandle × Registry :=
  vehicle.2.declare (.described "Lorry") <|
    ((Blueprint.reference "Lorry").extending "Lorry" vehicle.1).withField
      (.ofSlot "Lorry" "Load" "load" .value .object)

/-- A lorry, and a number in a cell. -/
def garage : World :=
  { World.ofRegistry lorry.2 with
    objects := #[.mk "Lorry" (some (.mk "Vehicle" none [("plate", .value (.string "A 1")),
      ("wheels", .value (.int32 4))])) [("load", .value .null)]]
    cells := #[.int32 6] }

/-- The slots of the fields of both types. -/
def slotOf (type : TypeHandle) (index : Nat) : String :=
  if type = vehicle.1 then ["plate", "wheels"][index]?.getD "" else ["load"][index]?.getD ""

/-- The number of wheels of a lorry is read back as it was written from a cell; its plate and its
load are as before. -/
theorem set_get_lorry :
    ∃ getter setter n m,
      Compiler.getter.compile lorry.2 (.field lorry.1 "Wheels" .read Flags.standard) =
        (.ok getter, n) ∧
      Compiler.setter.compile lorry.2 (.field lorry.1 "Wheels" .write Flags.standard) =
        (.ok setter, m) ∧
      lorry.2.Slotted (slotOf vehicle.1) vehicle.1 ∧ lorry.2.Slotted (slotOf lorry.1) lorry.1 ∧
      garage.Settable (.object ⟨0, lorry.1⟩) ∧ (garage.opened (.cell ⟨0⟩)).isCell = false ∧
      (setter.action.run (.object ⟨0, lorry.1⟩) (.cell ⟨0⟩) garage).1 = .ok () ∧
      (getter.action.run (.object ⟨0, lorry.1⟩)
        (setter.action.run (.object ⟨0, lorry.1⟩) (.cell ⟨0⟩) garage).2).1 = .ok (.int32 6) ∧
      lorry.2.ReadsAlike vehicle.1 0 (.object ⟨0, lorry.1⟩) garage
        (setter.action.run (.object ⟨0, lorry.1⟩) (.cell ⟨0⟩) garage).2 ∧
      lorry.2.ReadsAlike lorry.1 0 (.object ⟨0, lorry.1⟩) garage
        (setter.action.run (.object ⟨0, lorry.1⟩) (.cell ⟨0⟩) garage).2 := by
  obtain ⟨getter, setter, n, m, hgetter, hsetter, hread, hwrite, haction⟩ :
      ∃ getter setter n m,
      Compiler.getter.compile lorry.2 (.field lorry.1 "Wheels" .read Flags.standard) =
        (.ok getter, n) ∧
      Compiler.setter.compile lorry.2 (.field lorry.1 "Wheels" .write Flags.standard) =
        (.ok setter, m) ∧
      getter.signature.resolution.map (·.member) = some (.field vehicle.1 1) ∧
      setter.signature.resolution.map (·.member) = some (.field vehicle.1 1) ∧
      setter.action = .field vehicle.1 .int32
        (FieldInfo.checkedSet "Vehicle" (FieldInfo.setSlot "wheels" .int32)) :=
    ⟨_, _, _, _, rfl, rfl, rfl, rfl, rfl⟩
  have hvehicle : lorry.2.Slotted (slotOf vehicle.1) vehicle.1 :=
    @Registry.slotted_of_slots lorry.2 vehicle.1 _ ["plate", "wheels"] rfl
      (.cons (FieldAccess.slotBacked_readOnlyOfSlot _ _ _ _ _)
        (.cons (FieldAccess.slotBacked_ofSlot _ _ _ rfl (.inr (by decide))) .nil)) (by decide)
  have hlorry : lorry.2.Slotted (slotOf lorry.1) lorry.1 :=
    @Registry.slotted_of_slots lorry.2 lorry.1 _ ["load"] rfl
      (.cons (FieldAccess.slotBacked_ofSlot _ _ _ rfl (.inl rfl)) .nil) (by decide)
  have hfree : garage.Unlocked ⟨0, lorry.1⟩ := ⟨rfl, fun _ => rfl⟩
  have htarget : garage.Settable (.object ⟨0, lorry.1⟩) := .object rfl (by decide) hfree
  have hdone : (setter.action.run (.object ⟨0, lorry.1⟩) (.cell ⟨0⟩) garage).1 = .ok () := by
    obtain ⟨locked, hlock⟩ := World.lock_of_unlocked hfree .exclusive
    have hcast : garage.cast (.cell ⟨0⟩) .int32 = .ok (.int32 6) := rfl
    simp only [haction, Writer.run, World.requireWritable, hcast]
    have hcontent : locked.content (.int32 6) = .int32 6 := World.content_of_not_cell locked rfl
    rw [World.withExclusive_part rfl hlock rfl]
    simp [FieldInfo.checkedSet, Instance.native, FieldInfo.setSlot, Code.run, World.unbox, hcontent]
  have hslot : ∀ view, garage.view? (.object ⟨0, lorry.1⟩) vehicle.1 = some view →
      view.HasSlot (slotOf vehicle.1 1) := by
    intro view hview
    obtain rfl := Option.some.inj hview
    rfl
  obtain ⟨⟨x, hcast, hback⟩, hothers⟩ := (set_get hgetter hsetter hread hwrite rfl rfl hvehicle
    htarget hslot rfl).1 hdone
  obtain rfl := Except.ok.inj hcast
  exact ⟨getter, setter, n, m, hgetter, hsetter, hvehicle, hlorry, htarget, rfl, hdone, hback,
    hothers _ _ (by decide) hvehicle ⟨_, rfl, rfl⟩, hothers _ _ (by decide) hlorry ⟨_, rfl, rfl⟩⟩

end Access

end Introspect
