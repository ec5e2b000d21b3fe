import Introspect.Proofs.Accessor.Places

/-!
# `Introspect.Proofs.Accessor.MappedMembers`: members to copy from and to

`DataMember.GivenBy` says that a member of a source gets a slot, and `DataMember.KeptAt` that a
member of a target gets and sets a place. Fields with the usual code are of both kinds, and so are
properties whose accessors load and store a slot (`DataMember.givenBy_property`,
`DataMember.keptAt_property`).

Writes to a target do not get in the way of either. A source that is apart from the target can be
used as before and reads as before (`DataMember.GivenBy.later`, `DataMember.GivenBy.readsAs_iff`),
and so can every member of the target that is kept at another place than those that were written
(`DataMember.KeptAt.later`, `DataMember.KeptAt.readsAs_iff`).
-/

set_option autoImplicit false

namespace Introspect

/-! ### Members of the source and of the target -/

/-- A member of a value reads as another value. -/
def DataMember.ReadsAs (reg : Registry) (m : DataMember) (target : Value) (w : World) (v : Value) :
    Prop :=
  ∃ handle reader, m.read = some handle ∧ Reader.ofMember reg handle = .ok reader ∧
    (reader.run target w).1 = .ok v

/-- A member of a source is read by some code, which gets one slot of the source. -/
structure DataMember.GivenByCode (reg : Registry) (m : DataMember) (source : Value) (w : World)
    (handle : MemberHandle) (reader : Reader) (code : ReadCode) (slot : String) : Prop where
  handle_eq : m.read = some handle
  reader_eq : Reader.ofMember reg handle = .ok reader
  runs : reader.RunsOn source w code
  gets : code.Gets slot
  /-- a single value is stored there -/
  single : ∀ view, code.view? source w = some view → ∃ v, view.get slot = .value v
  /-- conversion to a type takes a value out of its cell, so a cell is of the root type only -/
  declared : ∀ v, (reader.run source w).1 = .ok v → m.type = .object ∨ v.isCell = false

/-- A member of a source gets one slot. -/
def DataMember.GivenBy (reg : Registry) (m : DataMember) (source : Value) (w : World) : Prop :=
  ∃ handle reader code slot, m.GivenByCode reg source w handle reader code slot

/-- A member of a target is read and written by some code, which gets and sets one place of the
target. -/
structure DataMember.KeptByCode (reg : Registry) (m : DataMember) (target : Value) (w : World)
    (place : Place) (reader : Reader) (writer : Writer) (read : ReadCode) (write : WriteCode) :
    Prop where
  reads : ∃ handle, m.read = some handle ∧ Reader.ofMember reg handle = .ok reader
  writes : ∃ handle, m.write = some handle ∧ Writer.ofMember reg handle = .ok writer
  readRuns : reader.RunsOn target w read
  writeRuns : writer.RunsOn target w write
  readOwner : read.owner = place.owner
  writeOwner : write.owner = place.owner
  gets : read.Reads place.slot
  sets : write.Sets place.slot m.type read
  /-- the slot is there when the storage of the type is -/
  present : ∀ view, w.view? target place.owner = some view → view.HasSlot place.slot

/-- A member of a target gets and sets one place of the target. -/
def DataMember.KeptAt (reg : Registry) (m : DataMember) (target : Value) (w : World)
    (place : Place) : Prop :=
  ∃ reader writer read write, m.KeptByCode reg target w place reader writer read write

section Members

variable {reg : Registry} {m : DataMember} {source target v : Value} {w after : World}
  {handle : MemberHandle} {reader : Reader} {writer : Writer} {code read : ReadCode}
  {write : WriteCode} {slot : String} {place : Place} {places : List Place}

/-- A source that is apart from a target keeps its runtime type. -/
theorem World.Apart.runtimeType_eq (hapart : w.Apart source target)
    (hafter : w.Aside after target) :
    CallPlan.runtimeType after source = CallPlan.runtimeType w source := by
  unfold CallPlan.runtimeType
  rw [hapart.opened_eq hafter]

/-- What a member reads as is what its accessor reads. -/
theorem DataMember.readsAs_iff (hhandle : m.read = some handle)
    (hreader : Reader.ofMember reg handle = .ok reader) :
    m.ReadsAs reg target w v ↔ (reader.run target w).1 = .ok v := by
  constructor
  · rintro ⟨handle', reader', hhandle', hreader', hrun⟩
    obtain rfl : handle = handle' := Option.some.inj (hhandle.symm.trans hhandle')
    obtain rfl : reader = reader' := Except.ok.inj (hreader.symm.trans hreader')
    exact hrun
  · intro hrun
    exact ⟨handle, reader, hhandle, hreader, hrun⟩

/-- Reading a member of a source leaves no trace. -/
theorem DataMember.GivenByCode.undisturbed
    (h : m.GivenByCode reg source w handle reader code slot) (hapart : w.Apart source target) :
    w.Undisturbed (reader.run source w).2 := by
  rw [h.runs.run_eq]
  exact h.gets.undisturbed hapart h.single

/-- A member of a source that is apart from a target gives the same after a change to the target. -/
theorem DataMember.GivenByCode.run_iff (h : m.GivenByCode reg source w handle reader code slot)
    (hapart : w.Apart source target) (hafter : w.Aside after target) :
    (reader.run source after).1 = .ok v ↔ (reader.run source w).1 = .ok v := by
  have hlater := h.runs.later hafter.alike.registry (hapart.runtimeType_eq hafter)
  rw [h.runs.run_eq, hlater.run_eq]
  exact ReadCode.run_source_iff h.gets.reads hapart hafter

/-- A member of a source that is apart from a target reads the same after a change to the target. -/
theorem DataMember.GivenBy.readsAs_iff (h : m.GivenBy reg source w)
    (hapart : w.Apart source target) (hafter : w.Aside after target) :
    m.ReadsAs reg source after v ↔ m.ReadsAs reg source w v := by
  obtain ⟨handle, reader, code, slot, h⟩ := h
  rw [DataMember.readsAs_iff h.handle_eq h.reader_eq,
    DataMember.readsAs_iff h.handle_eq h.reader_eq]
  exact h.run_iff hapart hafter

/-- A member of a source that is apart from a target is still of that kind after a change to the
target. -/
theorem DataMember.GivenBy.later (h : m.GivenBy reg source w) (hapart : w.Apart source target)
    (hafter : w.Aside after target) : m.GivenBy reg source after := by
  obtain ⟨handle, reader, code, slot, h⟩ := h
  refine ⟨handle, reader, code, slot, h.handle_eq, h.reader_eq, ?runs, h.gets, ?single, ?declared⟩
  case runs => exact h.runs.later hafter.alike.registry (hapart.runtimeType_eq hafter)
  case single =>
    -- The storage is the same, so what is stored is.
    intro view hview
    rw [code.view?_eq hapart hafter] at hview
    exact h.single view hview
  case declared =>
    intro v hrun
    exact h.declared v ((h.run_iff hapart hafter).mp hrun)

/-- The codes of a member of a target still keep it at its place after changes to other places. -/
theorem DataMember.KeptByCode.later
    (h : m.KeptByCode reg target w place reader writer read write)
    (hafter : w.Rewritten after target places) (hplace : place ∉ places) :
    m.KeptByCode reg target after place reader writer read write := by
  have hregistry := hafter.aside.alike.registry
  have htype := hafter.aside.runtimeType_eq
  exact { h with
    readRuns := h.readRuns.later hregistry htype
    writeRuns := h.writeRuns.later hregistry htype
    present := World.hasSlot_of_slot? (hafter.slots place hplace) h.present }

/-- A write of a member fails and leaves all places of the target alone, or it changes the place of
the member only, and the member reads as the value. -/
theorem DataMember.KeptByCode.write_cases
    (h : m.KeptByCode reg target w place reader writer read write) (htarget : w.Settable target)
    (hv : m.type = .object ∨ v.isCell = false) :
    (∃ e, (writer.run target v w).1 = .error e ∧
        w.Rewritten (writer.run target v w).2 target []) ∨
      (writer.run target v w).1 = .ok () ∧
        w.Rewritten (writer.run target v w).2 target [place] ∧
        m.ReadsAs reg target (writer.run target v w).2 v := by
  have hwriteOwner := h.writeOwner
  -- A settable target is no value type outside of a cell, which a writer would refuse.
  have hrun : writer.run target v w = write.run target v w :=
    h.writeRuns.run_eq (World.requireWritable_of_settable htarget) v
  rw [hrun]
  rcases WriteCode.run_cases h.sets (h.readOwner.trans hwriteOwner.symm) htarget
    (by rw [hwriteOwner]; exact h.present) hv with hfail | ⟨hdone, hwritten, hback⟩
  · exact .inl hfail
  · rw [hwriteOwner] at hwritten
    obtain ⟨handle, hhandle, hreader⟩ := h.reads
    have hlater := h.readRuns.later hwritten.aside.alike.registry hwritten.aside.runtimeType_eq
    refine .inr ⟨hdone, hwritten, ?_⟩
    rw [DataMember.readsAs_iff hhandle hreader, hlater.run_eq]
    exact hback

/-- A member of a target is still kept at its place after changes to other places. -/
theorem DataMember.KeptAt.later (h : m.KeptAt reg target w place)
    (hafter : w.Rewritten after target places) (hplace : place ∉ places) :
    m.KeptAt reg target after place := by
  obtain ⟨reader, writer, read, write, h⟩ := h
  exact ⟨reader, writer, read, write, h.later hafter hplace⟩

/-- A member of a target reads the same after changes to other places, whatever was written
before. -/
theorem DataMember.KeptAt.readsAs_iff {last : World} (h : m.KeptAt reg target w place)
    (haside : w.Aside after target) (htarget : after.Settable target)
    (hlast : after.Rewritten last target places) (hplace : place ∉ places) :
    m.ReadsAs reg target last v ↔ m.ReadsAs reg target after v := by
  obtain ⟨reader, writer, read, write, h⟩ := h
  obtain ⟨handle, hhandle, hreader⟩ := h.reads
  have hruns := h.readRuns.later haside.alike.registry haside.runtimeType_eq
  have hlater := hruns.later hlast.aside.alike.registry hlast.aside.runtimeType_eq
  rw [DataMember.readsAs_iff hhandle hreader, DataMember.readsAs_iff hhandle hreader,
    hruns.run_eq, hlater.run_eq,
    ReadCode.run_congr h.gets htarget hlast (h.readOwner ▸ hplace)]

end Members

/-! ### The usual members -/

section Usual

variable {reg : Registry} {m : DataMember} {source target : Value} {w : World}
  {declaring on onto : TypeHandle} {index setIndex : Nat} {named other : Option Nat}
  {field : FieldInfo} {info : TypeInfo} {slot native getName setName : String}
  {stored : NativeType} {get : Instance → Code (Except InvokeError Value)}
  {set : Instance → Value → Code (Except InvokeError Unit × Instance)}
  {set? : Option (Instance → Value → Code (Except InvokeError Unit × Instance))}

/-- A field whose code gets a slot makes a member of a source. -/
theorem DataMember.givenBy_field
    (hfield : Resolver.fieldAt reg (.field declaring index) = some field)
    (haccess : field.access = .perInstance get set?)
    (hread : m.read = some (.field declaring index))
    (hgets : (ReadCode.ofField declaring get).Gets slot)
    (hsingle : ∀ view, (ReadCode.ofField declaring get).view? source w = some view →
      ∃ v, view.get slot = .value v)
    (hdeclared : ∀ v, m.ReadsAs reg source w v → m.type = .object ∨ v.isCell = false) :
    m.GivenBy reg source w := by
  have hreader := Reader.ofMember_field hfield haccess
  exact ⟨_, _, _, slot, hread, hreader, .field, hgets, hsingle,
    fun v hrun => hdeclared v ⟨_, _, hread, hreader, hrun⟩⟩

/-- A property whose getter loads a slot makes a member of a source. -/
theorem DataMember.givenBy_property (hinfo : reg.get declaring = some info)
    (hget : info.methods[index]? = some (.slotGetter native getName slot m.type))
    (hread : m.read = some (.property on named ⟨declaring, index⟩))
    (hsingle : ∀ view, w.view? source declaring = some view → ∃ v, view.get slot = .value v)
    (hdeclared : ∀ v, m.ReadsAs reg source w v → m.type = .object ∨ v.isCell = false) :
    m.GivenBy reg source w := by
  obtain ⟨reader, hreader, hruns⟩ := Reader.ofMember_slotGetter hinfo hget
  exact ⟨_, reader, _, slot, hread, hreader, hruns source w,
    ReadCode.gets_slotGetter declaring m.type native getName slot [], hsingle,
    fun v hrun => hdeclared v ⟨_, _, hread, hreader, hrun⟩⟩

/-- A field that is backed by a slot makes a member of a target. -/
theorem DataMember.keptAt_field
    (hfield : Resolver.fieldAt reg (.field declaring index) = some field)
    (haccess : field.access = .perInstance get (some set))
    (hread : m.read = some (.field declaring index))
    (hwrite : m.write = some (.field declaring index)) (htype : m.type = field.type)
    (hbacked : field.access.SlotBacked slot m.type)
    (hslot : ∀ view, w.view? target declaring = some view → view.HasSlot slot) :
    m.KeptAt reg target w ⟨declaring, slot⟩ := by
  rw [haccess] at hbacked
  have hwriter : Writer.ofMember reg (.field declaring index) =
      .ok (.field declaring m.type set) := by
    obtain ⟨info, hinfo, hat⟩ := Option.bind_eq_some_iff.mp hfield
    simp [Writer.ofMember, Registry.info, hinfo, hat, haccess, htype, bind, Except.bind, pure,
      Except.pure]
  exact ⟨_, _, _, _,
    { reads := ⟨_, hread, Reader.ofMember_field hfield haccess⟩
      writes := ⟨_, hwrite, hwriter⟩
      readRuns := .field
      writeRuns := .field
      readOwner := rfl
      writeOwner := rfl
      gets := ReadCode.reads_ofField declaring hbacked
      sets := WriteCode.sets_ofField declaring hbacked
      present := hslot }⟩

/-- A property whose accessors load and store a slot makes a member of a target. -/
theorem DataMember.keptAt_property (hinfo : reg.get declaring = some info)
    (hget : info.methods[index]? = some (.slotGetter native getName slot m.type))
    (hset : info.methods[setIndex]? = some (.slotSetter native setName slot stored m.type))
    (hread : m.read = some (.property on named ⟨declaring, index⟩))
    (hwrite : m.write = some (.property onto other ⟨declaring, setIndex⟩))
    (hkeeps : stored.keepsValue = true) (htype : stored = .value ∨ m.type ≠ .object)
    (hslot : ∀ view, w.view? target declaring = some view → view.HasSlot slot) :
    m.KeptAt reg target w ⟨declaring, slot⟩ := by
  obtain ⟨reader, hreader, hreads⟩ := Reader.ofMember_slotGetter hinfo hget
  obtain ⟨writer, hwriter, hwrites⟩ := Writer.ofMember_slotSetter hinfo hset
  exact ⟨reader, writer, _, _,
    { reads := ⟨_, hread, hreader⟩
      writes := ⟨_, hwrite, hwriter⟩
      readRuns := hreads target w
      writeRuns := hwrites target w
      readOwner := rfl
      writeOwner := rfl
      gets := (ReadCode.gets_slotGetter declaring m.type native getName slot []).reads
      sets := WriteCode.sets_slotSetter declaring native getName setName slot hkeeps htype []
      present := hslot }⟩

end Usual

end Introspect
