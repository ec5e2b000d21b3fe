import Introspect.Proofs.Accessor.Aside
import Introspect.Proofs.Accessor.MemberCode

/-!
# `Introspect.Proofs.Accessor.Places`: members that are kept in a slot

`ReadCode.Gets` and `WriteCode.Sets` are what to expect of a member that gets and sets one slot. The
usual fields are of that kind (`ReadCode.gets_getSlot`, `WriteCode.sets_ofField`), and so are the
properties whose accessors load and store a slot (`ReadCode.gets_slotGetter`,
`WriteCode.sets_slotSetter`). As for `FieldAccess.SlotBacked`, a slot that holds a list is not: each
read makes a new array of it.

`World.Rewritten` lists the places in a target that have changed between two worlds. A write of such
a member changes its own place or fails (`WriteCode.run_cases`), and a read of one gives the same as
before unless its place is in the list (`ReadCode.run_congr`). A read of a source that is apart from
the target is not affected at all (`ReadCode.run_source_iff`).
-/

set_option autoImplicit false

namespace Introspect

/-! ### Members that are kept in a slot -/

/-- The result of a read depends on one slot, and on what boxing depends on. -/
def ReadCode.Reads (code : ReadCode) (slot : String) : Prop :=
  ∀ {data other : Instance} {w later : World}, data.SameAt slot other → w.Alike later →
    (code.body other later).1.1 = (code.body data w).1.1

/-- A read gets one slot, and changes nothing when a single value is stored there. -/
structure ReadCode.Gets (code : ReadCode) (slot : String) : Prop where
  reads : code.Reads slot
  leaves : ∀ {view : Instance} {v : Value}, view.get slot = .value v → ∀ w, code.Leaves view w

/-- A write of values of a type sets one slot or fails without a change, and a read of the member
gives what was accepted last, if that is a value that the type lets through. -/
structure WriteCode.Sets (write : WriteCode) (slot : String) (type : TypeHandle)
    (read : ReadCode) : Prop where
  /-- a member of the root type takes a value as it is -/
  accepts : type = .object → write.accepts = .object
  fails : ∀ {v view w e}, (write.body v view w).1.1 = .error e →
    write.body v view w = ((.error e, view), w)
  keeps : ∀ {v view w}, (write.body v view w).1.1 = .ok () → ∃ content,
    write.body v view w = ((.ok (), view.set slot content), w) ∧
      (type = .object ∨ v.isCell = false → view.HasSlot slot → ∀ later, w.Alike later →
        (read.body (view.set slot content) later).1.1 = .ok v)

section Slots

variable {slot native name : String} {stored : NativeType} {declaring type : TypeHandle}
  {get : Instance → Code (Except InvokeError Value)}
  {set : Instance → Value → Code (Except InvokeError Unit × Instance)}
  {set? : Option (Instance → Value → Code (Except InvokeError Unit × Instance))}

/-- The read of a field that is backed by a slot reads that slot. -/
theorem ReadCode.reads_ofField (declaring : TypeHandle)
    (hbacked : (FieldAccess.perInstance get set?).SlotBacked slot type) :
    (ReadCode.ofField declaring get).Reads slot :=
  fun hsame halike => hbacked.reads rfl hsame halike

/-- The write of a field that is backed by a slot sets that slot. -/
theorem WriteCode.sets_ofField (declaring : TypeHandle)
    (hbacked : (FieldAccess.perInstance get (some set)).SlotBacked slot type) :
    (WriteCode.ofField declaring type set).Sets slot type (.ofField declaring get) where
  accepts := id
  fails := hbacked.fails rfl
  keeps := by
    intro v view w hdone
    obtain ⟨content, hrun, hkeeps⟩ := hbacked.keeps rfl hdone
    exact ⟨content, hrun, hkeeps⟩

/-- The usual read of a field gets its slot. -/
theorem ReadCode.gets_getSlot (declaring : TypeHandle) (native slot : String)
    (stored : NativeType) :
    (ReadCode.ofField declaring
      (FieldInfo.checkedGet native (FieldInfo.getSlot slot stored))).Gets slot := by
  constructor
  · intro data other w later hsame halike
    exact FieldAccess.checkedGet_getSlot_congr hsame halike
  · intro view v hslot w
    -- A single value is its own boxed form, so nothing is allocated.
    refine ⟨rfl, ?_⟩
    show ((FieldInfo.checkedGet native (FieldInfo.getSlot slot stored) view).run w).2 = w
    unfold FieldInfo.checkedGet
    split
    · simp [FieldInfo.getSlot, hslot, Code.bind, Code.run, World.box]
    · rfl

/-- What is stored of a value that the type of the member lets through is that value. -/
theorem World.unbox_kept {w : World} {v : Value} {content : Datum}
    (hkeeps : stored.keepsValue = true) (htype : stored = .value ∨ type ≠ .object)
    (hv : type = .object ∨ v.isCell = false) (h : w.unbox stored v = .ok content) :
    content = .value v := by
  rcases htype with rfl | htype
  · simpa [World.unbox, eq_comm] using h
  · exact World.unbox_eq_value hkeeps (hv.resolve_left htype) h

/-- The body of a getter that loads a slot. -/
theorem toOutcome_slotValue (slot : String) (view : Instance) (args : List Value)
    (typeArgs : List TypeHandle) :
    (MemberM.slotValue slot).toOutcome view args typeArgs =
      .done ⟨.ok (view.get slot).asValue, view, args⟩ := rfl

/-- The body of a setter that stores its argument in a slot. -/
theorem run_setSlotFrom (slot : String) (stored : NativeType) (v : Value) (view : Instance)
    (typeArgs : List TypeHandle) (w : World) :
    ((do MemberM.setSlotFrom slot stored (← Blueprint.takeFirst); return Value.null
        : MemberM Value).toOutcome view [v] typeArgs).run w =
      match w.unbox stored v with
      | .ok content => (⟨.ok .null, view.set slot content, [.null]⟩, w)
      | .error e => (⟨.error e, view, [.null]⟩, w) := by
  obtain ⟨next, hcode, hok, herror⟩ : ∃ next,
      (do MemberM.setSlotFrom slot stored (← Blueprint.takeFirst); return Value.null
        : MemberM Value).toOutcome view [v] typeArgs = .unbox stored v next ∧
      (∀ content, next (.ok content) = .done ⟨.ok .null, view.set slot content, [.null]⟩) ∧
      ∀ e, next (.error e) = .done ⟨.error e, view, [.null]⟩ :=
    ⟨_, rfl, fun _ => rfl, fun _ => rfl⟩
  rw [hcode, Code.run]
  cases w.unbox stored v with
  | ok content =>
      rw [hok]
      rfl
  | error e =>
      rw [herror]
      rfl

/-- The getter of a property that loads a slot. -/
def MethodInfo.slotGetter (native name slot : String) (type : TypeHandle) : MethodInfo :=
  .changing native name [] type (MemberM.slotValue slot)

/-- The setter of a property that stores its argument in a slot. -/
def MethodInfo.slotSetter (native name slot : String) (stored : NativeType) (type : TypeHandle) :
    MethodInfo :=
  .changing native name [.byValue "value" type] .void do
    MemberM.setSlotFrom slot stored (← Blueprint.takeFirst)
    return .null

/-- What a getter that loads a slot runs. -/
def Callee.slotGetter (owner : TypeHandle) (native name slot : String) (type : TypeHandle) :
    Callee :=
  ⟨owner, (MethodInfo.slotGetter native name slot type).body, true⟩

/-- What a setter that stores its argument in a slot runs. -/
def Callee.slotSetter (owner : TypeHandle) (native name slot : String) (stored : NativeType)
    (type : TypeHandle) : Callee :=
  ⟨owner, (MethodInfo.slotSetter native name slot stored type).body, true⟩

/-- What a getter that loads a slot does. -/
theorem ReadCode.body_slotGetter (owner type : TypeHandle) (native name slot : String)
    (typeArgs : List TypeHandle) (view : Instance) (w : World) :
    (ReadCode.ofCallee (.slotGetter owner native name slot type) typeArgs).body view w =
      ((if view.native = native then .ok (view.get slot).asValue
        else .error (.foreignInstance native), view), w) := by
  by_cases hnative : view.native = native
  · simp [ofCallee, Callee.slotGetter, MethodInfo.slotGetter, Callee.runBody, Callee.receiver,
      MethodInfo.changing, MethodInfo.ofBody, hnative, toOutcome_slotValue, Code.run]
  · simp [ofCallee, Callee.slotGetter, MethodInfo.slotGetter, Callee.runBody, Callee.receiver,
      MethodInfo.changing, MethodInfo.ofBody, hnative, MethodInfo.refuse, Receiver.view, Code.run]

/-- What a setter that stores its argument in a slot does. -/
theorem WriteCode.body_slotSetter (owner type : TypeHandle) (native name slot : String)
    (stored : NativeType) (typeArgs : List TypeHandle) (v : Value) (view : Instance) (w : World) :
    (WriteCode.ofCallee (.slotSetter owner native name slot stored type) typeArgs type).body v view
        w =
      if view.native = native then
        match w.unbox stored v with
        | .ok content => ((.ok (), view.set slot content), w)
        | .error e => ((.error e, view), w)
      else ((.error (.foreignInstance native), view), w) := by
  by_cases hnative : view.native = native
  · simp only [ofCallee, Callee.slotSetter, MethodInfo.slotSetter, Callee.runBody,
      MethodInfo.changing, MethodInfo.ofBody, hnative, if_true, run_setSlotFrom]
    cases w.unbox stored v <;> rfl
  · simp [ofCallee, Callee.slotSetter, MethodInfo.slotSetter, Callee.runBody, MethodInfo.changing,
      MethodInfo.ofBody, hnative, MethodInfo.refuse, Receiver.view, Code.run, Except.map]

/-- A getter that loads a slot gets that slot. -/
theorem ReadCode.gets_slotGetter (owner type : TypeHandle) (native name slot : String)
    (typeArgs : List TypeHandle) :
    (ReadCode.ofCallee (.slotGetter owner native name slot type) typeArgs).Gets slot := by
  constructor
  · intro data other w later hsame _
    rw [body_slotGetter, body_slotGetter, hsame.native, hsame.content]
  · intro view v _ w
    rw [Leaves, body_slotGetter]
    exact ⟨rfl, rfl⟩

/-- A setter that stores its argument in a slot sets that slot, if single values are kept there, and
a getter that loads the slot gives it back. -/
theorem WriteCode.sets_slotSetter (owner : TypeHandle) (native getName setName slot : String)
    {stored : NativeType} {type : TypeHandle} (hkeeps : stored.keepsValue = true)
    (htype : stored = .value ∨ type ≠ .object) (typeArgs : List TypeHandle) :
    (WriteCode.ofCallee (.slotSetter owner native setName slot stored type) typeArgs type).Sets slot
      type (.ofCallee (.slotGetter owner native getName slot type) typeArgs) := by
  refine ⟨id, ?_, ?_⟩
  · intro v view w e hfail
    rw [body_slotSetter] at hfail ⊢
    split
    · next hnative =>
        rw [if_pos hnative] at hfail
        cases hunbox : w.unbox stored v with
        | ok content => simp [hunbox] at hfail
        | error e' =>
            obtain rfl : e' = e := by simpa [hunbox] using hfail
            rfl
    · next hnative =>
        obtain rfl : _ = e := by simpa [hnative] using hfail
        rfl
  · intro v view w hdone
    rw [body_slotSetter] at hdone ⊢
    by_cases hnative : view.native = native
    · rw [if_pos hnative] at hdone ⊢
      cases hunbox : w.unbox stored v with
      | error e => simp [hunbox] at hdone
      | ok content =>
          refine ⟨content, rfl, fun hv hslot later _ => ?_⟩
          have hcontent : content = .value v := World.unbox_kept hkeeps htype hv hunbox
          rw [ReadCode.body_slotGetter, Instance.native_set, if_pos hnative,
            Instance.get_set_self hslot, hcontent]
          rfl
    · simp [hnative] at hdone

variable {reg : Registry} {info : TypeInfo} {index : Nat} {named : Option Nat} {on : TypeHandle}

/-- The prepared read of a property whose getter loads a slot. -/
theorem Reader.ofMember_slotGetter (hinfo : reg.get declaring = some info)
    (hget : info.methods[index]? = some (.slotGetter native name slot type)) :
    ∃ reader, Reader.ofMember reg (.property on named ⟨declaring, index⟩) = .ok reader ∧
      ∀ target w,
        reader.RunsOn target w (.ofCallee (.slotGetter declaring native name slot type) []) := by
  simp only [Reader.ofMember, CallPlan.ofMethod, Registry.info, hinfo, hget, bind, Except.bind]
  have hdirect : Dispatch.direct ≠ .static := by decide
  exact ⟨_, rfl, fun target w => .call hdirect rfl rfl⟩

/-- The prepared write of a property whose setter stores its argument in a slot. -/
theorem Writer.ofMember_slotSetter (hinfo : reg.get declaring = some info)
    (hset : info.methods[index]? = some (.slotSetter native name slot stored type)) :
    ∃ writer, Writer.ofMember reg (.property on named ⟨declaring, index⟩) = .ok writer ∧
      ∀ target w, writer.RunsOn target w
        (.ofCallee (.slotSetter declaring native name slot stored type) [] type) := by
  simp only [Writer.ofMember, CallPlan.ofMethod, Registry.info, hinfo, hset, bind, Except.bind]
  have hdirect : Dispatch.direct ≠ .static := by decide
  exact ⟨_, rfl, fun target w => .call hdirect rfl rfl rfl⟩

end Slots

/-! ### Places in a target -/

/-- A slot of the storage that belongs to a type. -/
structure Place where
  owner : TypeHandle
  slot : String
  deriving DecidableEq

namespace World

variable {w after last : World} {target v x : Value} {type : TypeHandle} {place : Place}
  {places more : List Place} {view : Instance} {slot : String} {content : Datum}

/-- What lies in a place of a target: the native type of the storage, and what the slot holds. -/
def slot? (w : World) (target : Value) (place : Place) : Option (String × Option Datum) :=
  (w.view? target place.owner).map fun view => (view.native, view.slots.lookup place.slot)

/-- Two worlds in which a target differs in some places at most, and in which nothing else
differs. -/
structure Rewritten (w after : World) (target : Value) (places : List Place) : Prop where
  continues : w.Continues after target
  aside : w.Aside after target
  slots : ∀ place, place ∉ places → after.slot? target place = w.slot? target place

/-- Nothing was written in the same world. -/
theorem Rewritten.refl (h : w.Settable target) : w.Rewritten w target [] :=
  ⟨⟨⟨rfl, rfl⟩, h, rfl⟩, .refl w target, fun _ _ => rfl⟩

/-- What was written by one list of writes after another. -/
theorem Rewritten.trans (h : w.Rewritten after target places)
    (h' : after.Rewritten last target more) : w.Rewritten last target (places ++ more) := by
  constructor
  · exact ⟨h.continues.alike.trans h'.continues.alike, h'.continues.settable,
      h'.continues.type.trans h.continues.type⟩
  · exact h.aside.trans h'.aside
  · intro place hplace
    rw [List.mem_append, not_or] at hplace
    exact (h'.slots place hplace.2).trans (h.slots place hplace.1)

/-- Storage with the same slots has the same in each place. -/
theorem slot?_of_alike
    (h : Option.Rel Instance.Alike (w.view? target place.owner) (after.view? target place.owner)) :
    after.slot? target place = w.slot? target place := by
  unfold slot?
  revert h
  generalize w.view? target place.owner = view
  generalize after.view? target place.owner = view'
  rintro (⟨⟨hnative, hslots⟩⟩ | _)
  · simp only [Option.map_some, hnative, hslots]
  · rfl

/-- Storage that is the same in a place has the same content in that slot. -/
theorem rel_sameAt_of_slot? (h : after.slot? target place = w.slot? target place) :
    Option.Rel (Instance.SameAt place.slot) (w.view? target place.owner)
      (after.view? target place.owner) := by
  unfold slot? at h
  revert h
  cases w.view? target place.owner with
  | none =>
      cases after.view? target place.owner with
      | none => exact fun _ => .none
      | some view' => simp
  | some view =>
      cases after.view? target place.owner with
      | none => simp
      | some view' =>
          intro h
          obtain ⟨hnative, hlookup⟩ : view'.native = view.native ∧
              view'.slots.lookup place.slot = view.slots.lookup place.slot := by simpa using h
          exact .some ⟨hnative, by rw [Instance.get, Instance.get, hlookup]⟩

/-- A place that is the same has a slot if it had one. -/
theorem hasSlot_of_slot? (h : after.slot? target place = w.slot? target place)
    (hslot : ∀ view, w.view? target place.owner = some view → view.HasSlot place.slot) :
    ∀ view, after.view? target place.owner = some view → view.HasSlot place.slot := by
  intro view' hview'
  unfold slot? at h
  rw [hview'] at h
  cases hview : w.view? target place.owner with
  | none => simp [hview] at h
  | some view =>
      have hlookup : view'.slots.lookup place.slot = view.slots.lookup place.slot := by
        simp only [hview, Option.map_some, Option.some.injEq, Prod.mk.injEq] at h
        exact h.2
      rw [Instance.HasSlot, hlookup]
      exact hslot view hview

/-- When one slot was set, the other places are the same. -/
theorem Replaced.slot?_eq (h : w.Replaced after target type (view.set slot content))
    (hview : w.view? target type = some view) (hplace : place ≠ ⟨type, slot⟩) :
    after.slot? target place = w.slot? target place := by
  by_cases howner : place.owner = type
  · have hslot : place.slot ≠ slot := by
      intro hslot
      exact hplace (by cases place; simp_all)
    unfold slot?
    rw [howner, hview, h.self, Option.map_some, Option.map_some, Instance.native_set,
      Instance.slots_set, Instance.lookup_setIn_of_ne hslot]
  · exact slot?_of_alike (h.others place.owner howner)

/-- A value that a type lets through is converted to itself. -/
theorem cast_eq_self (hv : type = .object ∨ v.isCell = false) (h : w.cast v type = .ok x) :
    x = v := by
  by_cases htype : type = .object
  · simpa [cast, htype, eq_comm] using h
  · obtain ⟨rfl, -⟩ := (cast_eq_ok_iff htype).mp h
    exact opened_of_not_cell w (hv.resolve_left htype)

/-- A target that is changed keeps its runtime type. -/
theorem Aside.runtimeType_eq (h : w.Aside after target) :
    CallPlan.runtimeType after target = CallPlan.runtimeType w target := by
  unfold CallPlan.runtimeType
  split
  · next object hobject => rw [(h.held object).mp hobject]
  · next hnone =>
      split
      · next object hobject => exact absurd ((h.held object).mpr hobject) (hnone object)
      · rfl

/-- With the same locks held, the same can be done with a target. -/
theorem Undisturbed.rewritten (h : Undisturbed w after) (htarget : w.Settable target) :
    w.Rewritten after target [] := by
  have hcontinues : w.Continues after target := by
    cases htarget with
    | object hobject hin hfree => exact h.continues hobject hin hfree
    | boxed hcell hcontent =>
        refine ⟨?_, .boxed hcell (by rw [h.same]; exact hcontent), ?_⟩
        · rw [h.same]
          exact ⟨rfl, rfl⟩
        · rw [h.opened_eq]
  refine ⟨hcontinues, h.aside target, fun place _ => ?_⟩
  rw [slot?, slot?, h.view?_eq]

end World

/-! ### Running reads and writes of places -/

section Places

variable {w after : World} {source target v : Value} {type : TypeHandle} {slot : String}
  {read : ReadCode} {write : WriteCode} {places : List Place}

/-- A read has the same result as before, unless its place was written. -/
theorem ReadCode.run_congr (hreads : read.Reads slot) (htarget : w.Settable target)
    (hafter : w.Rewritten after target places) (hplace : ⟨read.owner, slot⟩ ∉ places) :
    (read.run target after).1 = (read.run target w).1 := by
  have hviews := World.rel_sameAt_of_slot? (hafter.slots ⟨read.owner, slot⟩ hplace)
  rcases run_ends_settable read htarget with
      ⟨view, start, hview, hstart, hrun, -⟩ | ⟨hnone, -, -⟩ <;>
    rcases run_ends_settable read hafter.continues.settable with
      ⟨view', start', hview', hstart', hrun', -⟩ | ⟨hnone', -, -⟩
  · rw [hview, hview'] at hviews
    obtain ⟨hsame⟩ := hviews
    rw [hrun, hrun']
    exact hreads hsame ((hstart.symm.trans hafter.continues.alike).trans hstart')
  · rw [hview, hnone'] at hviews
    nomatch hviews
  · rw [hnone, hview'] at hviews
    nomatch hviews
  · obtain ⟨actual, hactual, hrun⟩ := run_of_view?_eq_none htarget hnone
    obtain ⟨actual', hactual', hrun'⟩ := run_of_view?_eq_none hafter.continues.settable hnone'
    obtain rfl : actual = actual' :=
      Option.some.inj ((hactual.symm.trans hafter.continues.type.symm).trans hactual')
    rw [hrun, hrun']
    simp only [World.notAnInstance, Registry.nameOf, hafter.continues.alike.registry]

/-- A read gives what its code finds in the storage of the target. -/
theorem ReadCode.run_view {view : Instance} (htarget : w.Settable target)
    (hview : w.view? target read.owner = some view)
    (hbody : ∀ start, w.Alike start → (read.body view start).1.1 = .ok v) :
    (read.run target w).1 = .ok v := by
  rcases run_ends_settable read htarget with ⟨view', start, hview', hstart, hrun, -⟩ | ⟨hnone, -, -⟩
  · obtain rfl : view = view' := Option.some.inj (hview.symm.trans hview')
    exact hrun.trans (hbody start hstart)
  · simp [hview] at hnone

/-- A write that sets a slot touches nothing else. -/
theorem WriteCode.Sets.tame (h : write.Sets slot type read) (v : Value) :
    World.Tame (write.body v) := by
  have hcases : ∀ view start,
      (∃ e, write.body v view start = ((.error e, view), start)) ∨
        ∃ content, write.body v view start = ((.ok (), view.set slot content), start) := by
    intro view start
    cases hresult : (write.body v view start).1.1 with
    | error e => exact .inl ⟨e, h.fails hresult⟩
    | ok result =>
        obtain ⟨content, hrun, -⟩ := h.keeps hresult
        exact .inr ⟨content, hrun⟩
  constructor <;> intro view start <;>
    rcases hcases view start with ⟨e, hrun⟩ | ⟨content, hrun⟩ <;> simp [hrun]

/-- A write of a value that the type of the member lets through fails and leaves all places alone,
or changes its own place only, where the value is read from then on. -/
theorem WriteCode.run_cases (h : write.Sets slot type read) (howner : read.owner = write.owner)
    (htarget : w.Settable target)
    (hslot : ∀ view, w.view? target write.owner = some view → view.HasSlot slot)
    (hv : type = .object ∨ v.isCell = false) :
    (∃ e, (write.run target v w).1 = .error e ∧ w.Rewritten (write.run target v w).2 target []) ∨
      (write.run target v w).1 = .ok () ∧
        w.Rewritten (write.run target v w).2 target [⟨write.owner, slot⟩] ∧
        (read.run target (write.run target v w).2).1 = .ok v := by
  unfold run
  cases hcast : w.cast v write.accepts with
  | error e => exact .inl ⟨e, rfl, .refl htarget⟩
  | ok x =>
      obtain rfl : x = v := World.cast_eq_self (hv.imp_left h.accepts) hcast
      have haside := World.withExclusive_aside htarget write.owner (h.tame x)
      obtain ⟨hcontinues, ⟨view, start, hview, hstart, hresult, hreplaced⟩ |
          ⟨⟨e, hfail⟩, hviews⟩⟩ :=
        World.withExclusive_ends htarget write.owner (h.tame x)
      · cases hwritten : (write.body x view start).1.1 with
        | error e =>
            -- The body gave the view back as it got it.
            simp only [h.fails hwritten] at hresult hreplaced
            refine .inl ⟨e, hresult, hcontinues, haside, fun place _ => ?_⟩
            refine World.slot?_of_alike ?_
            by_cases hplace : place.owner = write.owner
            · rw [hplace, hreplaced.self, hview]
              exact Instance.rel_alike_self _
            · exact hreplaced.others place.owner hplace
        | ok result =>
            obtain ⟨content, hrun, hkeeps⟩ := h.keeps hwritten
            simp only [hrun] at hresult hreplaced
            refine .inr ⟨hresult, ⟨hcontinues, haside, fun place hplace => ?_⟩, ?_⟩
            · exact hreplaced.slot?_eq hview fun heq => hplace (List.mem_singleton.mpr heq)
            · refine ReadCode.run_view hcontinues.settable (by rw [howner]; exact hreplaced.self) ?_
              intro later hlater
              exact hkeeps hv (hslot view hview) later
                ((hstart.symm.trans hcontinues.alike).trans hlater)
      · refine .inl ⟨e, hfail, hcontinues, haside, fun place _ => World.slot?_of_alike ?_⟩
        rw [hviews place.owner]
        exact Instance.rel_alike_self _

/-- The storage that a read of a source works on is the same as before. -/
theorem ReadCode.view?_eq (read : ReadCode) (hapart : w.Apart source target)
    (hafter : w.Aside after target) : read.view? source after = read.view? source w := by
  unfold view? aim
  split
  · have hopened := hapart.opened_eq hafter
    refine World.view?_congr hafter.alike.registry hopened fun object hobject => ?_
    exact hapart.payload_eq hafter (World.content_of_opened hobject)
  · have hend := hapart.content_not_cell
    rw [hapart.content_eq hafter]
    refine World.view?_congr hafter.alike.registry ?_ fun object hobject => ?_
    · rw [World.opened_of_not_cell _ hend, World.opened_of_not_cell _ hend]
    · rw [World.opened_of_not_cell _ hend] at hobject
      exact hapart.payload_eq hafter hobject

/-- A read of a source that is apart from a target gives what it gave before the target was
changed. -/
theorem ReadCode.run_source_iff (hreads : read.Reads slot) (hapart : w.Apart source target)
    (hafter : w.Aside after target) :
    (read.run source after).1 = .ok v ↔ (read.run source w).1 = .ok v := by
  have hview := read.view?_eq hapart hafter
  have hlater := hapart.aside hafter
  rcases run_ends hapart.content_not_cell (fun _ => hapart.unlocked) with
      ⟨view, start, hseen, hstart, hrun, -⟩ | ⟨hnone, ⟨e, hrun⟩, -⟩ <;>
    rcases run_ends hlater.content_not_cell (fun _ => hlater.unlocked) with
      ⟨view', start', hseen', hstart', hrun', -⟩ | ⟨hnone', ⟨e', hrun'⟩, -⟩
  · obtain rfl : view = view' := Option.some.inj (hseen.symm.trans (hview.symm.trans hseen'))
    rw [hrun, hrun']
    have hsame : (read.body view start').1.1 = (read.body view start).1.1 :=
      hreads ⟨rfl, rfl⟩ ((hstart.symm.trans hafter.alike).trans hstart')
    rw [hsame]
  · rw [hview, hseen] at hnone'
    nomatch hnone'
  · rw [hview, hnone] at hseen'
    nomatch hseen'
  · rw [hrun, hrun']
    simp

/-- A read that gets a slot of a source with a single value leaves no trace. -/
theorem ReadCode.Gets.undisturbed (h : read.Gets slot) (hapart : w.Apart source target)
    (hsingle : ∀ view, read.view? source w = some view → ∃ v, view.get slot = .value v) :
    w.Undisturbed (read.run source w).2 := by
  rcases run_ends hapart.content_not_cell (fun _ => hapart.unlocked) with
    ⟨view, start, hview, -, -, hquiet⟩ | ⟨-, -, hquiet⟩
  · obtain ⟨v, hslot⟩ := hsingle view hview
    exact hquiet (h.leaves hslot start)
  · exact hquiet

end Places

end Introspect
