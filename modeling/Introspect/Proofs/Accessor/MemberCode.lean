import Introspect.Proofs.Accessor.RoundTrip
import Introspect.Proofs.Accessor.Transparency

/-!
# `Introspect.Proofs.Accessor.MemberCode`: the code behind a member

A member is read and written by the code of a field, or by the bodies of two accessor methods, which
are chosen when the target is known. `ReadCode` and `WriteCode` are what both come down to: a body
over the storage that belongs to one type. `Reader.RunsOn` and `Writer.RunsOn` say which code a
prepared accessor runs on a target, and their `run_eq` that running the accessor is running that
code. What is run depends on the types and on the runtime type of the target only.

A read of a source that is free ends in one of two ways, however its storage is found
(`ReadCode.run_ends`): the body ran on the storage that belongs to the type, or there is none and
the read fails. `ReadCode.run_ends_settable` says the same of a target that fields can be written
through.
-/

set_option autoImplicit false

namespace Introspect

/-! ### The code of a member -/

namespace World

variable {α β : Type} {w : World} {target : Value} {declaring : TypeHandle}

/-- A result that is changed by the body of a read may as well be changed afterwards. -/
theorem withShared_map (f : α → β) (body : SharedBody α) :
    w.withShared target declaring (fun view w => ((body view w).1.map f, (body view w).2)) =
      ((w.withShared target declaring body).1.map f, (w.withShared target declaring body).2) := by
  unfold withShared
  split
  · next object _ =>
      unfold readObject
      cases w.lock object .shared with
      | error e => rfl
      | ok locked =>
          cases hpart : locked.partOf object declaring with
          | none => simp only [hpart]; rfl
          | some found => simp only [hpart]
  · split <;> rfl
  · rfl
  · rfl

/-- A result that is changed by the body of a write to an object may as well be changed
afterwards. -/
theorem changeObject_map (f : α → β) (object : ObjectRef) (body : ExclusiveBody α) :
    w.changeObject object declaring
        (fun view w => (((body view w).1.1.map f, (body view w).1.2), (body view w).2)) =
      ((w.changeObject object declaring body).1.map f,
        (w.changeObject object declaring body).2) := by
  unfold changeObject
  cases w.lock object .exclusive with
  | error e => rfl
  | ok locked =>
      cases hpart : locked.partOf object declaring with
      | none => simp only [hpart]; rfl
      | some found => simp only [hpart]

/-- A result that is changed by the body of a write to a copy may as well be changed afterwards. -/
theorem changeCopy_map (f : α → β) (type : TypeHandle) (data : Instance) (cell : Option CellRef)
    (body : ExclusiveBody α) :
    w.changeCopy type data declaring cell
        (fun view w => (((body view w).1.1.map f, (body view w).1.2), (body view w).2)) =
      ((w.changeCopy type data declaring cell body).1.map f,
        (w.changeCopy type data declaring cell body).2) := by
  unfold changeCopy
  split
  · rcases hran : body data w with ⟨⟨result, changed⟩, after⟩
    simp only [hran]
    cases result <;> cases cell <;> rfl
  · rfl

/-- A result that is changed by the body of a write may as well be changed afterwards. -/
theorem withExclusive_map (f : α → β) (writeBack : WriteBack) (body : ExclusiveBody α) :
    w.withExclusive target declaring writeBack
        (fun view w => (((body view w).1.1.map f, (body view w).1.2), (body view w).2)) =
      ((w.withExclusive target declaring writeBack body).1.map f,
        (w.withExclusive target declaring writeBack body).2) := by
  unfold withExclusive
  split
  · exact changeObject_map f _ body
  · exact changeCopy_map f _ _ _ body
  · split
    · exact changeCopy_map f _ _ _ body
    · exact changeObject_map f _ body
    · rfl
    · rfl
  · rfl
  · rfl

end World

/-- What a read of a member does with the storage of a target that belongs to a type. -/
structure ReadCode where
  owner : TypeHandle
  /-- whether it takes the storage exclusively; what it does to a value type is dropped -/
  mutates : Bool
  body : World.ExclusiveBody Value

namespace ReadCode

/-- The code of a field. -/
def ofField (declaring : TypeHandle) (get : Instance → Code (Except InvokeError Value)) :
    ReadCode :=
  ⟨declaring, false, fun view w => ((((get view).run w).1, view), ((get view).run w).2)⟩

/-- The body of a method without arguments. -/
def ofCallee (callee : Callee) (typeArgs : List TypeHandle) : ReadCode :=
  ⟨callee.owner, callee.mutates, fun view w =>
    let ran := callee.runBody (some (callee.receiver view)) typeArgs [] w
    ((ran.1.result, ran.1.view), ran.2)⟩

/-- Runs the code on a target. -/
def run (code : ReadCode) (target : Value) (w : World) : Except InvokeError Value × World :=
  if code.mutates then w.withExclusive target code.owner .discard code.body
  else w.withShared target code.owner fun view w => ((code.body view w).1.1, (code.body view w).2)

end ReadCode

/-- What a write of a member does with the storage of a target that belongs to a type. -/
structure WriteCode where
  owner : TypeHandle
  /-- the type that the value is converted to -/
  accepts : TypeHandle
  body : Value → World.ExclusiveBody Unit

namespace WriteCode

/-- The code of a field. -/
def ofField (declaring type : TypeHandle)
    (set : Instance → Value → Code (Except InvokeError Unit × Instance)) : WriteCode :=
  ⟨declaring, type, fun v view w => (set view v).run w⟩

/-- The body of a method with one argument. -/
def ofCallee (callee : Callee) (typeArgs : List TypeHandle) (type : TypeHandle) : WriteCode :=
  ⟨callee.owner, type, fun v view w =>
    let ran := callee.runBody (some (.exclusive view)) typeArgs [v] w
    ((ran.1.result.map fun _ => (), ran.1.view), ran.2)⟩

/-- Runs the code on a target. -/
def run (code : WriteCode) (target v : Value) (w : World) : Except InvokeError Unit × World :=
  match w.cast v code.accepts with
  | .error e => (.error e, w)
  | .ok x => w.withExclusive target code.owner .store (code.body x)

end WriteCode

/-- The code that a prepared read runs on a target. A call runs the body that it chooses for the
target. -/
inductive Reader.RunsOn (target : Value) (w : World) : Reader → ReadCode → Prop
  | field {declaring : TypeHandle} {get : Instance → Code (Except InvokeError Value)} :
      RunsOn target w (.field declaring get) (.ofField declaring get)
  | call {plan : CallPlan} :
      plan.dispatch ≠ .static → plan.arguments.slots = [] → plan.writeBack = .discard →
      RunsOn target w (.call plan) (.ofCallee (plan.chosen target w) plan.typeArgs)

/-- The code that a prepared write runs on a target. -/
inductive Writer.RunsOn (target : Value) (w : World) : Writer → WriteCode → Prop
  | field {declaring type : TypeHandle}
      {set : Instance → Value → Code (Except InvokeError Unit × Instance)} :
      RunsOn target w (.field declaring type set) (.ofField declaring type set)
  | call {plan : CallPlan} {type : TypeHandle} {start : Value} :
      plan.dispatch ≠ .static → plan.arguments.slots = [⟨type, .byValue, start⟩] →
      plan.writeBack = .store → (plan.chosen target w).mutates = true →
      RunsOn target w (.call false plan) (.ofCallee (plan.chosen target w) plan.typeArgs type)

section Runs

variable {w after : World} {target v : Value} {read : ReadCode} {write : WriteCode}
  {reader : Reader} {writer : Writer}

/-- A body answers with its result and its locals. -/
theorem Callee.map_fst_answer (outcome : Outcome) :
    (Callee.answer outcome).map Prod.fst = outcome.result := by
  unfold Callee.answer
  cases outcome.result <;> rfl

/-- A call gives the result that its body answers with. -/
theorem Callee.fst_given (locals : List Value)
    (result : Except InvokeError (Value × List Value)) :
    (Callee.given locals result).1 = result.map Prod.fst := by
  cases result <;> rfl

/-- The result and the world of a call are those of its body when nothing is copied back. -/
theorem ArgPlan.call_of_copyOut {plan : ArgPlan} {args locals : List Value}
    {body : LocalsBody Value} (hin : plan.copyIn w args = .ok locals)
    (hout : ∀ locals after, plan.copyOut locals args after = (args, after)) :
    ((plan.call args w body).1.1, (plan.call args w body).2) =
      ((body locals w).1.1, (body locals w).2) := by
  simp only [ArgPlan.call, hin]
  rcases body locals w with ⟨⟨result, changed⟩, after⟩
  cases result with
  | error e => rfl
  | ok x => simp only [hout]

/-- A method without arguments runs as a read of a member. -/
theorem ReadCode.run_ofCallee (callee : Callee) (typeArgs : List TypeHandle) (target : Value)
    (w : World) :
    (ReadCode.ofCallee callee typeArgs).run target w =
      ((callee.run target .discard typeArgs [] w).1.1,
        (callee.run target .discard typeArgs [] w).2) := by
  rw [Callee.run_eq]
  show (if callee.mutates then _ else _) = _
  split
  · next hmutates =>
      have hbody : (ofCallee callee typeArgs).body = fun view w =>
          (((callee.changing typeArgs [] view w).1.1.map Prod.fst,
            (callee.changing typeArgs [] view w).1.2),
            (callee.changing typeArgs [] view w).2) := by
        funext view w
        simp only [ofCallee, Callee.changing, Callee.receiver, if_pos hmutates,
          Callee.map_fst_answer]
      rw [hbody, World.withExclusive_map]
      simp only [Callee.fst_given]
      rfl
  · next hmutates =>
      have hbody : (fun view w => (((ofCallee callee typeArgs).body view w).1.1,
            ((ofCallee callee typeArgs).body view w).2)) = fun view w =>
          ((callee.reading typeArgs [] view w).1.map Prod.fst,
            (callee.reading typeArgs [] view w).2) := by
        funext view w
        simp only [ofCallee, Callee.reading, Callee.receiver, if_neg hmutates,
          Callee.map_fst_answer]
      rw [hbody, World.withShared_map]
      simp only [Callee.fst_given]
      rfl

/-- A read runs its code. -/
theorem Reader.RunsOn.run_eq (h : reader.RunsOn target w read) :
    reader.run target w = read.run target w := by
  cases h with
  | field => rfl
  | @call plan hdispatch hslots hwriteBack =>
      have hin : plan.arguments.copyIn w [] = .ok [] := by
        simp [ArgPlan.copyIn, hslots, ArgPlan.localsOf]
      have hout : ∀ locals after, plan.arguments.copyOut locals [] after = ([], after) := by
        intro locals after
        rw [ArgPlan.copyOut, hslots]
        rfl
      show ((plan.invoke target [] w).1.1, (plan.invoke target [] w).2) = _
      rw [CallPlan.invoke_chosen hdispatch, ArgPlan.call_of_copyOut hin hout, hwriteBack,
        ReadCode.run_ofCallee]

/-- A method with one argument runs as a write of a member, if it may change its receiver. -/
theorem WriteCode.withExclusive_ofCallee {callee : Callee} (hmutates : callee.mutates = true)
    (typeArgs : List TypeHandle) (type : TypeHandle) (target v : Value) (w : World) :
    w.withExclusive target callee.owner .store ((WriteCode.ofCallee callee typeArgs type).body v) =
      ((callee.run target .store typeArgs [v] w).1.1.map fun _ => (),
        (callee.run target .store typeArgs [v] w).2) := by
  have hbody : (ofCallee callee typeArgs type).body v = fun view w =>
      (((callee.changing typeArgs [v] view w).1.1.map fun _ => (),
        (callee.changing typeArgs [v] view w).1.2),
        (callee.changing typeArgs [v] view w).2) := by
    funext view w
    simp only [ofCallee, Callee.changing, Callee.answer]
    cases (callee.runBody (some (.exclusive view)) typeArgs [v] w).1.result <;> rfl
  rw [Callee.run_eq, if_pos hmutates, hbody, World.withExclusive_map]
  simp only [Callee.fst_given]
  cases (w.withExclusive target callee.owner .store (callee.changing typeArgs [v])).1 <;> rfl

/-- A write runs its code, on a target that is no value type outside of a cell. -/
theorem Writer.RunsOn.run_eq (h : writer.RunsOn target w write)
    (hwritable : w.requireWritable target = .ok ()) (v : Value) :
    writer.run target v w = write.run target v w := by
  cases h with
  | field =>
      simp only [Writer.run, hwritable]
      rfl
  | @call plan type start hdispatch hslots hwriteBack hmutates =>
      have hrun : (Writer.call false plan).run target v w =
          ((plan.invoke target [v] w).1.1.map fun _ => (), (plan.invoke target [v] w).2) := by
        simp only [Writer.run, Bool.false_eq_true, if_false, hwritable]
      have haccepts :
          (WriteCode.ofCallee (plan.chosen target w) plan.typeArgs type).accepts = type := rfl
      have howner : (WriteCode.ofCallee (plan.chosen target w) plan.typeArgs type).owner =
          (plan.chosen target w).owner := rfl
      rw [hrun, CallPlan.invoke_chosen hdispatch, hwriteBack, WriteCode.run, haccepts, howner]
      have hin : plan.arguments.copyIn w [v] = (w.cast v type).map fun x => [x] := by
        simp only [ArgPlan.copyIn, hslots, ArgPlan.localsOf, ArgPlan.localOf]
        cases w.cast v type <;> rfl
      have hout : ∀ locals after, plan.arguments.copyOut locals [v] after = ([v], after) := by
        intro locals after
        rw [ArgPlan.copyOut, hslots]
        cases locals <;> rfl
      cases hcast : w.cast v type with
      | error e =>
          rw [hcast] at hin
          simp only [ArgPlan.call, hin, Except.map]
      | ok x =>
          rw [hcast] at hin
          simp only [WriteCode.withExclusive_ofCallee hmutates]
          obtain ⟨hresult, hafter⟩ := Prod.mk.inj (ArgPlan.call_of_copyOut hin hout
            : (_, (plan.arguments.call [v] w
              ((plan.chosen target w).run target .store plan.typeArgs)).2) = _)
          rw [hresult, hafter]

/-- The body that a call chooses depends on the types and on that of the target. -/
theorem CallPlan.chosen_congr (plan : CallPlan) (hregistry : after.registry = w.registry)
    (htype : CallPlan.runtimeType after target = CallPlan.runtimeType w target) :
    plan.chosen target after = plan.chosen target w := by
  simp only [CallPlan.chosen, CallPlan.replacement, CallPlan.overrideFor, hregistry, htype]

/-- With the same types and a target of the same type, a read runs the same code. -/
theorem Reader.RunsOn.later (h : reader.RunsOn target w read)
    (hregistry : after.registry = w.registry)
    (htype : CallPlan.runtimeType after target = CallPlan.runtimeType w target) :
    reader.RunsOn target after read := by
  cases h with
  | field => exact .field
  | @call plan hdispatch hslots hwriteBack =>
      rw [← plan.chosen_congr hregistry htype]
      exact .call hdispatch hslots hwriteBack

/-- With the same types and a target of the same type, a write runs the same code. -/
theorem Writer.RunsOn.later (h : writer.RunsOn target w write)
    (hregistry : after.registry = w.registry)
    (htype : CallPlan.runtimeType after target = CallPlan.runtimeType w target) :
    writer.RunsOn target after write := by
  cases h with
  | field => exact .field
  | @call plan type start hdispatch hslots hwriteBack hmutates =>
      rw [← plan.chosen_congr hregistry htype] at hmutates ⊢
      exact .call hdispatch hslots hwriteBack hmutates

end Runs

/-! ### Running a read -/

namespace World

variable {w : World} {target : Value} {declaring : TypeHandle} {α : Type}

/-- Storage that is put back as it was is not changed. -/
theorem setPayload_self (w : World) (object : ObjectRef) :
    w.setPayload object (w.payload object) = w := by
  have hobjects : w.objects.setIfInBounds object.id (w.payload object) = w.objects := by
    apply Array.ext_getElem?
    intro index
    by_cases hindex : object.id = index
    · subst hindex
      by_cases hin : object.id < w.objects.size
      · simp [payload, hin]
      · simp [hin]
    · rw [Array.getElem?_setIfInBounds_ne hindex]
  rw [setPayload, hobjects]

/-- A copy that is dropped is not written back. -/
theorem changeCopy_none (w : World) (type : TypeHandle) (data : Instance) (declaring : TypeHandle)
    (body : ExclusiveBody α) :
    w.changeCopy type data declaring none body =
      if type = declaring then ((body data w).1.1, (body data w).2)
      else (.error (w.notAnInstance type declaring), w) := by
  unfold changeCopy
  split
  · rcases body data w with ⟨⟨_ | _, changed⟩, after⟩ <;> rfl
  · rfl

/-- A body that reads does not run on a value without members. -/
theorem withShared_memberless (h : (w.content target).hasMembers = false) (body : SharedBody α) :
    ∃ e, w.withShared target declaring body = (.error e, w) := by
  unfold withShared
  split
  · next hcontent => simp [hcontent, Value.hasMembers] at h
  · next hcontent => simp [hcontent, Value.hasMembers] at h
  · exact ⟨_, rfl⟩
  · exact ⟨_, rfl⟩

/-- A body that may change its target does not run on a value without members. -/
theorem withExclusive_memberless (h : (w.opened target).hasMembers = false) (writeBack : WriteBack)
    (body : ExclusiveBody α) :
    ∃ e, w.withExclusive target declaring writeBack body = (.error e, w) := by
  unfold withExclusive
  split
  · simp [opened, Value.hasMembers] at h
  · simp [opened, Value.hasMembers] at h
  · split
    · next hcell => simp [opened, hcell, Value.hasMembers] at h
    · next hcell => simp [opened, hcell, Value.hasMembers] at h
    · exact ⟨_, rfl⟩
    · exact ⟨_, rfl⟩
  · exact ⟨_, rfl⟩
  · exact ⟨_, rfl⟩

/-- A value without members has no storage. -/
theorem view?_memberless (h : (w.opened target).hasMembers = false) (declaring : TypeHandle) :
    w.view? target declaring = none := by
  unfold view?
  split
  · next hopened => simp [hopened, Value.hasMembers] at h
  · next hopened => simp [hopened, Value.hasMembers] at h
  · rfl

/-- A body that may change a value type in a cell, or a bare one, gets a copy. -/
theorem withExclusive_discard {type : TypeHandle} {data : Instance}
    (h : w.opened target = .struct type data) (body : ExclusiveBody α) :
    w.withExclusive target declaring .discard body =
      if type = declaring then ((body data w).1.1, (body data w).2)
      else (.error (w.notAnInstance type declaring), w) := by
  rw [← changeCopy_none]
  cases target with
  | cell cell =>
      have hcell : w.cellContent cell = .struct type data := h
      simp [withExclusive, hcell]
  | struct type' data' =>
      obtain ⟨rfl, rfl⟩ : type' = type ∧ data' = data := by simpa [opened] using h
      rfl
  | _ => simp [opened] at h

/-- A value type that a cell holds directly is at the end of the chain. -/
theorem content_of_struct {type : TypeHandle} {data : Instance}
    (h : w.opened target = .struct type data) : w.content target = .struct type data := by
  cases target with
  | cell cell =>
      have hcell : w.cellContent cell = .struct type data := h
      exact content_of_nests (.inside (by rw [hcell]; exact .bare rfl))
  | _ => exact (content_of_not_cell w rfl).trans h

/-- A body that reads gets to the end of a chain of cells. -/
theorem withShared_content (hend : (w.content target).isCell = false) (body : SharedBody α) :
    w.withShared target declaring body = w.withShared (w.content target) declaring body := by
  simp only [withShared, content_of_not_cell w hend]

/-- Nothing was disturbed in the same world. -/
theorem Undisturbed.refl (w : World) : w.Undisturbed w := ⟨rfl, rfl, fun _ => rfl⟩

end World

namespace ReadCode

variable {w : World} {source target : Value} {object : ObjectRef} {code : ReadCode}

/-- The value that the code looks at: a body that only reads finds what lies at the end of all
cells, one that takes its storage exclusively goes through one cell at most. -/
def aim (code : ReadCode) (source : Value) (w : World) : Value :=
  if code.mutates then source else w.content source

/-- The storage that the code works on. -/
def view? (code : ReadCode) (source : Value) (w : World) : Option Instance :=
  w.view? (code.aim source w) code.owner

/-- The code leaves the storage that it gets, and the rest of the world, as they are. -/
def Leaves (code : ReadCode) (view : Instance) (start : World) : Prop :=
  (code.body view start).1.2 = view ∧ (code.body view start).2 = start

/-- How a read of a free source ends: it ran on the storage that belongs to the type, or failed
because there is none. Code that leaves everything alone leaves the world undisturbed. -/
def Ends (code : ReadCode) (w : World) (seen : Option Instance)
    (ran : Except InvokeError Value × World) : Prop :=
  (∃ view start, seen = some view ∧ w.Alike start ∧ ran.1 = (code.body view start).1.1 ∧
      (code.Leaves view start → w.Undisturbed ran.2)) ∨
    seen = none ∧ (∃ e, ran.1 = .error e) ∧ w.Undisturbed ran.2

/-- A read of an object that no one holds. -/
theorem ends_object (htarget : w.opened target = .object object) (hfree : w.Unlocked object) :
    code.Ends w (w.view? target code.owner) (code.run target w) := by
  unfold Ends run
  rw [World.view?_object htarget]
  cases hpart : w.partOf object code.owner with
  | none =>
      refine .inr ⟨rfl, ?_⟩
      split
      · obtain ⟨hresult, hafter⟩ :=
          World.withExclusive_foreign htarget hfree hpart .discard code.body
        exact ⟨⟨_, hresult⟩, hafter⟩
      · obtain ⟨hresult, hafter⟩ := World.withShared_foreign htarget hfree hpart
          fun view w => ((code.body view w).1.1, (code.body view w).2)
        exact ⟨⟨_, hresult⟩, hafter⟩
  | some found =>
      obtain ⟨depth, part⟩ := found
      split
      · obtain ⟨locked, hlock⟩ := World.lock_of_unlocked hfree .exclusive
        rw [World.withExclusive_part htarget hlock hpart]
        refine .inl ⟨part, locked, rfl, World.lock_alike hlock, rfl, fun hleaves => ?_⟩
        have hpayload : w.payload object = locked.payload object := by
          rw [(World.lock_eq hlock).2]
          rfl
        have hat := (World.partOf_eq_some_iff.mp hpart).part_eq
        -- The part is put back as it was, so the object is as it was.
        show w.Undisturbed (((code.body part locked).2.setPayload object
          ((w.payload object).setPart depth (code.body part locked).1.2)).unlock object .exclusive)
        rw [hleaves.1, hleaves.2, Instance.setPart_part hat, hpayload, World.setPayload_self]
        exact World.undisturbed_unlock hfree hlock
      · obtain ⟨locked, hlock⟩ := World.lock_of_unlocked hfree .shared
        rw [World.withShared_part htarget hlock hpart]
        refine .inl ⟨part, locked, rfl, World.lock_alike hlock, rfl, fun hleaves => ?_⟩
        show w.Undisturbed ((code.body part locked).2.unlock object .shared)
        rw [hleaves.2]
        exact World.undisturbed_unlock hfree hlock

/-- A read of a value type runs on the value, if that is of the type. -/
theorem ends_struct {type : TypeHandle} {data : Instance}
    (htarget : w.opened target = .struct type data) :
    code.Ends w (w.view? target code.owner) (code.run target w) := by
  have hcontent : w.content target = .struct type data := World.content_of_struct htarget
  have hrun : code.run target w = if type = code.owner then
      ((code.body data w).1.1, (code.body data w).2)
      else (.error (w.notAnInstance type code.owner), w) := by
    unfold run
    split
    · exact World.withExclusive_discard htarget code.body
    · simp only [World.withShared, hcontent]
  rw [hrun]
  unfold Ends World.view?
  simp only [htarget]
  split
  · refine .inl ⟨data, w, rfl, ⟨rfl, rfl⟩, rfl, fun hleaves => ?_⟩
    show w.Undisturbed (code.body data w).2
    rw [hleaves.2]
    exact .refl w
  · exact .inr ⟨rfl, ⟨_, rfl⟩, .refl w⟩

/-- A read of a value without members fails and leaves no trace. A body that only reads would look
further into a cell. -/
theorem ends_memberless (htarget : (w.opened target).hasMembers = false)
    (hmode : code.mutates = true ∨ target.isCell = false) :
    code.Ends w (w.view? target code.owner) (code.run target w) := by
  have hrun : ∃ e, code.run target w = (.error e, w) := by
    unfold run
    split
    · exact World.withExclusive_memberless htarget .discard _
    · next hmutates =>
        have hbare : target.isCell = false := hmode.resolve_left hmutates
        rw [World.opened_of_not_cell w hbare] at htarget
        exact World.withShared_memberless ((World.content_of_not_cell w hbare).symm ▸ htarget) _
  obtain ⟨e, hrun⟩ := hrun
  rw [hrun]
  exact .inr ⟨World.view?_memberless htarget _, ⟨e, rfl⟩, .refl w⟩

/-- A read of a target that is looked at as it is ends in one of two ways. -/
theorem run_ends_opened (hfree : ∀ object, w.opened target = .object object → w.Unlocked object)
    (hmode : code.mutates = true ∨ target.isCell = false) :
    code.Ends w (w.view? target code.owner) (code.run target w) := by
  match hopened : w.opened target with
  | .object object => exact ends_object hopened (hfree object hopened)
  | .struct type data => exact ends_struct hopened
  | .null | .bool _ | .int32 _ | .int64 _ | .float64 _ | .string _ | .enum _ _ | .array _
  | .cell _ => exact ends_memberless (by rw [hopened]; rfl) hmode

/-- A read of a source that is free ends in one of two ways. -/
theorem run_ends (hend : (w.content source).isCell = false)
    (hfree : ∀ object, w.content source = .object object → w.Unlocked object) :
    code.Ends w (code.view? source w) (code.run source w) := by
  unfold view? aim
  split
  · next hmutates =>
      refine run_ends_opened (fun object hobject => ?_) (.inl hmutates)
      exact hfree object (World.content_of_opened hobject)
  · next hmutates =>
      have hsame : code.run source w = code.run (w.content source) w := by
        unfold run
        rw [if_neg hmutates, if_neg hmutates, World.withShared_content hend]
      rw [hsame]
      refine run_ends_opened (fun object hobject => ?_) (.inr hend)
      rw [World.opened_of_not_cell w hend] at hobject
      exact hfree object hobject

/-- A target that fields can be written through can be read. -/
theorem run_ends_settable (code : ReadCode) (h : w.Settable target) :
    code.Ends w (w.view? target code.owner) (code.run target w) := by
  cases h with
  | object htarget _ hfree => exact ends_object htarget hfree
  | boxed htarget hcell =>
      subst htarget
      exact ends_struct hcell

/-- A target that has no storage of the type is no instance of it. -/
theorem run_of_view?_eq_none (h : w.Settable target) (hnone : w.view? target code.owner = none) :
    ∃ actual, World.directType (w.opened target) = some actual ∧
      (code.run target w).1 = .error (w.notAnInstance actual code.owner) := by
  cases h with
  | @object object htarget _ hfree =>
      rw [World.view?_object htarget, Option.map_eq_none_iff] at hnone
      refine ⟨object.type, by rw [htarget]; rfl, ?_⟩
      unfold run
      split
      · exact (World.withExclusive_foreign htarget hfree hnone .discard code.body).1
      · exact (World.withShared_foreign htarget hfree hnone _).1
  | @boxed cell type data htarget hcell =>
      subst htarget
      have hopened : w.opened (.cell cell) = .struct type data := hcell
      refine ⟨type, by rw [hopened]; rfl, ?_⟩
      rw [World.view?_boxed hcell] at hnone
      have hne : type ≠ code.owner := by
        intro htype
        simp [htype] at hnone
      unfold run
      split
      · rw [World.withExclusive_discard hopened, if_neg hne]
      · simp only [World.withShared, World.content_of_struct hopened, if_neg hne]

end ReadCode

end Introspect
