import Introspect.Proofs.Accessor.Atomic
import Introspect.Proofs.Accessor.Safety

/-!
# `Introspect.Proofs.Accessor.Transparency`: targets inside cells

An accessor may be used on a value, or on a cell that holds the value. `World.Wraps` says that a
cell holds a value, and that an object or a boxed value type lies inside that value, behind a chain
of further cells. A new cell around the value is one such cell (`wraps_newCell`).

There are three ways through the cells around a target. A body that only reads gets what lies at the
end of the chain, however long it is. A body that may change its target, and the look-up of an
override, open one cell and no more. So they treat a cell like the value in it when that value is
an object or a boxed value type itself, and equally when it lies behind two cells or more: there
none of them gets through, with one cell more or less. Between one cell and two they differ.

`Access.transparent` puts this together. A read or a call that sees through the cells around its
target runs the same body on a cell as on the value in the cell, with the same outcome; the one
difference is that a changed copy of a value type is stored in the cell. For a call that does not
see through, it says what happens instead: the override is missed, and a body that may change its
target does not run. `describe_misses_override` shows both on an object in two cells.
-/

set_option autoImplicit false

namespace Introspect

/-- Whether a value has members of its own to work on: an object or a boxed value type. -/
def Value.hasMembers : Value → Bool
  | .object _ | .struct _ _ => true
  | _ => false

namespace World

variable {α : Type} {w : World} {cell : CellRef} {cells : List CellRef} {v inner : Value}
  {declaring : TypeHandle} {writeBack : WriteBack}

/-! ### Cells around a value -/

/-- A cell holds a value, and an object or a boxed value type lies in the given cells inside that
value. -/
structure Wraps (w : World) (cell : CellRef) (cells : List CellRef) (v inner : Value) : Prop where
  holds : w.cellContent cell = v
  nests : w.Nests cells v inner
  members : inner.hasMembers = true

/-- A value with something inside is not null. -/
theorem Nests.ne_null (h : w.Nests cells v inner) (hmembers : inner.hasMembers = true) :
    v ≠ .null := by
  rintro rfl
  cases h with
  | bare _ => simp [Value.hasMembers] at hmembers

/-- Another cell in the heap changes no chain. -/
theorem Nests.newCell (h : w.Nests cells v inner) (hmembers : inner.hasMembers = true)
    (content : Value) : (w.newCell content).2.Nests cells v inner := by
  induction h with
  | bare hv => exact .bare hv
  | @inside cell rest inner hrest ih =>
      -- A cell of the chain holds something, so it is one of the old cells.
      have hcell : cell.id < w.cells.size := inHeap_of_cellContent (hrest.ne_null hmembers)
      have hkept : (w.newCell content).2.cellContent cell = w.cellContent cell := by
        simp [World.newCell, cellContent, Array.getElem?_push_lt hcell, hcell]
      refine .inside ?_
      rw [hkept]
      exact ih hmembers

/-- A new cell wraps what it was made for. -/
theorem wraps_newCell (h : w.Nests cells v inner) (hmembers : inner.hasMembers = true) :
    (w.newCell v).2.Wraps ⟨w.cells.size⟩ cells v inner where
  holds := by simp [newCell, cellContent]
  nests := h.newCell hmembers v
  members := hmembers

/-- The same lies at the end of the chain with one cell more. -/
theorem Wraps.content_eq (h : w.Wraps cell cells v inner) :
    w.content (.cell cell) = w.content v := by
  have hnests : w.Nests cells (w.cellContent cell) inner := h.holds ▸ h.nests
  rw [content_of_nests h.nests, content_of_nests (.inside hnests)]

/-- A cell opens to what it holds. -/
theorem Wraps.opened_eq (h : w.Wraps cell cells v inner) : w.opened (.cell cell) = v := h.holds

/-- A body that only reads gets to the same view through one cell more. -/
theorem Wraps.withShared (h : w.Wraps cell cells v inner) (body : SharedBody α) :
    w.withShared (.cell cell) declaring body = w.withShared v declaring body := by
  simp only [World.withShared, h.content_eq]

/-! ### Bodies that may change their target -/

/-- A write to a cell that only a success makes. -/
def commit (result : Except InvokeError α) (write : Option (CellRef × Value)) (after : World) :
    World :=
  match result with
  | .ok _ => after.writeCells write.toList
  | .error _ => after

/-- Nothing to write, nothing changed. -/
@[simp] theorem commit_none (result : Except InvokeError α) (after : World) :
    commit result none after = after := by
  cases result <;> rfl

/-- The copy of a boxed value type that a body changes, on its way into a cell around the value. -/
def copied (w : World) (cell : CellRef) (v : Value) (writeBack : WriteBack)
    (body : ExclusiveBody α) : Option (CellRef × Value) :=
  match v with
  | .struct type data =>
    if writeBack = .store then some (cell, .struct type (body data w).1.2) else none
  | _ => none

/-- A body runs on a copy in the same way whether or not a cell waits for it. -/
theorem changeCopy_some (w : World) (type : TypeHandle) (data : Instance) (cell : CellRef)
    (body : ExclusiveBody α) :
    w.changeCopy type data declaring (some cell) body =
      ((w.changeCopy type data declaring none body).1,
        commit (w.changeCopy type data declaring none body).1
          (some (cell, .struct type (body data w).1.2))
          (w.changeCopy type data declaring none body).2) := by
  unfold changeCopy
  by_cases htype : type = declaring
  · rcases body data w with ⟨⟨result, changed⟩, after⟩
    simp only [if_pos htype]
    cases result <;> rfl
  · simp only [if_neg htype]
    rfl

/-- A value that is an object or a boxed value type itself is changed through a cell like without
one, but for the copy that the cell gets. -/
theorem Wraps.withExclusive_bare (h : w.Wraps cell [] v inner) (body : ExclusiveBody α) :
    w.withExclusive (.cell cell) declaring writeBack body =
      ((w.withExclusive v declaring writeBack body).1,
        commit (w.withExclusive v declaring writeBack body).1 (w.copied cell v writeBack body)
          (w.withExclusive v declaring writeBack body).2) := by
  obtain rfl : v = inner := h.nests.bare_eq
  have hmembers := h.members
  have hcontent := h.holds
  cases v with
  | object object =>
      rw [withExclusive_object h.opened_eq, withExclusive_object rfl]
      simp only [copied, commit_none]
  | struct type data =>
      simp only [withExclusive, hcontent, copied]
      cases writeBack with
      | store => exact changeCopy_some w type data cell body
      | discard => simp
  | _ => simp [Value.hasMembers] at hmembers

/-- The type of what lies at the end of a chain is told from either side of its cells. -/
theorem Nests.describe_eq (h : w.Nests cells v inner) : w.describe v = w.describe inner := by
  simp only [describe, typeOf_of_nests h, typeOf_of_nests (.bare h.not_cell)]

/-- A body that may change its target does not get through a cell that holds another one. -/
theorem withExclusive_nested {first : CellRef} {rest : List CellRef}
    (hheld : w.cellContent cell = v) (h : w.Nests (first :: rest) v inner)
    (body : ExclusiveBody α) :
    w.withExclusive (.cell cell) declaring writeBack body =
      (.error (.cellWithoutMembers (w.describe inner) (w.registry.nameOf declaring)), w) := by
  rw [← h.describe_eq]
  obtain rfl : v = .cell first := h.head_eq
  simp only [withExclusive, hheld]

/-- A body that may change its target has the same outcome with one cell more around it, unless
there is exactly one cell less. -/
theorem Wraps.withExclusive (h : w.Wraps cell cells v inner) (hdepth : cells.length ≠ 1)
    (body : ExclusiveBody α) :
    w.withExclusive (.cell cell) declaring writeBack body =
      ((w.withExclusive v declaring writeBack body).1,
        commit (w.withExclusive v declaring writeBack body).1 (w.copied cell v writeBack body)
          (w.withExclusive v declaring writeBack body).2) := by
  match cells, h, hdepth with
  | [], h, _ => exact h.withExclusive_bare body
  | first :: second :: rest, h, _ =>
      -- Both targets are cells that hold a cell, and the failure names what lies behind them all.
      rw [withExclusive_nested h.holds h.nests]
      obtain rfl : v = .cell first := h.nests.head_eq
      cases h.nests with
      | inside hrest => rw [withExclusive_nested rfl hrest]; rfl

end World

/-! ### Bodies of methods -/

namespace Callee

variable {callee : Callee} {w : World} {cell : CellRef} {cells : List CellRef} {v inner : Value}
  {writeBack : WriteBack} {typeArgs : List TypeHandle} {locals : List Value}

/-- What a body puts into a cell around a value: its changed copy of a value type. -/
def copied (callee : Callee) (cell : CellRef) (v : Value) (writeBack : WriteBack)
    (typeArgs : List TypeHandle) (locals : List Value) (w : World) : Option (CellRef × Value) :=
  if callee.mutates then w.copied cell v writeBack (callee.changing typeArgs locals) else none

/-- A copy goes into the cell that it was made for. -/
theorem fst_of_copied {write : CellRef × Value}
    (h : callee.copied cell v writeBack typeArgs locals w = some write) : write.1 = cell := by
  unfold copied World.copied at h
  repeat' split at h
  all_goals cases h
  rfl

/-- A call commits exactly when its body does. -/
theorem commit_given (result : Except InvokeError (Value × List Value))
    (write : Option (CellRef × Value)) (after : World) :
    World.commit (given locals result).1 write after = World.commit result write after := by
  cases result <;> rfl

/-- A body has the same outcome with one cell more around its target, if it only reads, or if there
is not exactly one cell less. -/
theorem run_wrapped (h : w.Wraps cell cells v inner)
    (hsees : callee.mutates = false ∨ cells.length ≠ 1) :
    callee.run (.cell cell) writeBack typeArgs locals w =
      ((callee.run v writeBack typeArgs locals w).1,
        World.commit (callee.run v writeBack typeArgs locals w).1.1
          (callee.copied cell v writeBack typeArgs locals w)
          (callee.run v writeBack typeArgs locals w).2) := by
  simp only [run_eq, copied]
  cases hmutates : callee.mutates with
  | false =>
      simp only [Bool.false_eq_true, if_false, World.commit_none]
      rw [h.withShared]
  | true =>
      have hdepth : cells.length ≠ 1 := hsees.resolve_left (by simp [hmutates])
      simp only [if_true, commit_given]
      rw [h.withExclusive hdepth]

/-- A body that may change its target does not run on a cell in a cell. -/
theorem run_nested {first : CellRef} {rest : List CellRef}
    (h : w.Wraps cell (first :: rest) v inner) (hmutates : callee.mutates = true) :
    callee.run (.cell cell) writeBack typeArgs locals w =
      ((.error (.cellWithoutMembers (w.describe inner) (w.registry.nameOf callee.owner)), locals),
        w) := by
  rw [run_eq, if_pos hmutates]
  simp only [World.withExclusive_nested h.holds h.nests, given]

end Callee

/-! ### Calls -/

namespace ArgPlan

variable {α : Type} {plan : ArgPlan} {args : List Value} {w : World} {cell : CellRef}
  {body body' : LocalsBody α} {write : List Value → Option (CellRef × Value)}

/-- A call depends on what its body does in the world of the call. -/
theorem call_congr (hbody : ∀ locals, body' locals w = body locals w) :
    plan.call args w body' = plan.call args w body := by
  simp only [call, hbody]

/-- A body that differs from another one by a write after a success gives the same call, with the
same write after it, unless the call copies something into the same cell. -/
theorem call_commit
    (hbody : ∀ locals, body' locals w =
      ((body locals w).1, World.commit (body locals w).1.1 (write locals) (body locals w).2))
    (hwrite : ∀ locals x, write locals = some x → x.1 = cell) :
    (plan.call args w body').1 = (plan.call args w body).1 ∧
      (.cell cell ∉ args → (plan.call args w body').2 =
        World.commit (plan.call args w body).1.1 ((plan.copyIn w args).toOption.bind write)
          (plan.call args w body).2) := by
  cases hin : plan.copyIn w args with
  | error e => simp only [call, hin, World.commit, implies_true, and_self]
  | ok locals =>
      have hbody' := hbody locals
      rcases hran : body locals w with ⟨⟨result, final⟩, after⟩
      rw [hran] at hbody'
      cases result with
      | error e =>
          rw [call_error plan args locals final w after body e hin hran,
            call_error plan args locals final w after body' e hin hbody']
          exact ⟨rfl, fun _ => rfl⟩
      | ok v =>
          rw [call_ok hin hran, call_ok hin hbody']
          refine ⟨?_, fun hcell => ?_⟩
          · simp only [copyOut]
            rw [copyBack_args_eq plan.slots final args _ after]
          · show (plan.copyOut final args (after.writeCells (write locals).toList)).2 =
              (plan.copyOut final args after).2.writeCells (write locals).toList
            cases hlocals : write locals with
            | none => rfl
            | some x =>
                -- The cell is written first, and the locals come back after that.
                obtain ⟨other, content⟩ := x
                obtain rfl : other = cell := hwrite locals _ hlocals
                exact copyOut_setCell hcell after content

end ArgPlan

namespace CallPlan

variable {plan : CallPlan} {w : World} {cell : CellRef} {cells : List CellRef} {v inner : Value}
  {args : List Value}

/-- An override is looked up by the runtime type alone. -/
theorem replacement_congr {target target' : Value}
    (h : runtimeType w target = runtimeType w target') :
    plan.replacement target w = plan.replacement target' w := by
  simp only [replacement, overrideFor, h]

/-- A target without a runtime type has no override. -/
theorem replacement_eq_none {target : Value} (h : runtimeType w target = none) :
    plan.replacement target w = none := by
  unfold replacement
  split
  · simp [overrideFor, h]
  · rfl

/-- A cell in a cell is not asked for its runtime type. -/
theorem replacement_nested {first : CellRef} {rest : List CellRef}
    (hheld : w.cellContent cell = v) (h : w.Nests (first :: rest) v inner) :
    plan.replacement (.cell cell) w = none := by
  obtain rfl : v = .cell first := h.head_eq
  refine replacement_eq_none ?_
  simp only [runtimeType, World.opened, hheld]

/-- The same override applies with one cell more around the target, unless there is exactly one cell
less. -/
theorem replacement_wrapped (h : w.Wraps cell cells v inner) (hdepth : cells.length ≠ 1) :
    plan.replacement (.cell cell) w = plan.replacement v w := by
  match cells, h, hdepth with
  | [], h, _ =>
      have hopened : w.opened v = v := by
        rw [h.nests.bare_eq]
        exact World.opened_of_not_cell w h.nests.not_cell
      refine replacement_congr ?_
      simp only [runtimeType, h.opened_eq, hopened]
  | first :: second :: rest, h, _ =>
      -- Neither of the two targets is an object or holds one directly.
      rw [replacement_nested h.holds h.nests]
      obtain rfl : v = .cell first := h.nests.head_eq
      cases h.nests with
      | inside hrest => exact (replacement_nested rfl hrest).symm

/-- Whether a call sees through the cells around its target. It does without a target; when the
target is not in exactly one cell; and when it has no override and the body only reads. -/
def SeesThrough (plan : CallPlan) (cells : List CellRef) (v : Value) (w : World) : Prop :=
  plan.dispatch = .static ∨ cells.length ≠ 1 ∨
    (plan.replacement v w = none ∧ plan.callee.mutates = false)

/-- What a call puts into a cell around its target: the changed copy of a value type. -/
def copied (plan : CallPlan) (cell : CellRef) (v : Value) (args : List Value) (w : World) :
    Option (CellRef × Value) :=
  if plan.dispatch = .static then none
  else (plan.arguments.copyIn w args).toOption.bind fun locals =>
    (plan.chosen v w).copied cell v plan.writeBack plan.typeArgs locals w

/-- A call that sees through the cells chooses the same body with one cell more. -/
theorem chosen_wrapped (h : w.Wraps cell cells v inner) (hsees : plan.SeesThrough cells v w) :
    plan.chosen (.cell cell) w = plan.chosen v w := by
  unfold chosen
  rcases hsees with hstatic | hdepth | ⟨hnone, -⟩
  · simp only [replacement, hstatic]
  · rw [replacement_wrapped h hdepth]
  · cases cells with
    | nil => rw [replacement_wrapped h (by simp)]
    | cons first rest => rw [replacement_nested h.holds h.nests, hnone]

/-- A call that sees through the cells ends in the same way with one cell more, but for the copy
that the cell gets. -/
theorem invoke_wrapped (h : w.Wraps cell cells v inner) (hsees : plan.SeesThrough cells v w)
    (args : List Value) :
    (plan.invoke (.cell cell) args w).1 = (plan.invoke v args w).1 ∧
      (.cell cell ∉ args → (plan.invoke (.cell cell) args w).2 =
        World.commit (plan.invoke v args w).1.1 (plan.copied cell v args w)
          (plan.invoke v args w).2) := by
  by_cases hstatic : plan.dispatch = .static
  · simp only [invoke, copied, hstatic, if_true, World.commit_none, implies_true, and_self]
  · have hbody : (plan.chosen v w).mutates = false ∨ cells.length ≠ 1 := by
      rcases hsees with hdispatch | hdepth | ⟨hnone, hmutates⟩
      · exact absurd hdispatch hstatic
      · exact .inr hdepth
      · refine .inl ?_
        rwa [chosen, hnone]
    rw [invoke_chosen hstatic, invoke_chosen hstatic, chosen_wrapped h hsees, copied,
      if_neg hstatic]
    exact ArgPlan.call_commit (fun locals => Callee.run_wrapped h hbody)
      fun locals x hx => Callee.fst_of_copied hx

/-- A copy that is not to be stored goes nowhere. -/
theorem copied_discard (h : plan.writeBack = .discard) : plan.copied cell v args w = none := by
  have hnone : ∀ locals,
      (plan.chosen v w).copied cell v .discard plan.typeArgs locals w = none := by
    intro locals
    unfold Callee.copied World.copied
    split
    · split <;> rfl
    · rfl
  simp only [copied, h, hnone, Option.bind_fun_none, ite_self]

/-- How a call ends that does not get through two cells. -/
structure Stopped (plan : CallPlan) (cell : CellRef) (v inner : Value) (args : List Value)
    (w : World) : Prop where
  /-- the resolved body is chosen, whatever overrides it on the value itself -/
  body : plan.chosen (.cell cell) w = plan.callee
  /-- it only reads: then there was an override, and the call ends like a direct one -/
  reading : plan.callee.mutates = false → (plan.replacement v w).isSome = true ∧
    plan.invoke (.cell cell) args w = { plan with dispatch := .direct }.invoke v args w
  /-- it may change its target: then the call fails, and leaves everything as it was -/
  changing : plan.callee.mutates = true → ∀ locals, plan.arguments.copyIn w args = .ok locals →
    plan.invoke (.cell cell) args w =
      ((.error (.cellWithoutMembers (w.describe inner) (w.registry.nameOf plan.callee.owner)),
        args), w)

/-- A call that does not see through the cells has a target in exactly one cell, and does not get
through one more. -/
theorem stopped_of_not_seesThrough (h : w.Wraps cell cells v inner)
    (hnot : ¬ plan.SeesThrough cells v w) :
    plan.dispatch ≠ .static ∧ (∃ first, cells = [first] ∧ v = .cell first) ∧
      plan.Stopped cell v inner args w := by
  simp only [SeesThrough, not_or, not_and, not_not] at hnot
  obtain ⟨hstatic, hdepth, hrest⟩ := hnot
  obtain ⟨first, rfl⟩ := List.length_eq_one_iff.mp hdepth
  have hchosen : plan.chosen (.cell cell) w = plan.callee := by
    rw [chosen, replacement_nested h.holds h.nests]
    rfl
  have hinvoke : plan.invoke (.cell cell) args w = plan.arguments.call args w
      (plan.callee.run (.cell cell) plan.writeBack plan.typeArgs) := by
    rw [invoke_chosen hstatic, hchosen]
  refine ⟨hstatic, ⟨first, rfl, h.nests.head_eq⟩, hchosen, ?reading, ?changing⟩
  case reading =>
    intro hreads
    refine ⟨?_, ?_⟩
    · rw [Option.isSome_iff_ne_none]
      intro hnone
      exact hrest hnone hreads
    · rw [hinvoke]
      refine ArgPlan.call_congr fun locals => ?_
      show _ = plan.callee.run v plan.writeBack plan.typeArgs locals w
      rw [Callee.run_wrapped h (.inl hreads), Callee.copied, hreads]
      simp only [Bool.false_eq_true, if_false, World.commit_none]
  case changing =>
    intro hmutates locals hin
    rw [hinvoke]
    exact ArgPlan.call_error _ _ locals locals w w _ _ hin (Callee.run_nested h hmutates)

end CallPlan

/-! ### Accessors -/

namespace Access

variable {access : Access} {reg : Registry} {sig : Signature} {declaring : TypeHandle} {w : World}
  {cell : CellRef} {cells : List CellRef} {v inner : Value}

/-- Whether an access is a write. -/
def isWrite : Access → Bool
  | write .. => true
  | _ => false

/-- The body that runs, for a property or a method. The code of a field is the same always. -/
def chosen? (access : Access) (target : Value) (w : World) : Option Callee :=
  access.plan?.map (·.chosen target w)

/-- Whether an access sees through the cells around its target. Fields always do. -/
def SeesThrough (access : Access) (cells : List CellRef) (v : Value) (w : World) : Prop :=
  ∀ plan, access.plan? = some plan → plan.SeesThrough cells v w

/-- What a method puts into a cell around its target: the changed copy of a value type. -/
def copied (access : Access) (cell : CellRef) (v : Value) (w : World) :
    Option (CellRef × Value) :=
  match access with
  | invoke plan args => plan.copied cell v args w
  | _ => none

/-- An access to a cell goes like one to the value in the cell. -/
structure Transparent (access : Access) (cell : CellRef) (v : Value) (w : World) : Prop where
  /-- the same body runs -/
  body : access.chosen? (.cell cell) w = access.chosen? v w
  /-- with the same result or failure, and the same arguments afterwards -/
  outcome : (access.run (.cell cell) w).1 = (access.run v w).1
  /-- and the same effects, after which a call that succeeded puts its changed copy of a value type
  into the cell -/
  effect : .cell cell ∉ access.args → (access.run (.cell cell) w).2 =
    World.commit (access.run v w).1.1 (access.copied cell v w) (access.run v w).2

/-- A compiled read of a property stores no copy of its target. -/
theorem Compiled.discards {plan : CallPlan} (h : access.Compiled reg sig declaring)
    (hread : access = .read (.call plan)) : plan.writeBack = .discard := by
  cases h with
  | read hcompile _ =>
      obtain ⟨found, -, -, hprepare⟩ := Compiler.compile_eq_ok hcompile
      rw [read.inj hread] at hprepare
      exact Reader.writeBack_of_ofMember hprepare
  | write _ _ _ => cases hread
  | invoke _ _ _ => cases hread

/-- A read or a call through a method is a call of that method. -/
theorem run_call {plan : CallPlan} (hread : access.isWrite = false)
    (hplan : access.plan? = some plan) (target : Value) :
    (access.run target w).1.1 = (plan.invoke target access.args w).1.1 ∧
      (access.run target w).2 = (plan.invoke target access.args w).2 := by
  cases access with
  | read reader =>
      cases reader with
      | call found =>
          obtain rfl : found = plan := by simpa [plan?] using hplan
          exact ⟨rfl, rfl⟩
      | _ => simp [plan?] at hplan
  | write writer x => simp [isWrite] at hread
  | invoke found args =>
      obtain rfl : found = plan := by simpa [plan?] using hplan
      exact ⟨rfl, rfl⟩

/-- A read or a call that sees through the cells around its target is transparent. -/
theorem transparent_of_seesThrough (hcompiled : access.Compiled reg sig declaring)
    (hread : access.isWrite = false) (h : w.Wraps cell cells v inner)
    (hsees : access.SeesThrough cells v w) : access.Transparent cell v w := by
  cases access with
  | read reader =>
      cases reader with
      | constant content => exact ⟨rfl, rfl, fun _ => rfl⟩
      | typeWide get =>
          refine ⟨rfl, rfl, fun _ => ?_⟩
          simp only [copied, World.commit_none]
          rfl
      | field declaring get =>
          have hrun : (read (.field declaring get)).run (.cell cell) w =
              (read (.field declaring get)).run v w := by
            simp only [run, Reader.run, h.withShared]
          refine ⟨rfl, by rw [hrun], fun _ => ?_⟩
          simp only [hrun, copied, World.commit_none]
      | call plan =>
          have hplan := hsees plan rfl
          obtain ⟨houtcome, heffect⟩ := CallPlan.invoke_wrapped h hplan []
          rw [CallPlan.copied_discard (hcompiled.discards rfl), World.commit_none] at heffect
          refine ⟨congrArg some (CallPlan.chosen_wrapped h hplan), ?_, fun _ => ?_⟩
          · simp only [run, Reader.run, houtcome]
          · simp only [copied, World.commit_none]
            exact heffect (by simp)
  | write writer x => simp [isWrite] at hread
  | invoke plan args =>
      have hplan := hsees plan rfl
      obtain ⟨houtcome, heffect⟩ := CallPlan.invoke_wrapped h hplan args
      exact ⟨congrArg some (CallPlan.chosen_wrapped h hplan), houtcome, heffect⟩

/-- Reads and calls see through cells. On a cell that holds a value, with an object or a boxed value
type somewhere inside, a compiled getter or method runs the same body as on the value itself, with
the same outcome, and the one difference in their effects is the changed copy of a value type, which
a call puts into the cell. This is so for all fields; and for properties and methods that have no
target, for a target that is not in exactly one cell, and for a body that only reads and is not
overridden on the target. Otherwise the override is not found in the second cell, a body that may
change its target does not get through it, and fails, and one that only reads runs instead of the
override. -/
theorem transparent (hcompiled : access.Compiled reg sig declaring)
    (hread : access.isWrite = false) (h : w.Wraps cell cells v inner) :
    (access.SeesThrough cells v w → access.Transparent cell v w) ∧
      (¬ access.SeesThrough cells v w → ∃ plan first, access.plan? = some plan ∧
        plan.dispatch ≠ .static ∧ cells = [first] ∧ v = .cell first ∧
        plan.Stopped cell v inner access.args w ∧
        (access.run (.cell cell) w).1.1 = (plan.invoke (.cell cell) access.args w).1.1 ∧
        (access.run (.cell cell) w).2 = (plan.invoke (.cell cell) access.args w).2) := by
  refine ⟨transparent_of_seesThrough hcompiled hread h, fun hnot => ?_⟩
  simp only [SeesThrough, not_forall] at hnot
  obtain ⟨plan, hplan, hnot⟩ := hnot
  obtain ⟨hstatic, ⟨first, hcells, hv⟩, hstopped⟩ := CallPlan.stopped_of_not_seesThrough h hnot
  obtain ⟨hresult, hworld⟩ := run_call hread hplan (.cell cell)
  exact ⟨plan, first, hplan, hstatic, hcells, hv, hstopped, hresult, hworld⟩

/-- The world of `counters`, with a new cell around a tally or around the cell of one. -/
def wrapped (v : Value) : World := (counters.newCell v).2

/-- On a new cell around a tally, counting has the same outcome as on the tally, and the count goes
into the cell. On a new cell around the cell of a tally it fails, while on that cell it succeeds. -/
theorem transparent_tally :
    ∃ access : Access,
      access.Compiled tally.2 (.method tally.1 "Count" [.int32] Flags.standard) tally.1 ∧
      access.isWrite = false ∧
      (wrapped (tallied 3)).Wraps ⟨2⟩ [] (tallied 3) (tallied 3) ∧
      access.SeesThrough [] (tallied 3) (wrapped (tallied 3)) ∧
      (access.run (.cell ⟨2⟩) (wrapped (tallied 3))).1 = (.ok .null, [.cell ⟨1⟩]) ∧
      (access.run (.cell ⟨2⟩) (wrapped (tallied 3))).2.cellContent ⟨2⟩ = tallied 4 ∧
      (wrapped (.cell ⟨0⟩)).Wraps ⟨2⟩ [⟨0⟩] (.cell ⟨0⟩) (tallied 3) ∧
      ¬ access.SeesThrough [⟨0⟩] (.cell ⟨0⟩) (wrapped (.cell ⟨0⟩)) ∧
      (access.run (.cell ⟨0⟩) (wrapped (.cell ⟨0⟩))).1.1 = .ok .null ∧
      ∃ e, (access.run (.cell ⟨2⟩) (wrapped (.cell ⟨0⟩))).1.1 = .error e ∧
        e.kind = .targetMismatch := by
  obtain ⟨plan, hcompiled, hdispatch, hmutates, hin, hbare, hcells, hcopied, hinner⟩ :
      ∃ plan : CallPlan,
        (invoke plan [.cell ⟨1⟩]).Compiled tally.2
          (.method tally.1 "Count" [.int32] Flags.standard) tally.1 ∧
        plan.dispatch = .direct ∧ plan.callee.mutates = true ∧
        plan.arguments.copyIn (wrapped (.cell ⟨0⟩)) [.cell ⟨1⟩] = .ok [.int32 0] ∧
        ((invoke plan [.cell ⟨1⟩]).run (tallied 3) (wrapped (tallied 3))).1 =
          (.ok .null, [.cell ⟨1⟩]) ∧
        ((invoke plan [.cell ⟨1⟩]).run (tallied 3) (wrapped (tallied 3))).2.cells =
          #[tallied 3, .int32 4, tallied 3] ∧
        (invoke plan [.cell ⟨1⟩]).copied ⟨2⟩ (tallied 3) (wrapped (tallied 3)) =
          some (⟨2⟩, tallied 4) ∧
        ((invoke plan [.cell ⟨1⟩]).run (.cell ⟨0⟩) (wrapped (.cell ⟨0⟩))).1.1 = .ok .null :=
    ⟨_, .invoke _ rfl rfl, rfl, rfl, rfl, rfl, rfl, rfl, rfl⟩
  have hone : (wrapped (tallied 3)).Wraps ⟨2⟩ [] (tallied 3) (tallied 3) :=
    World.wraps_newCell (.bare rfl) rfl
  have htwo : (wrapped (.cell ⟨0⟩)).Wraps ⟨2⟩ [⟨0⟩] (.cell ⟨0⟩) (tallied 3) :=
    World.wraps_newCell (.inside (.bare rfl)) rfl
  have hsees : (invoke plan [.cell ⟨1⟩]).SeesThrough [] (tallied 3) (wrapped (tallied 3)) :=
    fun plan _ => .inr (.inl (by decide))
  have hblind : ¬ (invoke plan [.cell ⟨1⟩]).SeesThrough [⟨0⟩] (.cell ⟨0⟩)
      (wrapped (.cell ⟨0⟩)) := by
    intro hsees
    rcases hsees plan rfl with hstatic | hdepth | ⟨-, hreads⟩
    · simp [hdispatch] at hstatic
    · simp at hdepth
    · simp [hmutates] at hreads
  obtain ⟨-, houtcome, heffect⟩ := (transparent hcompiled rfl hone).1 hsees
  obtain ⟨found, first, hplan, -, -, -, hstopped, hresult, -⟩ :=
    (transparent hcompiled rfl htwo).2 hblind
  obtain rfl : plan = found := Option.some.inj hplan
  have hafter : ((invoke plan [.cell ⟨1⟩]).run (.cell ⟨2⟩) (wrapped (tallied 3))).2.cellContent ⟨2⟩
      = tallied 4 := by
    rw [heffect (by simp [Access.args]), hbare, hcopied]
    simp [World.commit, World.writeCells, World.setCell, World.cellContent, hcells]
  exact ⟨_, hcompiled, rfl, hone, hsees, houtcome.trans hbare, hafter, htwo, hblind, hinner, _,
    hresult.trans (congrArg (·.1.1) (hstopped.changing hmutates _ hin)), rfl⟩

/-- The type of employees among the sample types. -/
def employee : TypeHandle :=
  (Sample.registry.natives.lookup (.described "Employee")).getD .unregistered

/-- An employee in a cell, and that cell in a second one. -/
def office : World :=
  { Sample.world with
    objects := #[((Sample.fresh "Employee").setBase (Sample.newPerson "Bob" 5)).set "company"
      (.ofText "Acme")]
    cells := #[.object ⟨0, employee⟩, .cell ⟨0⟩] }

/-- The request for the name of a person. -/
def nameRequest : Signature := .property person "Name" .read Flags.standard

/-- A result as a text, or the kind of its failure. -/
def told : Except InvokeError Value → Option (InvokeError.Kind ⊕ String)
  | .ok (.string text) => some (.inr text)
  | .ok _ => none
  | .error e => some (.inl e.kind)

/-- A text was the result. -/
theorem eq_text_of_told {result : Except InvokeError Value} {text : String}
    (h : told result = some (.inr text)) : result = .ok (.string text) := by
  unfold told at h
  split at h <;> simp_all

/-- A kind was that of the failure. -/
theorem eq_error_of_told {result : Except InvokeError Value} {kind : InvokeError.Kind}
    (h : told result = some (.inl kind)) : ∃ e, result = .error e ∧ e.kind = kind := by
  unfold told at h
  split at h <;> simp_all

/-- An accessor that is left of a compilation was compiled. -/
theorem compile_of_toOption {β : Type} {compiler : Compiler β} {prepared : Prepared β}
    (h : (compiler.compile reg sig).1.toOption = some prepared) :
    ∃ n, compiler.compile reg sig = (.ok prepared, n) :=
  ⟨_, Prod.ext (ok_of_toOption h) rfl⟩

/-- An employee in one cell describes himself by his own method, and in two cells by the method that
it overrides. His name is read through one cell, and not through two. -/
theorem describe_misses_override :
    ∃ (plan : CallPlan) (reader : Reader),
      (invoke plan []).Compiled Sample.registry describeRequest person ∧
      (read reader).Compiled Sample.registry nameRequest person ∧
      office.Wraps ⟨1⟩ [⟨0⟩] (.cell ⟨0⟩) (.object ⟨0, employee⟩) ∧
      ((invoke plan []).run (.cell ⟨0⟩) office).1.1 = .ok (.string "Bob (5) at Acme") ∧
      ((invoke plan []).run (.cell ⟨1⟩) office).1.1 = .ok (.string "Bob (5)") ∧
      ((read reader).run (.cell ⟨0⟩) office).1.1 = .ok (.string "Bob") ∧
      ∃ e, ((read reader).run (.cell ⟨1⟩) office).1.1 = .error e ∧ e.kind = .targetMismatch := by
  have hdescribes : (Compiler.method.compile Sample.registry describeRequest).1.toOption.map
      (fun prepared => (prepared.signature.declaring?,
        told ((invoke prepared.action []).run (.cell ⟨0⟩) office).1.1,
        told ((invoke prepared.action []).run (.cell ⟨1⟩) office).1.1)) =
      some (some person, some (.inr "Bob (5) at Acme"), some (.inr "Bob (5)")) := by
    decide +kernel
  have hnames : (Compiler.getter.compile Sample.registry nameRequest).1.toOption.map
      (fun prepared => (prepared.signature.declaring?,
        told ((read prepared.action).run (.cell ⟨0⟩) office).1.1,
        told ((read prepared.action).run (.cell ⟨1⟩) office).1.1)) =
      some (some person, some (.inr "Bob"), some (.inl .targetMismatch)) := by
    decide +kernel
  obtain ⟨call, hcall, hdescribes⟩ := Option.map_eq_some_iff.mp hdescribes
  obtain ⟨get, hget, hnames⟩ := Option.map_eq_some_iff.mp hnames
  simp only [Prod.mk.injEq] at hdescribes hnames
  obtain ⟨n, hcall⟩ := compile_of_toOption hcall
  obtain ⟨m, hget⟩ := compile_of_toOption hget
  have hwraps : office.Wraps ⟨1⟩ [⟨0⟩] (.cell ⟨0⟩) (.object ⟨0, employee⟩) :=
    ⟨rfl, .inside (.bare rfl), rfl⟩
  exact ⟨call.action, get.action, .invoke [] hcall hdescribes.1, .read hget hnames.1, hwraps,
    eq_text_of_told hdescribes.2.1, eq_text_of_told hdescribes.2.2, eq_text_of_told hnames.2.1,
    eq_error_of_told hnames.2.2⟩

end Access

end Introspect
