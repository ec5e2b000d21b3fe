import Introspect.Proofs.Accessor.Compiled
import Introspect.Proofs.Accessor.CopyOut
import Introspect.Proofs.Accessor.View
import Introspect.Proofs.Registry.Assembly

/-!
# `Introspect.Proofs.Accessor.Atomic`: calls happen as a whole or not at all

A call converts its arguments, finds the view of its target, runs a body on both, has a changed copy
of a value type stored and copies the locals out. Any of the first three can fail. `ArgPlan.Atomic`
says what the caller sees: after a failure the arguments and all cells are as they were, and after a
success they are what `ArgPlan.Delivered` makes of what the body left.

The argument is the same for all calls, so it is given once, in `ArgPlan.atomic_call`: a body that
writes no cell when it fails, and at most the target's when it succeeds, makes an atomic call. Each
kind of call then only has to say how its body ends. `calls_atomic` puts the kinds together: a body
over locals, a method on any target, a declared constructor. A read never changes a cell at all.
-/

set_option autoImplicit false

namespace Introspect

namespace ArgPlan

variable {α : Type} {plan : ArgPlan} {args : List Value} {w : World}

/-- A call happens as a whole or not at all. `Ends` says how the body ends on given locals. -/
structure Atomic (plan : ArgPlan) (args : List Value) (w : World)
    (Ends : List Value → Finish α → Prop)
    (ended : (Except InvokeError α × List Value) × World) : Prop where
  /-- a failure leaves the arguments and all cells as they were -/
  failed : ∀ e, ended.1.1 = .error e →
    ended.1.2 = args ∧ ∀ cell, ended.2.cellContent cell = w.cellContent cell
  /-- a success delivers what the body left, once -/
  succeeded : ∀ v, ended.1.1 = .ok v →
    ∃ locals finish, plan.copyIn w args = .ok locals ∧ Ends locals finish ∧ finish.result = v ∧
      plan.Delivered args w finish ended.1.2 ended.2

/-- The cells among the arguments are in the heap. -/
def InHeap (args : List Value) (w : World) : Prop :=
  ∀ cell, .cell cell ∈ args → cell.id < w.cells.size

/-- There are as many locals as parameters. -/
theorem localsOf_length (w : World) (slots : List ParamSlot) (args : List Value)
    {locals : List Value} (hcount : args.length = slots.length)
    (h : localsOf w slots args = .ok locals) : locals.length = args.length := by
  induction slots generalizing args locals with
  | nil =>
      obtain rfl : args = [] := List.eq_nil_of_length_eq_zero hcount
      obtain rfl : locals = [] := by simpa [localsOf] using h.symm
      rfl
  | cons slot slots ih =>
      cases args with
      | nil => simp at hcount
      | cons arg args =>
          simp only [localsOf, bind, Except.bind] at h
          cases hfirst : localOf w slot arg with
          | error e => simp [hfirst] at h
          | ok first =>
              cases hrest : localsOf w slots args with
              | error e => simp [hfirst, hrest] at h
              | ok others =>
                  obtain rfl : first :: others = locals := by
                    simpa [hfirst, hrest, pure, Except.pure] using h
                  have hothers := ih args (by simpa using hcount) hrest
                  simp [hothers]

/-- Arguments that were copied in are as many as the parameters, and as the locals. -/
theorem copyIn_length {locals : List Value} (h : plan.copyIn w args = .ok locals) :
    args.length = plan.slots.length ∧ locals.length = args.length := by
  unfold copyIn at h
  split at h
  · simp at h
  · next hcount =>
      have hcount : args.length = plan.slots.length := not_not.mp hcount
      exact ⟨hcount, localsOf_length w plan.slots args hcount h⟩

/-- What a body that succeeds leaves is copied out. -/
theorem call_ok {body : LocalsBody α} {locals final : List Value} {v : α} {mid : World}
    (hin : plan.copyIn w args = .ok locals) (hbody : body locals w = ((.ok v, final), mid)) :
    plan.call args w body =
      ((.ok v, (plan.copyOut final args mid).1), (plan.copyOut final args mid).2) := by
  simp only [call, hin, hbody]

/-- A body that writes no cell when it fails, and at most the target's when it succeeds, makes an
atomic call. -/
theorem atomic_call {body : LocalsBody α} {Ends : List Value → Finish α → Prop}
    (hargs : InHeap args w)
    (herror : ∀ locals e, (body locals w).1.1 = .error e → (body locals w).2.cells = w.cells)
    (hok : ∀ locals v, (body locals w).1.1 = .ok v →
      ∃ target, Ends locals ⟨v, (body locals w).1.2, target⟩ ∧
        (body locals w).1.2.length = locals.length ∧
        (∀ cell content, target = some (cell, content) → cell.id < w.cells.size) ∧
        (body locals w).2.cells = (w.writeCells target.toList).cells) :
    plan.Atomic args w Ends (plan.call args w body) := by
  cases hin : plan.copyIn w args with
  | error e =>
      have hcall : plan.call args w body = ((.error e, args), w) := by simp only [call, hin]
      rw [hcall]
      exact ⟨fun _ _ => ⟨rfl, fun _ => rfl⟩, fun v hv => by simp at hv⟩
  | ok locals =>
      have herror := herror locals
      have hok := hok locals
      rcases hran : body locals w with ⟨⟨result, final⟩, mid⟩
      rw [hran] at herror hok
      cases result with
      | error e =>
          rw [call_error plan args locals final w mid body e hin hran]
          refine ⟨fun _ _ => ⟨rfl, ?_⟩, fun v hv => by simp at hv⟩
          exact World.cellContent_congr (herror e rfl)
      | ok v =>
          obtain ⟨target, hends, hfinal, htarget, hmid⟩ := hok v rfl
          obtain ⟨hcount, hlocals⟩ := copyIn_length hin
          have hdelivered : plan.Delivered args w ⟨v, final, target⟩
              (plan.copyOut final args mid).1 (plan.copyOut final args mid).2 :=
            delivered_copyOut hcount (hfinal.trans hlocals) hargs htarget hmid
          rw [call_ok hin hran]
          refine ⟨fun e he => by simp at he, fun v' hv' => ?_⟩
          obtain rfl : v = v' := by simpa using hv'
          exact ⟨locals, _, hin, hends, rfl, hdelivered⟩

/-! ### Bodies over locals -/

/-- A body touches nothing but its locals, as far as cells and the number of locals go. -/
structure Contained (body : LocalsBody α) : Prop where
  cells : ∀ locals w, (body locals w).2.cells = w.cells
  length : ∀ locals w, (body locals w).1.2.length = locals.length

/-- How a body over locals ends. -/
def BodyEnds (body : LocalsBody α) (w : World) (locals : List Value) (finish : Finish α) : Prop :=
  (body locals w).1 = (.ok finish.result, finish.locals) ∧ finish.target = none

/-- A call of a contained body is atomic. -/
theorem atomic_of_contained {body : LocalsBody α} (hbody : Contained body)
    (hargs : InHeap args w) :
    plan.Atomic args w (BodyEnds body w) (plan.call args w body) := by
  refine atomic_call hargs (fun locals _ _ => hbody.cells locals w) fun locals v hv => ?_
  exact ⟨none, ⟨Prod.ext hv rfl, rfl⟩, hbody.length locals w, by simp, hbody.cells locals w⟩

end ArgPlan

/-! ### Constructors -/

/-- A constructor keeps the number of its locals. -/
def ConstructorBody.KeepsCount (body : ConstructorBody) : Prop :=
  ∀ locals w, ((body locals).run w).1.2.length = locals.length

namespace Creator

/-- How the body of a declared constructor ends. -/
def Ends (body : ConstructorBody) (w : World) (locals : List Value)
    (finish : ArgPlan.Finish Value) : Prop :=
  ((body locals).run w).1 = (.ok finish.result, finish.locals) ∧ finish.target = none

/-- A declared constructor is called atomically. -/
theorem atomic_run {arguments : ArgPlan} {body : ConstructorBody} {args : List Value} {w : World}
    (hbody : body.KeepsCount) (hargs : ArgPlan.InHeap args w) :
    arguments.Atomic args w (Ends body w) ((Creator.declared arguments body).run args w) :=
  ArgPlan.atomic_of_contained ⟨fun locals w => (body locals).run_cells w, hbody⟩ hargs

end Creator

/-! ### Methods -/

/-- A method keeps the number of its locals. -/
def MethodBody.KeepsCount (body : MethodBody) : Prop :=
  ∀ inv w, ((body inv).run w).1.args.length = inv.args.length

namespace Callee

variable {callee : Callee} {target : Value} {writeBack : WriteBack} {typeArgs : List TypeHandle}
  {locals : List Value} {w : World}

/-- The value whose view a body gets. One that may change it looks into one cell, one that only
reads it into all of them. -/
def seen (callee : Callee) (target : Value) (w : World) : Value :=
  if callee.mutates then w.opened target else w.content target

/-- The cell that gets the body's copy of the target, and its new content. A body that only reads
has no copy. -/
def kept (callee : Callee) (target : Value) (writeBack : WriteBack) (changed : Instance)
    (w : World) : Option (CellRef × Value) :=
  if callee.mutates then w.stored target writeBack changed else none

/-- Running a body writes no cell. -/
theorem runBody_cells (callee : Callee) (receiver : Option Receiver)
    (typeArgs : List TypeHandle) (locals : List Value) (w : World) :
    (callee.runBody receiver typeArgs locals w).2.cells = w.cells :=
  Code.run_cells _ w

/-- A call gives back the result of the body that ran. -/
theorem given_result (locals : List Value) (result : Except InvokeError (Value × List Value)) :
    (given locals result).1 = result.map (·.1) := by
  cases result <;> rfl

/-- A body that fails, or does not run, leaves all cells as they were. -/
theorem run_error_cells {e : InvokeError}
    (h : (callee.run target writeBack typeArgs locals w).1.1 = .error e) :
    (callee.run target writeBack typeArgs locals w).2.cells = w.cells := by
  rw [run_eq] at h ⊢
  split
  · next hmutates =>
      simp only [if_pos hmutates, given_result] at h
      cases hran : (w.withExclusive target callee.owner writeBack
          (callee.changing typeArgs locals)).1 with
      | ok answer => simp [hran, Except.map] at h
      | error e' =>
          exact World.withExclusive_error_cells (fun _ _ => runBody_cells _ _ _ _ _) hran
  · exact World.withShared_cells w target callee.owner fun _ _ => runBody_cells _ _ _ _ _

/-- The answer of a body that succeeded is its result together with its locals. -/
theorem answer_eq_ok {outcome : Outcome} {v : Value} {changed : List Value}
    (h : answer outcome = .ok (v, changed)) : outcome.result = .ok v ∧ outcome.args = changed := by
  unfold answer at h
  cases hresult : outcome.result with
  | error e => simp [hresult, Except.map] at h
  | ok v' =>
      simp only [hresult, Except.map, Except.ok.injEq, Prod.mk.injEq] at h
      exact ⟨by rw [h.1], h.2⟩

/-- A body that succeeds has run on a view of the target; at most the cell that was the target has
changed. -/
theorem run_ok {v : Value} (h : (callee.run target writeBack typeArgs locals w).1.1 = .ok v) :
    ∃ view start outcome, w.Viewed callee.owner callee.hold (callee.seen target w) view start ∧
      (callee.runBody (some (callee.receiver view)) typeArgs locals start).1 = outcome ∧
      outcome.result = .ok v ∧
      (callee.run target writeBack typeArgs locals w).1.2 = outcome.args ∧
      (callee.run target writeBack typeArgs locals w).2.cells =
        (w.writeCells (callee.kept target writeBack outcome.view w).toList).cells := by
  rw [run_eq] at h ⊢
  unfold hold seen receiver kept
  split
  · next hmutates =>
      simp only [if_pos hmutates, given_result] at h
      cases hran : (w.withExclusive target callee.owner writeBack
          (callee.changing typeArgs locals)).1 with
      | error e => simp [hran, Except.map] at h
      | ok answered =>
          obtain ⟨v', changed⟩ := answered
          obtain rfl : v' = v := by simpa [hran, Except.map] using h
          obtain ⟨view, start, hviewed, hanswer, hcells⟩ :=
            World.withExclusive_ok (fun _ _ => runBody_cells _ _ _ _ _) hran
          obtain ⟨hresult, hargs⟩ := answer_eq_ok hanswer
          have hgiven : (given locals (.ok (v', changed))).2 = _ := hargs.symm
          rw [← hran] at hgiven
          exact ⟨view, start, _, hviewed, rfl, hresult, hgiven, hcells⟩
  · next hmutates =>
      simp only [if_neg hmutates, given_result] at h
      cases hran : (w.withShared target callee.owner (callee.reading typeArgs locals)).1 with
      | error e => simp [hran, Except.map] at h
      | ok answered =>
          obtain ⟨v', changed⟩ := answered
          obtain rfl : v' = v := by simpa [hran, Except.map] using h
          obtain ⟨view, start, hviewed, hanswer⟩ := World.withShared_ok hran
          obtain ⟨hresult, hargs⟩ := answer_eq_ok hanswer
          have hgiven : (given locals (.ok (v', changed))).2 = _ := hargs.symm
          rw [← hran] at hgiven
          exact ⟨view, start, _, hviewed, rfl, hresult, hgiven,
            World.withShared_cells w target callee.owner fun _ _ => runBody_cells _ _ _ _ _⟩

/-- The cell that gets a copy of the target is in the heap. -/
theorem inHeap_of_kept {changed : Instance} {cell : CellRef} {content : Value}
    (h : callee.kept target writeBack changed w = some (cell, content)) :
    cell.id < w.cells.size := by
  unfold kept at h
  split at h
  · exact World.inHeap_of_stored h
  · simp at h

end Callee

namespace CallPlan

variable {plan : CallPlan} {target : Value} {args : List Value} {w : World}

/-- How the body of a method ends on given locals. -/
inductive Ends (plan : CallPlan) (target : Value) (w : World) (locals : List Value) :
    ArgPlan.Finish Value → Prop
  /-- without a target -/
  | static {outcome : Outcome} {v : Value} :
      plan.dispatch = .static →
      (plan.callee.runBody none plan.typeArgs locals w).1 = outcome → outcome.result = .ok v →
      Ends plan target w locals ⟨v, outcome.args, none⟩
  /-- the chosen body on a view of the target -/
  | instance {callee : Callee} {view : Instance} {start : World} {outcome : Outcome} {v : Value} :
      plan.dispatch ≠ .static → plan.chosen target w = callee →
      w.Viewed callee.owner callee.hold (callee.seen target w) view start →
      (callee.runBody (some (callee.receiver view)) plan.typeArgs locals start).1 = outcome →
      outcome.result = .ok v →
      Ends plan target w locals
        ⟨v, outcome.args, callee.kept target plan.writeBack outcome.view w⟩

/-- A method is called atomically, on any target. -/
theorem atomic_invoke (hbody : (plan.chosen target w).body.KeepsCount)
    (hargs : ArgPlan.InHeap args w) :
    plan.arguments.Atomic args w (plan.Ends target w) (plan.invoke target args w) := by
  by_cases hstatic : plan.dispatch = .static
  · have hinvoke : plan.invoke target args w =
        plan.arguments.call args w (plan.callee.runStatic plan.typeArgs) := by
      simp only [invoke, hstatic]
    have hchosen : plan.chosen target w = plan.callee := by
      simp [chosen, replacement, hstatic]
    rw [hchosen] at hbody
    rw [hinvoke]
    have hcells : ∀ locals, (plan.callee.runStatic plan.typeArgs locals w).2.cells = w.cells :=
      fun locals => Callee.runBody_cells _ _ _ _ _
    refine ArgPlan.atomic_call hargs (fun locals _ _ => hcells locals) fun locals v hv => ?_
    exact ⟨none, .static hstatic rfl hv, hbody _ w, by simp, hcells locals⟩
  · rw [invoke_chosen hstatic]
    refine ArgPlan.atomic_call hargs (fun locals e he => Callee.run_error_cells he)
      fun locals v hv => ?_
    obtain ⟨view, start, outcome, hviewed, hran, hresult, hlocals, hcells⟩ := Callee.run_ok hv
    rw [hlocals]
    refine ⟨_, .instance hstatic rfl hviewed hran hresult, ?_, fun _ _ => Callee.inHeap_of_kept,
      hcells⟩
    rw [← hran]
    exact hbody _ start

end CallPlan

/-- A compiled method has its copy of a value type stored. -/
theorem CallPlan.writeBack_of_prepare {reg : Registry} {sig : Signature} {member : MemberHandle}
    {plan : CallPlan} (h : Compiler.method.prepare reg sig member = .ok plan) :
    plan.writeBack = .store := by
  cases member with
  | method ref =>
      have hplan : ofMethod reg ref sig.typeArgs .store = .ok plan := h
      obtain ⟨info, method, -, -, rfl⟩ := ofMethod_eq_ok hplan
      rfl
  | _ => simp [Compiler.method] at h

/-! ### Reads -/

/-- A copy of the target that is not stored changes no cell. -/
theorem Callee.run_discard_cells (callee : Callee) (target : Value) (typeArgs : List TypeHandle)
    (locals : List Value) (w : World) :
    (callee.run target .discard typeArgs locals w).2.cells = w.cells := by
  cases hresult : (callee.run target .discard typeArgs locals w).1.1 with
  | error e => exact run_error_cells hresult
  | ok v =>
      obtain ⟨view, start, outcome, -, -, -, -, hcells⟩ := run_ok hresult
      have hkept : callee.kept target .discard outcome.view w = none := by
        unfold kept
        split
        · exact World.stored_discard w target outcome.view
        · rfl
      rw [hcells, hkept]
      rfl

/-- A call without arguments copies nothing out. -/
theorem ArgPlan.call_nil_cells {α : Type} {plan : ArgPlan} {w : World} {body : LocalsBody α}
    (hbody : ∀ locals, (body locals w).2.cells = w.cells) :
    (plan.call [] w body).2.cells = w.cells := by
  have hnone : ∀ locals, stores plan.slots locals [] = [] := by
    intro locals
    cases plan.slots <;> cases locals <;> rfl
  cases hin : plan.copyIn w [] with
  | error e => simp only [call, hin]
  | ok locals =>
      have hmid := hbody locals
      rcases hran : body locals w with ⟨⟨result, final⟩, mid⟩
      rw [hran] at hmid
      cases result with
      | error e => rwa [call_error plan [] locals final w mid body e hin hran]
      | ok v =>
          rw [call_ok hin hran, copyOut, copyBack_world, hnone]
          exact hmid

/-- A property that is read has no copy of its target stored. -/
theorem Reader.writeBack_of_ofMember {reg : Registry} {member : MemberHandle} {plan : CallPlan}
    (h : Reader.ofMember reg member = .ok (.call plan)) : plan.writeBack = .discard := by
  cases member with
  | property declaring descriptor accessor =>
      cases hplan : CallPlan.ofMethod reg accessor [] .discard with
      | error e => simp [Reader.ofMember, hplan, bind, Except.bind] at h
      | ok found =>
          obtain rfl : found = plan := by
            simpa [Reader.ofMember, hplan, bind, Except.bind, pure, Except.pure] using h
          obtain ⟨info, method, -, -, rfl⟩ := CallPlan.ofMethod_eq_ok hplan
          rfl
  | field declaring index =>
      simp only [Reader.ofMember, Registry.info, bind, Except.bind] at h
      cases hinfo : reg.get declaring with
      | none => simp [hinfo] at h
      | some info =>
          simp only [hinfo] at h
          split at h
          · simp [throw, throwThe, MonadExceptOf.throw] at h
          · split at h <;> cases h
  | _ => simp [Reader.ofMember] at h

/-- Reading a member changes no cell, whatever its code does to the view that it gets. -/
theorem Reader.run_cells {reg : Registry} {member : MemberHandle} {reader : Reader}
    (h : Reader.ofMember reg member = .ok reader) (target : Value) (w : World) :
    (reader.run target w).2.cells = w.cells := by
  cases reader with
  | constant content => rfl
  | typeWide get => exact get.run_cells w
  | field declaring get =>
      exact World.withShared_cells w target declaring fun view w => (get view).run_cells w
  | call plan =>
      have hdiscard : plan.writeBack = .discard := writeBack_of_ofMember h
      show (plan.invoke target [] w).2.cells = w.cells
      by_cases hstatic : plan.dispatch = .static
      · simp only [CallPlan.invoke, hstatic]
        exact ArgPlan.call_nil_cells fun locals => Callee.runBody_cells _ _ _ _ _
      · rw [CallPlan.invoke_chosen hstatic, hdiscard]
        exact ArgPlan.call_nil_cells fun locals => Callee.run_discard_cells _ _ _ _ _

/-! ### All calls -/

/-- Calls are atomic: a body over locals, a method on any target and a declared constructor either
fail and leave the arguments and all cells alone, or succeed and deliver what their body left. A
read changes no cell in either case. A compiled method has its copy of a value type stored. -/
theorem calls_atomic :
    (∀ {α : Type} (plan : ArgPlan) (body : LocalsBody α) (args : List Value) (w : World),
      ArgPlan.Contained body → ArgPlan.InHeap args w →
      plan.Atomic args w (ArgPlan.BodyEnds body w) (plan.call args w body)) ∧
    (∀ (plan : CallPlan) (target : Value) (args : List Value) (w : World),
      (plan.chosen target w).body.KeepsCount → ArgPlan.InHeap args w →
      plan.arguments.Atomic args w (plan.Ends target w) (plan.invoke target args w)) ∧
    (∀ (arguments : ArgPlan) (body : ConstructorBody) (args : List Value) (w : World),
      body.KeepsCount → ArgPlan.InHeap args w →
      arguments.Atomic args w (Creator.Ends body w)
        ((Creator.declared arguments body).run args w)) ∧
    (∀ (reg : Registry) (member : MemberHandle) (reader : Reader) (target : Value) (w : World),
      Reader.ofMember reg member = .ok reader →
      ∀ cell, (reader.run target w).2.cellContent cell = w.cellContent cell) ∧
    (∀ (reg : Registry) (sig : Signature) (prepared : Prepared CallPlan) (n : Nat),
      Compiler.method.compile reg sig = (.ok prepared, n) →
      prepared.action.writeBack = .store) := by
  refine ⟨?bodies, ?methods, ?constructors, ?reads, ?compiled⟩
  case bodies => exact fun plan body args w hbody hargs => ArgPlan.atomic_of_contained hbody hargs
  case methods => exact fun plan target args w hbody hargs => CallPlan.atomic_invoke hbody hargs
  case constructors => exact fun arguments body args w hbody hargs => Creator.atomic_run hbody hargs
  case reads =>
    intro reg member reader target w h
    exact World.cellContent_congr (Reader.run_cells h target w)
  case compiled =>
    intro reg sig prepared n h
    obtain ⟨found, -, -, hprepare⟩ := Compiler.compile_eq_ok h
    exact CallPlan.writeBack_of_prepare hprepare

/-- A body that counts its calls in its receiver, and gives the count back by reference. -/
def counting : MethodBody := fun inv =>
  let view := (inv.receiver.map Receiver.view).getD default
  let count : Value := match view.get "count" with
    | .value (.int32 n) => .int32 (n + 1)
    | _ => .int32 1
  .done ⟨.ok .null, view.set "count" (.value count), inv.args.map fun _ => count⟩

/-- A body that reverses its locals. -/
def reversing : ConstructorBody := fun locals => .done (.ok .null, locals.reverse)

/-- A value type with a count, and a constructor for it. -/
def tally : TypeHandle × Registry :=
  Registry.initial.declare (.struct "Tally") <|
    (Blueprint.struct "Tally" (.mk "Tally" none [("count", .value (.int32 0))]))
      |>.withMethod (.ofBody "Count" [.byRef "last" .int32] .void false counting)
      |>.withMethod (.ofBody "get_Count" [] .void false counting)

/-- A tally that has counted `n` calls. -/
def tallied (n : Int32) : Value :=
  .struct tally.1 (.mk "Tally" none [("count", .value (.int32 n))])

/-- A cell with a tally, and one with a number. -/
def counters : World := { World.ofRegistry tally.2 with cells := #[tallied 3, .int32 0] }

/-- Two numbers passed by reference. -/
def twoNumbers : ArgPlan := ⟨[⟨.int32, .byRef, .null⟩, ⟨.int32, .byRef, .null⟩]⟩

/-- Counting stores the tally and the count in their cells, reading the count as a property stores
nothing, and reversing two numbers stores the second one in the cell of the first. -/
theorem calls_atomic_counting :
    ∃ (prepared : Prepared CallPlan) (reader : Reader) (counted reversed : World),
      ArgPlan.InHeap [.cell ⟨1⟩] counters ∧ ArgPlan.InHeap [.cell ⟨1⟩, .int32 5] counters ∧
      ArgPlan.Contained (fun locals w => (reversing locals).run w) ∧ reversing.KeepsCount ∧
      Compiler.method.compile tally.2 (.method tally.1 "Count" [.int32] Flags.standard) =
        (.ok prepared, 1) ∧
      prepared.action.writeBack = .store ∧
      (prepared.action.chosen (.cell ⟨0⟩) counters).body.KeepsCount ∧
      prepared.action.arguments.Atomic [.cell ⟨1⟩] counters
        (prepared.action.Ends (.cell ⟨0⟩) counters) ((.ok .null, [.cell ⟨1⟩]), counted) ∧
      counted.cellContent ⟨0⟩ = tallied 4 ∧ counted.cellContent ⟨1⟩ = .int32 4 ∧
      twoNumbers.Atomic [.cell ⟨1⟩, .int32 5] counters
        (ArgPlan.BodyEnds (fun locals w => (reversing locals).run w) counters)
        ((.ok .null, [.cell ⟨1⟩, .int32 0]), reversed) ∧
      twoNumbers.Atomic [.cell ⟨1⟩, .int32 5] counters (Creator.Ends reversing counters)
        ((.ok .null, [.cell ⟨1⟩, .int32 0]), reversed) ∧
      reversed.cellContent ⟨1⟩ = .int32 5 ∧
      Reader.ofMember tally.2 (.property tally.1 none ⟨tally.1, 1⟩) = .ok reader ∧
      (reader.run (.cell ⟨0⟩) counters).2.cellContent ⟨0⟩ = tallied 3 := by
  obtain ⟨hbodies, hmethods, hconstructors, hreads, hcompiled⟩ := calls_atomic
  have hcell : ∀ args, (∀ cell, Value.cell cell ∈ args → cell = ⟨1⟩) →
      ArgPlan.InHeap args counters := by
    rintro args hargs cell hmem
    rw [hargs cell hmem]
    decide
  have hone : ArgPlan.InHeap [.cell ⟨1⟩] counters := hcell _ (by simp)
  have htwo : ArgPlan.InHeap [.cell ⟨1⟩, .int32 5] counters := hcell _ (by simp)
  have hreversing : reversing.KeepsCount := fun locals w => by simp [reversing, Code.run]
  have hcontained : ArgPlan.Contained (fun locals w => (reversing locals).run w) :=
    ⟨fun _ _ => rfl, hreversing⟩
  obtain ⟨prepared, reader, counted, hcompile, hchosen, hinvoke, htally, hnumber, hreader⟩ :
      ∃ (prepared : Prepared CallPlan) (reader : Reader) (counted : World),
        Compiler.method.compile tally.2 (.method tally.1 "Count" [.int32] Flags.standard) =
          (.ok prepared, 1) ∧
        (prepared.action.chosen (.cell ⟨0⟩) counters).body = counting ∧
        prepared.action.invoke (.cell ⟨0⟩) [.cell ⟨1⟩] counters =
          ((.ok .null, [.cell ⟨1⟩]), counted) ∧
        counted.cellContent ⟨0⟩ = tallied 4 ∧ counted.cellContent ⟨1⟩ = .int32 4 ∧
        Reader.ofMember tally.2 (.property tally.1 none ⟨tally.1, 1⟩) = .ok reader :=
    ⟨_, _, _, rfl, rfl, rfl, rfl, rfl, rfl⟩
  have hkeeps : (prepared.action.chosen (.cell ⟨0⟩) counters).body.KeepsCount := by
    rw [hchosen]
    intro inv w
    simp [counting, Code.run]
  have hcounted := hmethods prepared.action (.cell ⟨0⟩) [.cell ⟨1⟩] counters hkeeps hone
  rw [hinvoke] at hcounted
  exact ⟨prepared, reader, counted, _, hone, htwo, hcontained, hreversing, hcompile,
    hcompiled _ _ _ _ hcompile, hkeeps, hcounted, htally, hnumber,
    hbodies twoNumbers _ _ counters hcontained htwo,
    hconstructors twoNumbers reversing _ counters hreversing htwo, rfl, hreader,
    hreads _ _ reader (.cell ⟨0⟩) counters hreader ⟨0⟩⟩

end Introspect
