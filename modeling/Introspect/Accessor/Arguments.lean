import Introspect.World

/-!
# `Introspect.Accessor.Arguments`: arguments on their way into a body and back

An `ArgPlan` is made once for a parameter list. `copyIn` checks the number of arguments and converts
each one to its declared type; a parameter passed out only starts from the default value of its
type. `copyOut` brings the locals of parameters passed by reference back: into the cell, when the
argument is one, or else into the argument's place.

`call_error` says that a failing body leaves the arguments alone.
-/

set_option autoImplicit false

namespace Introspect

/-- How one argument is marshalled. -/
structure ParamSlot where
  type : TypeHandle
  mode : ParamMode
  /-- what the local of a parameter passed out only starts from -/
  start : Value

/-- How the arguments of a member are marshalled. -/
structure ArgPlan where
  slots : List ParamSlot

/-- A body over argument locals, which answers with the locals afterwards. -/
abbrev LocalsBody (α : Type) : Type :=
  List Value → World → (Except InvokeError α × List Value) × World

namespace ArgPlan

/-- The plan for a parameter list. -/
def ofParams (reg : Registry) (params : List ParameterInfo) : ArgPlan :=
  ⟨params.map fun p =>
    ⟨p.type, p.mode, if p.mode = .out then reg.zeroOf p.type else .null⟩⟩

/-- The local of one argument. -/
def localOf (w : World) (slot : ParamSlot) (arg : Value) : Except InvokeError Value :=
  match slot.mode with
  | .out => .ok slot.start
  -- The cell of a parameter passed by reference is opened even where any value is accepted.
  | .byRef => w.cast (w.opened arg) slot.type
  | .byValue => w.cast arg slot.type

/-- The locals of arguments, as many as there are parameters; the first failure counts. -/
def localsOf (w : World) : List ParamSlot → List Value → Except InvokeError (List Value)
  | slot :: slots, arg :: args => do
    let first ← localOf w slot arg
    let others ← localsOf w slots args
    return first :: others
  | _, _ => .ok []

/-- The locals handed to a body. -/
def copyIn (plan : ArgPlan) (w : World) (args : List Value) : Except InvokeError (List Value) :=
  if args.length ≠ plan.slots.length then
    .error (.argumentCount plan.slots.length args.length)
  else localsOf w plan.slots args

/-- Brings locals back into the arguments. -/
def copyBack : List ParamSlot → List Value → List Value → World → List Value × World
  | slot :: slots, v :: locals, arg :: args, w =>
    if slot.mode.isByRef then
      -- Arguments that share a cell are stored in order, so the last one wins.
      match arg with
      | .cell cell =>
        let (args, w) := copyBack slots locals args (w.setCell cell v)
        (arg :: args, w)
      | _ =>
        let (args, w) := copyBack slots locals args w
        (v :: args, w)
    else
      let (args, w) := copyBack slots locals args w
      (arg :: args, w)
  | _, _, args, w => (args, w)

/-- Stores the locals of parameters passed by reference into the caller's arguments. -/
def copyOut (plan : ArgPlan) (locals args : List Value) (w : World) : List Value × World :=
  copyBack plan.slots locals args w

/-- Runs a body on marshalled arguments and brings its results back when it succeeds. -/
def call {α : Type} (plan : ArgPlan) (args : List Value) (w : World) (body : LocalsBody α) :
    (Except InvokeError α × List Value) × World :=
  match plan.copyIn w args with
  | .error e => ((.error e, args), w)
  | .ok locals =>
    match body locals w with
    -- Nothing is copied out, but what the body did to the heap stays.
    | ((.error e, _), after) => ((.error e, args), after)
    | ((.ok result, locals), after) =>
      let (args, after) := plan.copyOut locals args after
      ((.ok result, args), after)

/-- A failing body leaves the arguments alone. -/
theorem call_error {α : Type} (plan : ArgPlan) (args locals changed : List Value)
    (w after : World) (body : LocalsBody α) (e : InvokeError)
    (hin : plan.copyIn w args = .ok locals)
    (hbody : body locals w = ((.error e, changed), after)) :
    plan.call args w body = ((.error e, args), after) := by
  simp [call, hin, hbody]

end ArgPlan

end Introspect
