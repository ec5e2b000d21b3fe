import Introspect.Conversion
import Introspect.Query

/-!
# `Introspect.Construction.Plan`: how named values reach a constructor

Every input is matched, ignoring case, with a parameter of the constructor, or else with a writable
property or field of the new instance. A plan needs an input for each parameter. It has a cost for
every member that is written, every conversion, inputs in another order than the parameters, and
inputs or parameters without a partner.

An input that has a partner by name, but of a type that it does not fit, is a failure.
`cheapest_mem` says that the plan chosen is one of the plans offered.
-/

set_option autoImplicit false

namespace Introspect

/-- A member that an input is stored in. -/
inductive MemberTarget
  | field (name : String)
  | property (name : String)
  deriving DecidableEq

/-- The name of the member. -/
def MemberTarget.name : MemberTarget → String
  | field name => name
  | property name => name

/-- What happens to an input. -/
inductive Placement
  | parameter (index : Nat)
  | member (target : MemberTarget)
  | unused
  deriving DecidableEq

/-- What is done with every input for one constructor. -/
structure ConstructionPlan where
  params : List TypeHandle
  placements : List Placement
  cost : Nat

/-- A value with a name. -/
abbrev NamedValue : Type := String × Value

namespace ConstructionPlan

/-- The cost of writing a member. -/
def memberCost : Nat := 10
/-- The cost of each conversion. -/
def conversionCost : Nat := 1
/-- The cost when not as many inputs are placed as there are parameters. -/
def partialCost : Nat := 100
/-- The cost when inputs come in another order than the parameters. -/
def reorderCost : Nat := 300
/-- The cost when anything is converted. -/
def anyConversionCost : Nat := 600

/-- The flags under which members are written. -/
def memberFlags : Flags := Flags.instanceAnyVisibility ∪ Flags.ignoreCase

/-- The names under which a member for an input is looked for. -/
def memberNames (name : String) : List String := [name, "_" ++ name]

/-- The first property for an input that takes no index. -/
def propertyFor (reg : Registry) (type : TypeHandle) (name : String) : Option PropertyInfo :=
  (memberNames name).findSome? fun candidate =>
    match Query.properties reg type memberFlags [candidate] with
    | .ok found => (found.find? fun p => !p.member.isIndexer).map (·.member)
    | .error _ => none

/-- The first writable field under one of several names. -/
def fieldAmong (reg : Registry) (type : TypeHandle) :
    List String → Except ReflectError (Option FieldInfo)
  | [] => .ok none
  | candidate :: rest => do
    match ← Query.fields reg type memberFlags [candidate] with
    | first :: _ =>
      if first.member.isWritable then return some first.member else fieldAmong reg type rest
    | [] => fieldAmong reg type rest

/-- The member that an input is stored in, with its type: a property with a setter, or else a
field. -/
def memberFor (reg : Registry) (type : TypeHandle) (name : String) :
    Except ReflectError (Option (MemberTarget × TypeHandle)) :=
  -- Only the first property of the name counts: without a setter the fields are next.
  match (propertyFor reg type name).filter fun p => p.setter.isSome with
  | some p => .ok (some (.property p.name, p.type))
  | none => do
    let found ← fieldAmong reg type (memberNames name)
    return found.map fun f => (.field f.name, f.type)

/-- The failure of an input that does not fit its partner. -/
def misfit (w : World) (type : TypeHandle) (input : NamedValue) (wanted : String) : ReflectError :=
  .invalidShape (w.registry.nameOf type ++ "." ++ input.1)
    (.input input.1 (w.describe input.2) wanted)

/-- The outcome of looking for a parameter. -/
inductive Match
  | found (index : Nat) (fit : Fit)
  /-- the last parameter of the name, which the value does not fit -/
  | mismatch (wanted : String)
  | missing

/-- Looks for the first free parameter of an input's name that its value fits, after an outcome so
far. -/
def matchParam (w : World) (input : NamedValue) (used : List Nat) :
    Match → List (ParameterInfo × Nat) → Match
  | soFar, [] => soFar
  | soFar, (param, index) :: rest =>
    -- Parameters may share a name, so a mismatch does not end the search.
    if used.contains index || !namesEqual param.name input.1 true then
      matchParam w input used soFar rest
    else match w.fit input.2 param.type with
      | some fit => .found index fit
      | none =>
        matchParam w input used
          (.mismatch ("constructor parameter " ++ param.name ++ " of type " ++
            w.registry.nameOf param.type))
          rest

/-- The part of a plan that has been made. -/
structure Draft where
  used : List Nat
  /-- the last one first -/
  placements : List Placement
  cost : Nat
  inOrder : Bool
  converted : Bool
  placed : Nat

/-- The draft after an input that reaches its place. -/
def Draft.place (draft : Draft) (placement : Placement) (fit : Fit) (cost : Nat) : Draft :=
  { draft with
    placements := placement :: draft.placements
    cost := draft.cost + cost + (if fit = .converted then conversionCost else 0)
    converted := draft.converted || fit = .converted
    placed := draft.placed + 1 }

/-- Places one input. -/
def placeInput (w : World) (type : TypeHandle) (params : List ParameterInfo) (draft : Draft)
    (input : NamedValue) : Except ReflectError Draft := do
  let position := draft.placements.length
  match matchParam w input draft.used .missing params.zipIdx with
  | .found index fit =>
    let draft := draft.place (.parameter index) fit 0
    return { draft with used := index :: draft.used, inOrder := draft.inOrder && index == position }
  | other =>
    match ← memberFor w.registry type input.1, other with
    | some (member, memberType), _ =>
      match w.fit input.2 memberType, other with
      | some fit, _ => return draft.place (.member member) fit memberCost
      | none, .mismatch wanted => throw (misfit w type input wanted)
      | none, _ =>
        throw (misfit w type input
          ("member " ++ member.name ++ " of type " ++ w.registry.nameOf memberType))
    | none, .mismatch wanted => throw (misfit w type input wanted)
    | none, _ => return { draft with placements := .unused :: draft.placements }

/-- The plan for a constructor with these parameters, if every parameter has an input. -/
def ofParams (w : World) (type : TypeHandle) (inputs : List NamedValue)
    (params : List ParameterInfo) : Except ReflectError (Option ConstructionPlan) := do
  let draft ← inputs.foldlM (placeInput w type params) ⟨[], [], 0, true, false, 0⟩
  -- Every parameter must have been found; inputs may be left over.
  if (List.range params.length).all (draft.used.contains ·) then
    return some {
      params := params.map (·.type)
      placements := draft.placements.reverse
      cost := draft.cost + (if draft.placed = params.length then 0 else partialCost) +
        (if draft.inOrder then 0 else reorderCost) +
        (if draft.converted then anyConversionCost else 0) }
  else return none

/-- The cheaper of two plans; of two with the same cost the first. -/
def cheaper (best : Option ConstructionPlan) (plan : ConstructionPlan) : Option ConstructionPlan :=
  match best with
  | none => some plan
  | some b => if plan.cost < b.cost then some plan else some b

/-- The first of the cheapest plans. -/
def cheapest (plans : List ConstructionPlan) : Option ConstructionPlan :=
  plans.foldl cheaper none

/-! ### The choice among plans -/

/-- The choice, from a plan on, is that plan or a later one. -/
theorem foldl_cheaper_mem (plans : List ConstructionPlan) (best chosen : ConstructionPlan)
    (h : plans.foldl cheaper (some best) = some chosen) : chosen = best ∨ chosen ∈ plans := by
  induction plans generalizing best with
  | nil => exact .inl (Option.some.inj h).symm
  | cons plan rest ih =>
    simp only [List.foldl_cons, cheaper] at h
    split at h
    · obtain rfl | hmem := ih plan h
      · exact .inr List.mem_cons_self
      · exact .inr (List.mem_cons_of_mem _ hmem)
    · obtain rfl | hmem := ih best h
      · exact .inl rfl
      · exact .inr (List.mem_cons_of_mem _ hmem)

/-- The plan chosen is one of the plans offered. -/
theorem cheapest_mem (plans : List ConstructionPlan) (chosen : ConstructionPlan)
    (h : cheapest plans = some chosen) : chosen ∈ plans := by
  cases plans with
  | nil => simp [cheapest] at h
  | cons plan rest =>
    rcases foldl_cheaper_mem rest plan chosen h with rfl | hmem
    · simp
    · exact List.mem_cons_of_mem _ hmem

end ConstructionPlan

end Introspect
