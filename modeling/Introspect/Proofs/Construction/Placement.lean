import Introspect.Construction.Plan
import Mathlib.Data.List.Forall2
import Mathlib.Data.List.Nodup

/-!
# `Introspect.Proofs.Construction.Placement`: what a plan says

A plan is made by placing the inputs one after another. `Suits` says which place an input may have:
a parameter or a member of an equal name, of a type that the value fits. `costOf` adds up what a
list of placements costs. `Draft.Sound` holds of every draft on the way: its placements suit the
inputs so far, no parameter is taken twice, and its counters are those of the placements.
`Draft.Sound.placeInput` is the step, and `ofParams_sound` says what a finished plan is
(`ConstructionPlan.Sound`): every parameter has one input, and the cost is that of the placements.
`isSome_ofParams_iff` says when there is a plan.

`firstCheapest_of_cheapest` says which of several plans is taken: none costs less, and those before
it cost more.
-/

set_option autoImplicit false

namespace Introspect

namespace Placement

/-- The parameter that an input is bound to. -/
def index? : Placement → Option Nat
  | parameter index => some index
  | _ => none

/-- Whether an input is stored in a member. -/
def isMember : Placement → Bool
  | member _ => true
  | _ => false

/-- Whether an input has a place at all. -/
def isPlaced : Placement → Bool
  | unused => false
  | _ => true

/-- An input is bound to a parameter exactly when the placement is that parameter. -/
theorem index?_eq_some_iff {placement : Placement} {index : Nat} :
    placement.index? = some index ↔ placement = .parameter index := by
  cases placement <;> simp [index?]

end Placement

namespace ConstructionPlan

variable {w : World} {type : TypeHandle} {params : List ParameterInfo} {input : NamedValue}
  {inputs done : List NamedValue} {placement : Placement} {placements : List Placement}
  {draft next : Draft} {plan : ConstructionPlan}

/-! ### Places and costs -/

/-- How the value of an input reaches its place, if it has one that it fits. -/
def reach (w : World) (type : TypeHandle) (params : List ParameterInfo) (input : NamedValue) :
    Placement → Option Fit
  | .parameter index => params[index]?.bind fun param => w.fit input.2 param.type
  | .member _ =>
    match memberFor w.registry type input.1 with
    | .ok (some (_, memberType)) => w.fit input.2 memberType
    | _ => none
  | .unused => none

/-- A placement suits an input: it is bound to a parameter of an equal name, ignoring case, or
stored in the member for its name, and its value fits there. An input without a place has no member
either. -/
inductive Suits (w : World) (type : TypeHandle) (params : List ParameterInfo)
    (input : NamedValue) : Placement → Prop
  | parameter {index : Nat} {param : ParameterInfo} {fit : Fit} :
      params[index]? = some param → namesEqual param.name input.1 true = true →
      w.fit input.2 param.type = some fit → Suits w type params input (.parameter index)
  | member {member : MemberTarget} {memberType : TypeHandle} {fit : Fit} :
      memberFor w.registry type input.1 = .ok (some (member, memberType)) →
      w.fit input.2 memberType = some fit → Suits w type params input (.member member)
  | unused : memberFor w.registry type input.1 = .ok none → Suits w type params input .unused

/-- How many values are converted on their way. -/
def conversions (w : World) (type : TypeHandle) (params : List ParameterInfo)
    (placed : List (Placement × NamedValue)) : Nat :=
  placed.countP fun (placement, input) => reach w type params input placement = some .converted

/-- Whether every input that is bound to a parameter stands at that parameter's position. -/
def inOrder (placements : List Placement) : Bool :=
  placements.zipIdx.all fun (placement, position) => placement.index?.all (· == position)

/-- What it costs to place inputs like this. -/
def costOf (w : World) (type : TypeHandle) (params : List ParameterInfo)
    (inputs : List NamedValue) (placements : List Placement) : Nat :=
  let converted := conversions w type params (placements.zip inputs)
  memberCost * placements.countP Placement.isMember + conversionCost * converted +
    (if placements.countP Placement.isPlaced = params.length then 0 else partialCost) +
    (if inOrder placements then 0 else reorderCost) +
    (if converted = 0 then 0 else anyConversionCost)

/-! ### Placing one input -/

/-- A parameter that is found is a free one of an equal name that the value fits. -/
theorem matchParam_eq_found {used : List Nat} {soFar : Match} {entries : List (ParameterInfo × Nat)}
    {index : Nat} {fit : Fit} (h : matchParam w input used soFar entries = .found index fit) :
    soFar = .found index fit ∨ ∃ param, (param, index) ∈ entries ∧ index ∉ used ∧
      namesEqual param.name input.1 true = true ∧ w.fit input.2 param.type = some fit := by
  induction entries generalizing soFar with
  | nil => exact .inl h
  | cons entry rest ih =>
      obtain ⟨param, position⟩ := entry
      rw [matchParam] at h
      split at h
      · -- The parameter is taken or has another name.
        refine (ih h).imp_right fun ⟨found, hmem, hfound⟩ => ⟨found, .tail _ hmem, hfound⟩
      · next hfree =>
          simp only [Bool.or_eq_true, List.contains_iff_mem, Bool.not_eq_true', not_or,
            Bool.not_eq_false] at hfree
          split at h
          · next fit' hfit =>
              obtain ⟨rfl, rfl⟩ := Match.found.inj h
              exact .inr ⟨param, List.mem_cons_self, hfree.1, hfree.2, hfit⟩
          · rcases ih h with hmismatch | ⟨found, hmem, hfound⟩
            · cases hmismatch
            · exact .inr ⟨found, .tail _ hmem, hfound⟩

/-- An input is bound to a free parameter, stored in a member, or left out. -/
theorem placeInput_cases (h : placeInput w type params draft input = .ok next) :
    (∃ index param fit, params[index]? = some param ∧ index ∉ draft.used ∧
      namesEqual param.name input.1 true = true ∧ w.fit input.2 param.type = some fit ∧
      next = { draft.place (.parameter index) fit 0 with
        used := index :: draft.used
        inOrder := draft.inOrder && index == draft.placements.length }) ∨
    (∃ member memberType fit,
      memberFor w.registry type input.1 = .ok (some (member, memberType)) ∧
      w.fit input.2 memberType = some fit ∧ next = draft.place (.member member) fit memberCost) ∨
    (memberFor w.registry type input.1 = .ok none ∧
      next = { draft with placements := .unused :: draft.placements }) := by
  unfold placeInput at h
  dsimp only at h
  split at h
  · next index fit hfound =>
      rcases matchParam_eq_found hfound with himpossible | ⟨param, hmem, hfree, hname, hfit⟩
      · cases himpossible
      · exact .inl ⟨index, param, fit, List.mem_zipIdx_iff_getElem?.mp hmem, hfree, hname, hfit,
          (Except.ok.inj h).symm⟩
  · next other hother =>
      right
      cases hmember : memberFor w.registry type input.1 with
      | error e => simp [hmember, bind, Except.bind] at h
      | ok target =>
          simp only [hmember, bind, Except.bind] at h
          split at h
          · next member memberType =>
              split at h
              · next fit hfit =>
                  exact .inl ⟨member, memberType, fit, rfl, hfit, (Except.ok.inj h).symm⟩
              · cases h
              · cases h
          · cases h
          · exact .inr ⟨rfl, (Except.ok.inj h).symm⟩

/-! ### Drafts -/

/-- A value that is bound to a parameter reaches it as it fits the parameter's type. -/
theorem reach_parameter {index : Nat} {param : ParameterInfo} (h : params[index]? = some param) :
    reach w type params input (.parameter index) = w.fit input.2 param.type := by
  simp [reach, h]

/-- A value that is stored in a member reaches it as it fits the member's type. -/
theorem reach_member {member : MemberTarget} {memberType : TypeHandle}
    (h : memberFor w.registry type input.1 = .ok (some (member, memberType))) :
    reach w type params input (.member member) = w.fit input.2 memberType := by
  simp [reach, h]

/-- One more placement may be one more conversion. -/
theorem conversions_concat (placed : List (Placement × NamedValue)) :
    conversions w type params (placed ++ [(placement, input)]) =
      conversions w type params placed +
        if reach w type params input placement = some .converted then 1 else 0 := by
  simp [conversions, List.countP_append, List.countP_cons]

/-- One more placement is in order when it is bound to the parameter at its position, if at all. -/
theorem inOrder_concat (placements : List Placement) :
    inOrder (placements ++ [placement]) =
      (inOrder placements && placement.index?.all (· == placements.length)) := by
  simp [inOrder, List.zipIdx_append]

/-- A draft says of the inputs so far what it should: the placements suit them, no parameter is
taken twice, and the counters are those of the placements. -/
structure Draft.Sound (w : World) (type : TypeHandle) (params : List ParameterInfo)
    (done : List NamedValue) (draft : Draft) : Prop where
  suits : List.Forall₂ (Suits w type params) done draft.placements.reverse
  used : draft.used = draft.placements.filterMap Placement.index?
  nodup : draft.used.Nodup
  cost : draft.cost = memberCost * draft.placements.countP Placement.isMember +
    conversionCost * conversions w type params (draft.placements.reverse.zip done)
  inOrder : draft.inOrder = ConstructionPlan.inOrder draft.placements.reverse
  converted : draft.converted = true ↔
    conversions w type params (draft.placements.reverse.zip done) ≠ 0
  placed : draft.placed = draft.placements.countP Placement.isPlaced

/-- There is a placement for each input so far. -/
theorem Draft.Sound.length_eq (h : draft.Sound w type params done) :
    draft.placements.length = done.length := by
  simpa using h.suits.length_eq.symm

/-- A draft stays sound with one more placement that suits its input, if the parameter is free and
the counters go along. -/
theorem Draft.Sound.push (h : draft.Sound w type params done)
    (hsuits : Suits w type params input placement)
    (hfree : ∀ index, placement.index? = some index → index ∉ draft.used)
    (hplacements : next.placements = placement :: draft.placements)
    (hused : next.used = placement.index?.toList ++ draft.used)
    (hcost : next.cost = draft.cost + (if placement.isMember then memberCost else 0) +
      if reach w type params input placement = some .converted then conversionCost else 0)
    (hinOrder : next.inOrder =
      (draft.inOrder && placement.index?.all (· == draft.placements.length)))
    (hconverted : next.converted = true ↔
      draft.converted = true ∨ reach w type params input placement = some .converted)
    (hplaced : next.placed = draft.placed + if placement.isPlaced then 1 else 0) :
    next.Sound w type params (done ++ [input]) := by
  have hreverse : next.placements.reverse = draft.placements.reverse ++ [placement] := by
    rw [hplacements, List.reverse_cons]
  have hzip : next.placements.reverse.zip (done ++ [input]) =
      draft.placements.reverse.zip done ++ [(placement, input)] := by
    rw [hreverse, List.zip_append (by simpa using h.length_eq)]
    rfl
  refine ⟨?suits, ?used, ?nodup, ?cost, ?inOrder, ?converted, ?placed⟩
  case suits =>
    rw [hreverse]
    exact List.rel_append h.suits (.cons hsuits .nil)
  case used =>
    rw [hused, h.used, hplacements, List.filterMap_cons]
    cases placement.index? <;> rfl
  case nodup =>
    rw [hused]
    cases hindex : placement.index? with
    | none => exact h.nodup
    | some index => exact List.nodup_cons.mpr ⟨hfree index hindex, h.nodup⟩
  case cost =>
    rw [hcost, h.cost, hzip, conversions_concat, hplacements, List.countP_cons, Nat.mul_add,
      Nat.mul_add]
    split <;> split <;> omega
  case inOrder =>
    rw [hinOrder, h.inOrder, hreverse, inOrder_concat, List.length_reverse]
  case converted =>
    rw [hconverted, h.converted, hzip, conversions_concat]
    split <;> simp_all
  case placed =>
    rw [hplaced, h.placed, hplacements, List.countP_cons]

/-- Placing an input keeps a draft sound. -/
theorem Draft.Sound.placeInput (h : draft.Sound w type params done)
    (hstep : ConstructionPlan.placeInput w type params draft input = .ok next) :
    next.Sound w type params (done ++ [input]) := by
  rcases placeInput_cases hstep with
    ⟨index, param, fit, hparam, hfree, hname, hfit, rfl⟩ |
    ⟨member, memberType, fit, hmember, hfit, rfl⟩ | ⟨hnone, rfl⟩
  · have hreach : reach w type params input (.parameter index) = some fit :=
      (reach_parameter hparam).trans hfit
    refine h.push (.parameter hparam hname hfit) ?_ rfl rfl ?_ rfl ?_ rfl
    · rintro _ ⟨⟩
      exact hfree
    · simp [Draft.place, Placement.isMember, hreach]
    · simp [Draft.place, hreach]
  · have hreach : reach w type params input (.member member) = some fit :=
      (reach_member hmember).trans hfit
    refine h.push (.member hmember hfit) ?_ rfl rfl ?_ ?_ ?_ rfl
    · rintro _ ⟨⟩
    · simp [Draft.place, Placement.isMember, hreach]
    · simp [Draft.place, Placement.index?]
    · simp [Draft.place, hreach]
  · refine h.push (.unused hnone) ?_ rfl rfl ?_ ?_ ?_ rfl
    · rintro _ ⟨⟩
    · simp [Placement.isMember, reach]
    · simp [Placement.index?]
    · simp [reach]

/-- Placing all inputs keeps a draft sound. -/
theorem Draft.Sound.foldlM (h : draft.Sound w type params done)
    (hsteps : inputs.foldlM (ConstructionPlan.placeInput w type params) draft = .ok next) :
    next.Sound w type params (done ++ inputs) := by
  -- The inputs so far are those of the draft that the step leaves to the rest.
  induction inputs generalizing draft done with
  | nil =>
      obtain rfl : draft = next := Except.ok.inj hsteps
      simpa using h
  | cons input rest ih =>
      rw [List.foldlM_cons] at hsteps
      cases hplaced : ConstructionPlan.placeInput w type params draft input with
      | error e => simp [hplaced, bind, Except.bind] at hsteps
      | ok placed =>
          have hrest := ih (h.placeInput hplaced)
            (by simpa [hplaced, bind, Except.bind] using hsteps)
          rwa [List.append_assoc] at hrest

/-- Nothing has been placed at the start. -/
theorem Draft.sound_empty : Draft.Sound w type params [] ⟨[], [], 0, true, false, 0⟩ where
  suits := .nil
  used := rfl
  nodup := .nil
  cost := rfl
  inOrder := rfl
  converted := by simp [conversions]
  placed := rfl

/-! ### Plans -/

/-- No two inputs are bound to one parameter. -/
theorem position_unique (h : (placements.filterMap Placement.index?).Nodup) {index j k : Nat}
    (hj : placements[j]? = some (.parameter index))
    (hk : placements[k]? = some (.parameter index)) : j = k := by
  obtain ⟨hjlt, hj⟩ := List.getElem?_eq_some_iff.mp hj
  obtain ⟨hklt, hk⟩ := List.getElem?_eq_some_iff.mp hk
  have hapart := List.pairwise_iff_getElem.mp (List.pairwise_filterMap.mp h)
  have hindex : (Placement.parameter index).index? = some index := rfl
  rcases Nat.lt_trichotomy j k with hlt | heq | hgt
  · exact absurd rfl (hapart j k hjlt hklt hlt index (hj ▸ hindex) index (hk ▸ hindex))
  · exact heq
  · exact absurd rfl (hapart k j hklt hjlt hgt index (hk ▸ hindex) index (hj ▸ hindex))

/-- What a plan says: each input has a place that suits it, each parameter has one input, and the
cost is that of the placements. -/
structure Sound (w : World) (type : TypeHandle) (inputs : List NamedValue)
    (params : List ParameterInfo) (plan : ConstructionPlan) : Prop where
  params_eq : plan.params = params.map (·.type)
  suits : List.Forall₂ (Suits w type params) inputs plan.placements
  bound : ∀ index < params.length,
    ∃! position : Nat, plan.placements[position]? = some (.parameter index)
  cost_eq : plan.cost = costOf w type params inputs plan.placements

/-- The plan that a finished draft becomes. -/
def Draft.finish (params : List ParameterInfo) (draft : Draft) : ConstructionPlan where
  params := params.map (·.type)
  placements := draft.placements.reverse
  cost := draft.cost + (if draft.placed = params.length then 0 else partialCost) +
    (if draft.inOrder then 0 else reorderCost) + (if draft.converted then anyConversionCost else 0)

/-- Planning ends with a sound draft of all inputs. It gives a plan when each parameter is taken. -/
theorem ofParams_eq_ok {result : Option ConstructionPlan}
    (h : ofParams w type inputs params = .ok result) :
    ∃ draft : Draft, draft.Sound w type params inputs ∧
      ((∀ index < params.length, index ∈ draft.used) ∧ result = some (draft.finish params) ∨
        (∃ index < params.length, index ∉ draft.used) ∧ result = none) := by
  unfold ofParams at h
  cases hdraft : inputs.foldlM (placeInput w type params) ⟨[], [], 0, true, false, 0⟩ with
  | error e => simp [hdraft, bind, Except.bind] at h
  | ok draft =>
      refine ⟨draft, Draft.sound_empty.foldlM hdraft, ?_⟩
      simp only [hdraft, bind, Except.bind] at h
      split at h
      · next hall =>
          simp only [List.all_eq_true, List.mem_range, List.contains_iff_mem] at hall
          exact .inl ⟨hall, (Except.ok.inj h).symm⟩
      · next hsome =>
          simp only [List.all_eq_true, List.mem_range, List.contains_iff_mem, not_forall] at hsome
          obtain ⟨index, hindex, hfree⟩ := hsome
          exact .inr ⟨⟨index, hindex, hfree⟩, (Except.ok.inj h).symm⟩

/-- A parameter is taken exactly when an input is bound to it. -/
theorem Draft.Sound.mem_used_iff (h : draft.Sound w type params done) {index : Nat} :
    index ∈ draft.used ↔
      ∃ position : Nat, draft.placements.reverse[position]? = some (.parameter index) := by
  rw [h.used, List.mem_filterMap, ← List.mem_iff_getElem?, List.mem_reverse]
  simp only [Placement.index?_eq_some_iff, exists_eq_right]

/-- A sound draft that takes every parameter becomes a sound plan. -/
theorem Draft.Sound.finish (h : draft.Sound w type params inputs)
    (hall : ∀ index < params.length, index ∈ draft.used) :
    (draft.finish params).Sound w type inputs params := by
  refine ⟨rfl, h.suits, fun index hindex => ?bound, ?cost⟩
  case bound =>
    obtain ⟨position, hposition⟩ := h.mem_used_iff.mp (hall index hindex)
    refine ⟨position, hposition, fun other hother => position_unique ?_ hother hposition⟩
    show (draft.placements.reverse.filterMap Placement.index?).Nodup
    rw [List.filterMap_reverse, ← h.used]
    exact List.nodup_reverse.mpr h.nodup
  case cost =>
    show draft.cost + _ + _ + _ = costOf w type params inputs draft.placements.reverse
    have hplaced : draft.placements.reverse.countP Placement.isPlaced = draft.placed := by
      rw [List.countP_reverse, h.placed]
    have hmembers : draft.placements.reverse.countP Placement.isMember =
        draft.placements.countP Placement.isMember := List.countP_reverse
    simp only [costOf, hplaced, hmembers, ← h.inOrder, h.cost]
    congr 1
    -- The flag says whether there have been any conversions.
    by_cases hzero : conversions w type params (draft.placements.reverse.zip inputs) = 0
    · have hnone : draft.converted = false := by simpa [hzero] using h.converted
      simp [hzero, hnone]
    · simp [hzero, h.converted.mpr hzero]

/-- Every plan that is made is sound. -/
theorem ofParams_sound (h : ofParams w type inputs params = .ok (some plan)) :
    plan.Sound w type inputs params := by
  obtain ⟨draft, hdraft, ⟨hall, hplan⟩ | ⟨-, himpossible⟩⟩ := ofParams_eq_ok h
  · obtain rfl := Option.some.inj hplan
    exact hdraft.finish hall
  · cases himpossible

/-! ### Which plans there are -/

/-- An input can be bound to a parameter: the names are equal, ignoring case, and the value fits. -/
def Serves (w : World) (param : ParameterInfo) (input : NamedValue) : Prop :=
  namesEqual param.name input.1 true = true ∧ (w.fit input.2 param.type).isSome = true

/-- No input has the name of two parameters. -/
def Unambiguous (params : List ParameterInfo) (inputs : List NamedValue) : Prop :=
  ∀ input ∈ inputs, ∀ (j k : Nat) p q, params[j]? = some p → params[k]? = some q →
    namesEqual p.name input.1 true = true → namesEqual q.name input.1 true = true → j = k

/-- A parameter is found when an input serves a free one. -/
theorem exists_matchParam {used : List Nat} {soFar : Match} {entries : List (ParameterInfo × Nat)}
    {param : ParameterInfo} {index : Nat} (hmem : (param, index) ∈ entries)
    (hfree : index ∉ used) (hserves : Serves w param input) :
    ∃ found fit, matchParam w input used soFar entries = .found found fit := by
  induction entries generalizing soFar with
  | nil => cases hmem
  | cons entry rest ih =>
      obtain ⟨first, position⟩ := entry
      rw [matchParam]
      cases hmem with
      | head =>
          obtain ⟨fit, hfit⟩ := Option.isSome_iff_exists.mp hserves.2
          rw [if_neg (by simp [hfree, hserves.1]), hfit]
          exact ⟨_, _, rfl⟩
      | tail _ hlater =>
          split
          · exact ih hlater
          · split
            · exact ⟨_, _, rfl⟩
            · exact ih hlater

/-- A parameter stays taken. -/
theorem used_subset_placeInput (hstep : placeInput w type params draft input = .ok next) :
    draft.used ⊆ next.used := by
  rcases placeInput_cases hstep with
    ⟨index, param, fit, -, -, -, -, rfl⟩ | ⟨member, memberType, fit, -, -, rfl⟩ | ⟨-, rfl⟩
  · exact List.subset_cons_self _ _
  · exact List.Subset.refl _
  · exact List.Subset.refl _

/-- A parameter is taken after an input that serves it, and no other one of its name. -/
theorem mem_used_placeInput {param : ParameterInfo} {index : Nat}
    (hunambiguous : Unambiguous params [input]) (hparam : params[index]? = some param)
    (hserves : Serves w param input)
    (hstep : placeInput w type params draft input = .ok next) : index ∈ next.used := by
  by_cases hused : index ∈ draft.used
  · exact used_subset_placeInput hstep hused
  · obtain ⟨other, fit, hfound⟩ : ∃ other fit,
        matchParam w input draft.used .missing params.zipIdx = .found other fit :=
      exists_matchParam (List.mem_zipIdx_iff_getElem?.mpr hparam) hused hserves
    rcases matchParam_eq_found hfound with himpossible | ⟨otherParam, hmem, -, hname, -⟩
    · cases himpossible
    · -- The parameter that is found has the name of the input too, so it is this one.
      have hother : params[other]? = some otherParam := List.mem_zipIdx_iff_getElem?.mp hmem
      obtain rfl : index = other := hunambiguous input List.mem_cons_self index other param
        otherParam hparam hother hserves.1 hname
      unfold placeInput at hstep
      simp only [hfound] at hstep
      obtain rfl := Except.ok.inj hstep
      exact List.mem_cons_self

/-- A parameter is taken in the end when an input serves it. -/
theorem mem_used_foldlM {param : ParameterInfo} {index : Nat}
    (hunambiguous : Unambiguous params inputs) (hparam : params[index]? = some param)
    (hserves : index ∈ draft.used ∨ ∃ input ∈ inputs, Serves w param input)
    (hsteps : inputs.foldlM (placeInput w type params) draft = .ok next) : index ∈ next.used := by
  -- A parameter is taken already, or it will be by an input that is still to come.
  induction inputs generalizing draft with
  | nil =>
      obtain rfl : draft = next := Except.ok.inj hsteps
      simpa using hserves
  | cons input rest ih =>
      rw [List.foldlM_cons] at hsteps
      cases hplaced : placeInput w type params draft input with
      | error e => simp [hplaced, bind, Except.bind] at hsteps
      | ok placed =>
          refine ih (fun other hother => hunambiguous other (.tail _ hother)) ?_
            (by simpa [hplaced, bind, Except.bind] using hsteps)
          rcases hserves with hused | ⟨server, hmem, hserves⟩
          · exact .inl (used_subset_placeInput hplaced hused)
          · cases hmem with
            | head =>
                refine .inl (mem_used_placeInput (fun other hother => ?_) hparam hserves hplaced)
                obtain rfl := List.mem_singleton.mp hother
                exact hunambiguous other List.mem_cons_self
            | tail _ hlater => exact .inr ⟨server, hlater, hserves⟩

/-- While no input has the name of two parameters, there is a plan exactly when each parameter has
an input that serves it. -/
theorem isSome_ofParams_iff (hunambiguous : Unambiguous params inputs)
    {result : Option ConstructionPlan} (h : ofParams w type inputs params = .ok result) :
    result.isSome = true ↔ ∀ param ∈ params, ∃ input ∈ inputs, Serves w param input := by
  constructor
  · intro hsome param hmem
    obtain ⟨plan, rfl⟩ := Option.isSome_iff_exists.mp hsome
    have hsound := ofParams_sound h
    obtain ⟨index, hindex⟩ := List.getElem?_of_mem hmem
    obtain ⟨position, hposition, -⟩ :=
      hsound.bound index (List.getElem?_eq_some_iff.mp hindex).1
    obtain ⟨hlt, hplacement⟩ := List.getElem?_eq_some_iff.mp hposition
    have hlt' : position < inputs.length := hsound.suits.length_eq ▸ hlt
    have hsuits := hsound.suits.get hlt' hlt
    simp only [List.get_eq_getElem, hplacement] at hsuits
    refine ⟨inputs[position], List.getElem_mem hlt', ?_⟩
    cases hsuits with
    | parameter hparam hname hfit =>
        obtain rfl := Option.some.inj (hindex.symm.trans hparam)
        exact ⟨hname, by simp [hfit]⟩
  · intro hall
    unfold ofParams at h
    cases hdraft : inputs.foldlM (placeInput w type params) ⟨[], [], 0, true, false, 0⟩ with
    | error e => simp [hdraft, bind, Except.bind] at h
    | ok draft =>
        have hused : ∀ index < params.length, index ∈ draft.used := by
          intro index hindex
          have hparam := List.getElem?_eq_getElem hindex
          exact mem_used_foldlM hunambiguous hparam
            (.inr (hall _ (List.getElem_mem hindex))) hdraft
        have htaken : ((List.range params.length).all (draft.used.contains ·)) = true := by
          simpa using hused
        simp only [hdraft, bind, Except.bind, htaken, if_true] at h
        obtain rfl := Except.ok.inj h
        rfl

/-! ### The choice among plans -/

section Choice

variable {results : List (Option ConstructionPlan)} {best chosen : ConstructionPlan}

/-- At a position there is a plan that costs no more than any other, and less than those before. -/
def FirstCheapest (results : List (Option ConstructionPlan)) (k : Nat)
    (chosen : ConstructionPlan) : Prop :=
  results[k]? = some (some chosen) ∧
    ∀ (j : Nat) plan, results[j]? = some (some plan) →
      chosen.cost ≤ plan.cost ∧ (j < k → chosen.cost < plan.cost)

/-- A plan comes first when no later one costs less. -/
theorem firstCheapest_zero (h : ∀ plan, some plan ∈ results → best.cost ≤ plan.cost) :
    FirstCheapest (some best :: results) 0 best := by
  refine ⟨rfl, fun j plan hplan => ⟨?_, fun hj => absurd hj (Nat.not_lt_zero j)⟩⟩
  cases List.mem_of_getElem? hplan with
  | head => exact Nat.le_refl _
  | tail _ hlater => exact h plan hlater

/-- A plan before the others leaves the choice alone when it costs more, and so does none. -/
theorem FirstCheapest.cons {k : Nat} (h : FirstCheapest results k chosen)
    {first : Option ConstructionPlan}
    (hfirst : ∀ plan, first = some plan → chosen.cost < plan.cost) :
    FirstCheapest (first :: results) (k + 1) chosen := by
  refine ⟨h.1, fun j plan hplan => ?_⟩
  cases j with
  | zero =>
      have hlt := hfirst plan (Option.some.inj hplan)
      exact ⟨Nat.le_of_lt hlt, fun _ => hlt⟩
  | succ j =>
      obtain ⟨hle, hlt⟩ := h.2 j plan hplan
      exact ⟨hle, fun hj => hlt (Nat.lt_of_succ_lt_succ hj)⟩

/-- The best plan so far stays when no later one costs less. Otherwise the first of the cheapest
later ones takes its place. -/
theorem foldl_cheaper_eq_some
    (h : (results.filterMap id).foldl cheaper (some best) = some chosen) :
    (chosen = best ∧ ∀ plan, some plan ∈ results → best.cost ≤ plan.cost) ∨
      (chosen.cost < best.cost ∧ ∃ k, FirstCheapest results k chosen) := by
  induction results generalizing best with
  | nil => exact .inl ⟨(Option.some.inj h).symm, by simp⟩
  | cons result rest ih =>
      cases result with
      | none =>
          rcases ih h with ⟨hbest, hall⟩ | ⟨hlt, k, hk⟩
          · exact .inl ⟨hbest, by simpa using hall⟩
          · exact .inr ⟨hlt, k + 1, hk.cons (by simp)⟩
      | some plan =>
          have hstep : (rest.filterMap id).foldl cheaper
              (if plan.cost < best.cost then some plan else some best) = some chosen := h
          split at hstep
          · -- The next plan costs less.
            next hcheaper =>
            rcases ih hstep with ⟨rfl, hall⟩ | ⟨hlt, k, hk⟩
            · exact .inr ⟨hcheaper, 0, firstCheapest_zero hall⟩
            · refine .inr ⟨Nat.lt_trans hlt hcheaper, k + 1, hk.cons ?_⟩
              rintro _ ⟨⟩
              exact hlt
          · next hkept =>
            rcases ih hstep with ⟨hbest, hall⟩ | ⟨hlt, k, hk⟩
            · refine .inl ⟨hbest, fun other hother => ?_⟩
              cases hother with
              | head => exact Nat.le_of_not_lt hkept
              | tail _ hlater => exact hall other hlater
            · refine .inr ⟨hlt, k + 1, hk.cons ?_⟩
              rintro _ ⟨⟩
              exact Nat.lt_of_lt_of_le hlt (Nat.le_of_not_lt hkept)

/-- The plan that is taken is the first of the cheapest. -/
theorem firstCheapest_of_cheapest (h : cheapest (results.filterMap id) = some chosen) :
    ∃ k, FirstCheapest results k chosen := by
  induction results with
  | nil => cases h
  | cons result rest ih =>
      cases result with
      | none =>
          obtain ⟨k, hk⟩ := ih h
          exact ⟨k + 1, hk.cons (by simp)⟩
      | some plan =>
          rcases foldl_cheaper_eq_some h with ⟨rfl, hall⟩ | ⟨hlt, k, hk⟩
          · exact ⟨0, firstCheapest_zero hall⟩
          · refine ⟨k + 1, hk.cons ?_⟩
            rintro _ ⟨⟩
            exact hlt

/-- One of several plans is taken. -/
theorem exists_cheapest {plans : List ConstructionPlan} (h : plans ≠ []) :
    ∃ chosen, cheapest plans = some chosen := by
  have hkept : ∀ (plans : List ConstructionPlan) best,
      ∃ chosen, plans.foldl cheaper (some best) = some chosen := by
    intro plans
    induction plans with
    | nil => exact fun best => ⟨best, rfl⟩
    | cons plan rest ih =>
        intro best
        rw [List.foldl_cons, cheaper]
        split
        · exact ih plan
        · exact ih best
  cases plans with
  | nil => exact absurd rfl h
  | cons plan rest => exact hkept rest plan

end Choice

end ConstructionPlan

end Introspect
