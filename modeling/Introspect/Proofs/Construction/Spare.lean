import Introspect.Proofs.Construction.Instances
import Mathlib.Data.List.InsertIdx

/-!
# `Introspect.Proofs.Construction.Spare`: inputs that are not used

An input is spare (`Spare`) when no parameter of a candidate has its name and no member is written
for it. One more spare input, at any position, is left out of every plan, and what is planned for
the other inputs stays as it was (`ofParams_insertIdx`). The inputs behind it stand one position
further back, though, and a plan is in order only when every input stands at the position of its
parameter. So the cost of the order may change, and with it the choice among the candidates.

`createWith_insertIdx` is the main result. Whether there is a plan never depends on a spare input.
As long as it changes no comparison between the costs of two plans (`OrderKept`), the same
constructor is run on the same arguments and the same members are written, and the whole session
ends the same; only the message about a missing constructor lists the inputs. This is so when no
input from the position on is bound to a parameter. `spare_input_takes_over` is an instance where
the choice is another one.
-/

set_option autoImplicit false

namespace Introspect

/-! ### Lists with one more item -/

section Lists

variable {α β : Type}

/-- An item that is left out is not missed. -/
theorem filterMap_insertIdx_of_none {f : α → Option β} {x : α} (hx : f x = none) (k : Nat)
    (items : List α) : (items.insertIdx k x).filterMap f = items.filterMap f := by
  induction items generalizing k with
  | nil => cases k <;> simp [hx]
  | cons item rest ih =>
      cases k with
      | zero => simp [hx]
      | succ k => simp [List.insertIdx_succ_cons, List.filterMap_cons, ih]

/-- An item that a fold skips is not missed. -/
theorem foldlM_insertIdx_of_skip {ε : Type} {step : β → α → Except ε β} {x : α}
    (hx : ∀ b, step b x = .ok b) (k : Nat) (items : List α) (b : β) :
    (items.insertIdx k x).foldlM step b = items.foldlM step b := by
  induction items generalizing k b with
  | nil => cases k <;> simp [hx, bind, Except.bind, pure, Except.pure]
  | cons item rest ih =>
      cases k with
      | zero => simp [hx, bind, Except.bind]
      | succ k => simp [List.insertIdx_succ_cons, List.foldlM_cons, ih]

/-- Within the first of two lists, an item goes into that list. -/
theorem insertIdx_append_of_le {front : List α} {k : Nat} (h : k ≤ front.length) (x : α)
    (back : List α) : (front ++ back).insertIdx k x = front.insertIdx k x ++ back := by
  induction front generalizing k with
  | nil =>
      obtain rfl : k = 0 := Nat.le_zero.mp h
      simp
  | cons first rest ih =>
      cases k with
      | zero => simp
      | succ k => simp [List.insertIdx_succ_cons, ih (Nat.le_of_succ_le_succ h)]

/-- Two lists of one length get one more item each at the same position. -/
theorem zip_insertIdx {as : List α} {bs : List β} (h : as.length = bs.length) (k : Nat) (a : α)
    (b : β) : (as.insertIdx k a).zip (bs.insertIdx k b) = (as.zip bs).insertIdx k (a, b) := by
  induction as generalizing k bs with
  | nil =>
      obtain rfl : bs = [] := List.length_eq_zero_iff.mp h.symm
      cases k <;> simp
  | cons first rest ih =>
      cases bs with
      | nil => cases h
      | cons first' rest' =>
          cases k with
          | zero => simp
          | succ k =>
              have hrest := ih (Nat.succ.inj h) k
              simp [List.insertIdx_succ_cons, hrest]

/-- Results that differ in one function one by one differ in it all together. -/
theorem mapM_eq_map {ε γ : Type} {f : α → Except ε β} {g : α → Except ε γ} {change : β → γ}
    {items : List α} (h : ∀ item ∈ items, g item = (f item).map change) :
    items.mapM g = (items.mapM f).map (List.map change) := by
  induction items with
  | nil => rfl
  | cons item rest ih =>
      rw [List.mapM_cons, List.mapM_cons, h item List.mem_cons_self,
        ih fun other hother => h other (.tail _ hother)]
      cases f item with
      | error e => rfl
      | ok b => cases rest.mapM f <;> rfl

end Lists

namespace ConstructionPlan

variable {w : World} {type : TypeHandle} {params : List ParameterInfo} {input extra : NamedValue}
  {inputs done : List NamedValue} {draft other next : Draft} {plan : ConstructionPlan} {k : Nat}

/-! ### Placing an input that is not used -/

/-- No parameter is found by a name that none has. -/
theorem matchParam_of_unnamed {used : List Nat} {soFar : Match}
    {entries : List (ParameterInfo × Nat)}
    (h : ∀ entry ∈ entries, namesEqual entry.1.name input.1 true = false) :
    matchParam w input used soFar entries = soFar := by
  induction entries with
  | nil => rfl
  | cons entry rest ih =>
      obtain ⟨param, position⟩ := entry
      have hname : namesEqual param.name input.1 true = false := h _ List.mem_cons_self
      rw [matchParam, if_pos (by simp [hname])]
      exact ih fun other hother => h other (.tail _ hother)

/-- An input is left out when no parameter has its name and no member is written for it. -/
theorem placeInput_of_unnamed
    (hparams : ∀ param ∈ params, namesEqual param.name input.1 true = false)
    (hmember : memberFor w.registry type input.1 = .ok none) :
    placeInput w type params draft input =
      .ok { draft with placements := .unused :: draft.placements } := by
  have hmissing : matchParam w input draft.used .missing params.zipIdx = .missing := by
    refine matchParam_of_unnamed fun entry hentry => hparams _ ?_
    exact List.mem_of_getElem? (List.mem_zipIdx_iff_getElem?.mp hentry)
  unfold placeInput
  simp only [hmissing, hmember, bind, Except.bind]
  rfl

/-! ### Drafts beside each other -/

/-- A draft says the same as another one, but for an input at position `k` that is left out. Whether
the inputs are in order is not compared. -/
structure Draft.Beside (k : Nat) (draft other : Draft) : Prop where
  used : other.used = draft.used
  cost : other.cost = draft.cost
  converted : other.converted = draft.converted
  placed : other.placed = draft.placed
  placements : other.placements.reverse = draft.placements.reverse.insertIdx k .unused

/-- Two placings that fail alike, or lead to drafts beside each other. -/
inductive Draft.Paired (k : Nat) : Except ReflectError Draft → Except ReflectError Draft → Prop
  | error (e : ReflectError) : Paired k (.error e) (.error e)
  | ok {draft other : Draft} : draft.Beside k other → Paired k (.ok draft) (.ok other)

/-- Placing an input adds one placement. -/
theorem length_placeInput (h : placeInput w type params draft input = .ok next) :
    next.placements.length = draft.placements.length + 1 := by
  rcases placeInput_cases h with ⟨index, param, fit, -, -, -, -, rfl⟩ |
    ⟨member, memberType, fit, -, -, rfl⟩ | ⟨-, rfl⟩ <;> rfl

/-- An input behind the position is placed in both drafts alike, or in neither. -/
theorem Draft.Beside.placeInput (h : draft.Beside k other) (hk : k ≤ draft.placements.length)
    (w : World) (type : TypeHandle) (params : List ParameterInfo) (input : NamedValue) :
    Draft.Paired k (ConstructionPlan.placeInput w type params draft input)
      (ConstructionPlan.placeInput w type params other input) := by
  -- One more placement comes behind the position in both.
  have hpush : ∀ placement : Placement,
      (placement :: other.placements).reverse =
        (placement :: draft.placements).reverse.insertIdx k .unused := by
    intro placement
    rw [List.reverse_cons, List.reverse_cons, h.placements,
      insertIdx_append_of_le (by simpa using hk)]
  have hplace : ∀ placement fit cost,
      (draft.place placement fit cost).Beside k (other.place placement fit cost) := by
    intro placement fit cost
    refine ⟨h.used, ?_, ?_, ?_, hpush placement⟩
    · simp only [Draft.place, h.cost]
    · simp only [Draft.place, h.converted]
    · simp only [Draft.place, h.placed]
  unfold ConstructionPlan.placeInput
  dsimp only
  rw [h.used]
  -- Both drafts have used the same parameters, so both find the same one for the input, or none.
  split
  · next index fit hfound =>
      obtain ⟨-, hcost, hconverted, hplaced, hplacements⟩ := hplace (.parameter index) fit 0
      exact .ok ⟨congrArg (index :: ·) h.used, hcost, hconverted, hplaced, hplacements⟩
  · next found hfound =>
      cases memberFor w.registry type input.1 with
      | error e => exact .error e
      | ok target =>
          simp only [bind, Except.bind]
          split
          · next member memberType =>
              split
              · exact .ok (hplace _ _ _)
              · exact .error _
              · exact .error _
          · exact .error _
          · exact .ok ⟨rfl, h.cost, h.converted, h.placed, hpush _⟩

/-- The inputs behind the position are placed in both drafts alike, or an input fails in both. -/
theorem Draft.Beside.foldlM (h : draft.Beside k other) (hk : k ≤ draft.placements.length)
    (inputs : List NamedValue) :
    Draft.Paired k (inputs.foldlM (ConstructionPlan.placeInput w type params) draft)
      (inputs.foldlM (ConstructionPlan.placeInput w type params) other) := by
  induction inputs generalizing draft other with
  | nil => exact .ok h
  | cons input rest ih =>
      have hpaired := h.placeInput hk w type params input
      rw [List.foldlM_cons, List.foldlM_cons]
      generalize hplaced : ConstructionPlan.placeInput w type params draft input = out at hpaired ⊢
      generalize ConstructionPlan.placeInput w type params other input = out' at hpaired ⊢
      cases hpaired with
      | error e => exact .error e
      | ok hbeside => exact ih hbeside (by rw [length_placeInput hplaced]; omega)

/-- A draft that leaves out one more input stands beside the draft before it. -/
theorem Draft.beside_unused (draft : Draft) : draft.Beside draft.placements.length
    { draft with placements := .unused :: draft.placements } where
  used := rfl
  cost := rfl
  converted := rfl
  placed := rfl
  placements := by
    rw [← List.length_reverse, List.insertIdx_length_self, List.reverse_cons]

/-- One more input among those to be placed, which is left out, leads to a draft beside the one
without it. -/
theorem paired_foldlM_insertIdx
    (hparams : ∀ param ∈ params, namesEqual param.name extra.1 true = false)
    (hmember : memberFor w.registry type extra.1 = .ok none) (k : Nat) (inputs : List NamedValue)
    (draft : Draft) :
    Draft.Paired (draft.placements.length + k) (inputs.foldlM (placeInput w type params) draft)
      ((inputs.insertIdx k extra).foldlM (placeInput w type params) draft) := by
  have hskip : ∀ draft, placeInput w type params draft extra =
      .ok { draft with placements := .unused :: draft.placements } := fun _ =>
    placeInput_of_unnamed hparams hmember
  -- The position is counted from the inputs that are still to come.
  induction inputs generalizing k draft with
  | nil =>
      cases k with
      | zero =>
          rw [List.insertIdx_zero, List.foldlM_cons, hskip]
          exact .ok draft.beside_unused
      | succ k =>
          -- There is no such position, and the extra input is not among the others.
          refine .ok ⟨rfl, rfl, rfl, rfl, ?_⟩
          rw [List.insertIdx_of_length_lt (by rw [List.length_reverse]; omega)]
  | cons input rest ih =>
      cases k with
      | zero =>
          -- The extra input comes first, and all the others stand behind it.
          have hfirst : (extra :: input :: rest).foldlM (placeInput w type params) draft =
              (input :: rest).foldlM (placeInput w type params)
                { draft with placements := .unused :: draft.placements } := by
            rw [List.foldlM_cons, hskip]
            rfl
          rw [List.insertIdx_zero, hfirst]
          exact draft.beside_unused.foldlM (Nat.le_refl _) (input :: rest)
      | succ k =>
          rw [List.insertIdx_succ_cons, List.foldlM_cons, List.foldlM_cons]
          cases hplaced : placeInput w type params draft input with
          | error e => exact .error e
          | ok placed =>
              have hrest := ih k placed
              rwa [length_placeInput hplaced, Nat.add_right_comm, Nat.add_assoc] at hrest

/-! ### Plans with one more input -/

/-- What the order of the inputs costs. -/
def orderCost (placements : List Placement) : Nat := if inOrder placements then 0 else reorderCost

/-- The plan with one more input, at position `k`, that is left out. The inputs behind it stand one
position further back, so their order may cost something else. -/
def spaced (k : Nat) (plan : ConstructionPlan) : ConstructionPlan :=
  { plan with
    placements := plan.placements.insertIdx k .unused
    cost := plan.cost - orderCost plan.placements +
      orderCost (plan.placements.insertIdx k .unused) }

/-- Sound drafts beside each other become plans that differ in the input that is left out. -/
theorem Draft.Beside.finish {done' : List NamedValue} (h : draft.Beside k other)
    (hsound : draft.Sound w type params done) (hsound' : other.Sound w type params done') :
    other.finish params = (draft.finish params).spaced k := by
  -- A sound draft is in order when its placements are, so the order costs what they say.
  have hcost : (other.finish params).cost = ((draft.finish params).spaced k).cost := by
    simp only [Draft.finish, spaced, hsound.inOrder, hsound'.inOrder, h.cost, h.converted, h.placed,
      h.placements]
    show _ + orderCost _ + _ = _ + orderCost _ + _ - orderCost _ + orderCost _
    omega
  simp only [Draft.finish, spaced] at hcost ⊢
  rw [hcost, h.placements]

/-- One more input that is not used is left out of the plan, and nothing else is planned another
way: there is a plan for the same parameters, or none, or the same input fails. -/
theorem ofParams_insertIdx
    (hparams : ∀ param ∈ params, namesEqual param.name extra.1 true = false)
    (hmember : memberFor w.registry type extra.1 = .ok none) (k : Nat) (inputs : List NamedValue) :
    ofParams w type (inputs.insertIdx k extra) params =
      (ofParams w type inputs params).map (Option.map (spaced k)) := by
  have hpaired := paired_foldlM_insertIdx hparams hmember k inputs ⟨[], [], 0, true, false, 0⟩
  rw [List.length_nil, Nat.zero_add] at hpaired
  unfold ofParams
  generalize hdraft : inputs.foldlM (placeInput w type params) ⟨[], [], 0, true, false, 0⟩ = out
    at hpaired ⊢
  generalize hother : (inputs.insertIdx k extra).foldlM (placeInput w type params)
    ⟨[], [], 0, true, false, 0⟩ = out' at hpaired ⊢
  cases hpaired with
  | error e => rfl
  | ok hbeside =>
      have hsound := Draft.sound_empty.foldlM hdraft
      have hsound' := Draft.sound_empty.foldlM hother
      simp only [bind, Except.bind, hbeside.used]
      split
      · exact congrArg (fun plan => Except.ok (some plan)) (hbeside.finish hsound hsound')
      · rfl

/-- The inputs of a plan are in order when each one that is bound stands at the position of its
parameter. -/
theorem inOrder_iff {placements : List Placement} :
    inOrder placements = true ↔
      ∀ position index : Nat, placements[position]? = some (.parameter index) →
        index = position := by
  simp only [inOrder, List.all_eq_true, Prod.forall, List.mem_zipIdx_iff_getElem?]
  refine ⟨fun h position index hposition => ?_, fun h placement position hposition => ?_⟩
  · simpa [Placement.index?] using h (.parameter index) position hposition
  · cases placement with
    | parameter index => simpa [Placement.index?] using h position index hposition
    | _ => rfl

/-- While no input from a position on is bound to a parameter, one more input there that is left
out does not change what the order costs. -/
theorem spaced_cost_of_unbound
    (h : ∀ position index : Nat, plan.placements[position]? = some (.parameter index) →
      position < k) (hcost : orderCost plan.placements ≤ plan.cost) :
    (plan.spaced k).cost = plan.cost := by
  have horder : inOrder (plan.placements.insertIdx k .unused) = inOrder plan.placements := by
    rw [Bool.eq_iff_iff, inOrder_iff, inOrder_iff]
    have hsame : ∀ position index : Nat,
        (plan.placements.insertIdx k .unused)[position]? = some (.parameter index) ↔
          plan.placements[position]? = some (.parameter index) := by
      intro position index
      rcases Nat.lt_trichotomy position k with hlt | rfl | hgt
      · rw [List.getElem?_insertIdx_of_lt hlt]
      · refine ⟨fun hplaced => ?_, fun hplaced => absurd (h _ _ hplaced) (Nat.lt_irrefl _)⟩
        rw [List.getElem?_insertIdx_self] at hplaced
        split at hplaced <;> cases hplaced
      · rw [List.getElem?_insertIdx_of_gt hgt]
        refine ⟨fun hplaced => ?_, fun hplaced => ?_⟩
        · have hlt := h _ _ hplaced
          omega
        · have hlt := h _ _ hplaced
          omega
    simp only [hsame]
  simp only [spaced, orderCost] at hcost ⊢
  rw [horder]
  omega

/-- The order of the inputs is part of what a sound plan costs. -/
theorem Sound.orderCost_le (h : plan.Sound w type inputs params) :
    orderCost plan.placements ≤ plan.cost := by
  rw [h.cost_eq]
  show orderCost plan.placements ≤ _ + orderCost plan.placements + _
  omega

/-- The first of the cheapest plans stays so when each plan is changed and no comparison of costs
is. -/
theorem foldl_cheaper_map {f : ConstructionPlan → ConstructionPlan}
    (best : Option ConstructionPlan) {plans : List ConstructionPlan}
    (h : ∀ p ∈ best.toList ++ plans, ∀ q ∈ best.toList ++ plans,
      (f p).cost < (f q).cost ↔ p.cost < q.cost) :
    (plans.map f).foldl cheaper (best.map f) = (plans.foldl cheaper best).map f := by
  induction plans generalizing best with
  | nil => rfl
  | cons plan rest ih =>
      -- The better one of two plans is one of the plans that are compared anyway.
      have hstep : cheaper (best.map f) (f plan) = (cheaper best plan).map f := by
        cases best with
        | none => rfl
        | some b =>
            simp only [Option.map_some, cheaper, h plan (by simp) b (by simp)]
            split <;> rfl
      have hsubset : ∀ p ∈ (cheaper best plan).toList ++ rest, p ∈ best.toList ++ plan :: rest := by
        intro p hp
        cases best with
        | none => exact hp
        | some b =>
            simp only [cheaper] at hp
            split at hp <;> simp only [Option.toList_some, List.singleton_append,
              List.mem_cons] at hp ⊢ <;> tauto
      rw [List.map_cons, List.foldl_cons, List.foldl_cons, hstep]
      exact ih _ fun p hp q hq => h p (hsubset p hp) q (hsubset q hq)

end ConstructionPlan

namespace Reflector

open ConstructionPlan (ofParams)

variable {s : Session} {type : TypeHandle} {info : TypeInfo} {inputs more : List NamedValue}
  {extra : NamedValue} {params : List ParameterInfo} {plan : ConstructionPlan} {k : Nat}

/-- An input of this name is not used: no parameter of a candidate has the name, ignoring case, and
no member is written for it. -/
structure Spare (reg : Registry) (type : TypeHandle) (name : String) : Prop where
  unnamed : ∀ info, reg.get type = some info → ∀ params ∈ candidates info, ∀ param ∈ params,
    namesEqual param.name name true = false
  unwritten : ∀ info, reg.get type = some info →
    ConstructionPlan.memberFor reg type name = .ok none

/-- One more input at a position that is left out changes no comparison between the costs of two
plans. -/
def OrderKept (w : World) (type : TypeHandle) (inputs : List NamedValue) (k : Nat) : Prop :=
  ∀ info, w.registry.get type = some info →
    ∀ params ∈ candidates info, ∀ others ∈ candidates info, ∀ plan other,
      ofParams w type inputs params = .ok (some plan) →
      ofParams w type inputs others = .ok (some other) →
      ((plan.spaced k).cost < (other.spaced k).cost ↔ plan.cost < other.cost)

/-- The order of costs is kept when no input from the position on is bound to a parameter. -/
theorem orderKept_of_unbound {w : World}
    (h : ∀ info, w.registry.get type = some info → ∀ params ∈ candidates info, ∀ plan,
      ofParams w type inputs params = .ok (some plan) →
      ∀ position index : Nat, plan.placements[position]? = some (.parameter index) →
        position < k) : OrderKept w type inputs k := by
  intro info hinfo params hparams others hothers plan other hplan hother
  have hsame : ∀ params ∈ candidates info, ∀ plan, ofParams w type inputs params = .ok (some plan) →
      (plan.spaced k).cost = plan.cost := fun params hparams plan hplan =>
    ConstructionPlan.spaced_cost_of_unbound (h info hinfo params hparams plan hplan)
      (ConstructionPlan.ofParams_sound hplan).orderCost_le
  rw [hsame params hparams plan hplan, hsame others hothers other hother]

/-! ### Making the instance -/

/-- For a type that is not known, nothing is planned. -/
theorem run_planFor_of_unknown (hunknown : s.world.registry.get type = none) :
    (planFor type inputs).run s =
      (.error (.unknownType (s.world.registry.nameOf type)), s) := by
  have hqueried : Query.constructors s.world.registry type Flags.instanceAnyVisibility
      = .error (.unknownType (s.world.registry.nameOf type)) := by
    simp [Query.constructors, Registry.info, hunknown, bind, Except.bind]
  unfold planFor constructorParams
  simp only [run_bind, run_get, run_registry, run_ofRegistry, hqueried]

/-- Without a plan, a creation ends where the planning does. -/
theorem run_createWith_of_failed {e : ReflectError} {next : Session}
    (h : (planFor type inputs).run s = (.error e, next)) :
    (createWith type inputs).run s = (.error e, next) := by
  unfold createWith
  rw [run_bind, h]

/-- With one more input that is not used, the first of the cheapest plans is taken among those with
the input left out. -/
theorem run_planFor_insertIdx (hspare : Spare s.world.registry type extra.1)
    (hinfo : s.world.registry.get type = some info) (k : Nat) (inputs : List NamedValue) :
    (planFor type (inputs.insertIdx k extra)).run s =
      ((candidates info).mapM (ofParams s.world type inputs) >>= fun results =>
        (ConstructionPlan.cheapest
            ((results.filterMap id).map (ConstructionPlan.spaced k))).elim
          (.error (.constructorNotFound (s.world.registry.nameOf type)
            (describeInputs s.world (inputs.insertIdx k extra)))) .ok, s) := by
  have hplanned : (candidates info).mapM (ofParams s.world type (inputs.insertIdx k extra)) =
      ((candidates info).mapM (ofParams s.world type inputs)).map
        (List.map (Option.map (ConstructionPlan.spaced k))) :=
    mapM_eq_map fun params hparams =>
      ConstructionPlan.ofParams_insertIdx (hspare.unnamed info hinfo params hparams)
        (hspare.unwritten info hinfo) k inputs
  have hkept : ∀ results : List (Option ConstructionPlan),
      (results.map (Option.map (ConstructionPlan.spaced k))).filterMap id =
        (results.filterMap id).map (ConstructionPlan.spaced k) := by
    intro results
    rw [List.filterMap_map, List.map_filterMap]
    rfl
  rw [run_planFor hinfo, hplanned]
  cases (candidates info).mapM (ofParams s.world type inputs) with
  | error e => rfl
  | ok results =>
      simp only [Except.map, bind, Except.bind]
      rw [hkept]

/-- The arguments are the same, and so are the values for members. -/
theorem run_coerceInOrder_spaced (hsound : plan.Sound s.world type inputs params) (k : Nat)
    (extra : NamedValue) :
    (createWith.coerceInOrder (plan.spaced k)
        ((plan.spaced k).placements.zip (inputs.insertIdx k extra))).run s =
      (createWith.coerceInOrder plan (plan.placements.zip inputs)).run s := by
  rw [run_coerceInOrder, run_coerceInOrder]
  show ((((plan.placements.insertIdx k .unused).zip (inputs.insertIdx k extra)).foldlM
    (filled s.world plan.params) _).mapError _, s) = _
  rw [zip_insertIdx hsound.suits.length_eq.symm, foldlM_insertIdx_of_skip fun args => rfl]
  rfl

/-- A spare input is written into no member. -/
theorem memberWrites_spaced (hsound : plan.Sound s.world type inputs params) (k : Nat)
    (extra : NamedValue) :
    memberWrites (plan.spaced k) (inputs.insertIdx k extra) = memberWrites plan inputs := by
  show ((plan.placements.insertIdx k .unused).zip (inputs.insertIdx k extra)).filterMap _ = _
  rw [zip_insertIdx hsound.suits.length_eq.symm, filterMap_insertIdx_of_none rfl]
  rfl

/-- What is done with two lists of inputs comes to the same. -/
inductive Undisturbed (s : Session) (type : TypeHandle) (inputs more : List NamedValue) : Prop
  /-- the constructor of the same parameters is run, the same values are written, and the whole
  session ends the same -/
  | made {plan other : ConstructionPlan} :
      (planFor type inputs).run s = (.ok plan, s) → (planFor type more).run s = (.ok other, s) →
      other.params = plan.params → memberWrites other more = memberWrites plan inputs →
      (createWith type more).run s = (createWith type inputs).run s → Undisturbed s type inputs more
  /-- no candidate has a plan for either; the message lists the inputs -/
  | missed :
      (createWith type inputs).run s = (.error (.constructorNotFound
        (s.world.registry.nameOf type) (describeInputs s.world inputs)), s) →
      (createWith type more).run s = (.error (.constructorNotFound
        (s.world.registry.nameOf type) (describeInputs s.world more)), s) →
      Undisturbed s type inputs more
  /-- the planning fails in the same way for both -/
  | failed {e : ReflectError} :
      (createWith type inputs).run s = (.error e, s) →
      (createWith type more).run s = (.error e, s) → Undisturbed s type inputs more

/-- A plan and the one with one more input are carried out alike. -/
theorem undisturbed_of_spaced (hsound : plan.Sound s.world type inputs params)
    (hplan : (planFor type inputs).run s = (.ok plan, s))
    (hmore : (planFor type (inputs.insertIdx k extra)).run s = (.ok (plan.spaced k), s)) :
    Undisturbed s type inputs (inputs.insertIdx k extra) := by
  obtain ⟨args, hargs, -⟩ := exists_arguments hsound
  have hwrites := memberWrites_spaced hsound k extra
  refine .made hplan hmore rfl hwrites ?_
  rw [run_createWith hplan hargs,
    run_createWith hmore ((run_coerceInOrder_spaced hsound k extra).trans hargs)]
  unfold carryOut
  rw [hwrites]
  rfl

/-- A plan among those of all candidates is that of one of them. -/
theorem exists_of_mem_planned {results : List (Option ConstructionPlan)}
    (hresults : (candidates info).mapM (ofParams s.world type inputs) = .ok results)
    (hplan : plan ∈ results.filterMap id) :
    ∃ params ∈ candidates info, ofParams s.world type inputs params = .ok (some plan) := by
  obtain ⟨result, hmem, rfl⟩ := List.mem_filterMap.mp hplan
  obtain ⟨j, hj⟩ := List.getElem?_of_mem hmem
  obtain ⟨params, hparams, hplanned⟩ := (getElem?_results hresults).mp hj
  exact ⟨params, List.mem_of_getElem? hparams, hplanned⟩

/-- Whether there is a plan does not depend on an input that is not used. -/
theorem exists_plan_insertIdx (hspare : Spare s.world.registry type extra.1) (k : Nat)
    (inputs : List NamedValue) :
    (∃ plan, (planFor type (inputs.insertIdx k extra)).run s = (.ok plan, s)) ↔
      ∃ plan, (planFor type inputs).run s = (.ok plan, s) := by
  cases hinfo : s.world.registry.get type with
  | none => simp [run_planFor_of_unknown hinfo]
  | some info =>
      rw [run_planFor_insertIdx hspare hinfo, run_planFor hinfo]
      cases (candidates info).mapM (ofParams s.world type inputs) with
      | error e => simp [bind, Except.bind]
      | ok results =>
          simp only [bind, Except.bind]
          -- There is a cheapest plan exactly when there is a plan at all.
          cases hplans : results.filterMap id with
          | nil =>
              constructor <;> rintro ⟨_, himpossible⟩ <;> cases himpossible
          | cons first rest =>
              have hsome : first :: rest ≠ [] := List.cons_ne_nil first rest
              obtain ⟨plan, hplan⟩ := ConstructionPlan.exists_cheapest hsome
              obtain ⟨spaced, hspaced⟩ := ConstructionPlan.exists_cheapest
                (List.map_eq_nil_iff.not.mpr hsome)
              rw [hplan, hspaced]
              exact ⟨fun _ => ⟨plan, rfl⟩, fun _ => ⟨spaced, rfl⟩⟩

/-- An input that is not used changes nothing, as long as the order of costs is kept. -/
theorem undisturbed_of_orderKept (hspare : Spare s.world.registry type extra.1)
    (hkept : OrderKept s.world type inputs k) :
    Undisturbed s type inputs (inputs.insertIdx k extra) := by
  cases hinfo : s.world.registry.get type with
  | none =>
      exact .failed (run_createWith_of_failed (run_planFor_of_unknown hinfo))
        (run_createWith_of_failed (run_planFor_of_unknown hinfo))
  | some info =>
      have hplan : (planFor type inputs).run s = _ := run_planFor hinfo
      have hmore := run_planFor_insertIdx hspare hinfo k inputs
      cases hresults : (candidates info).mapM (ofParams s.world type inputs) with
      | error e =>
          simp only [hresults, bind, Except.bind] at hplan hmore
          exact .failed (run_createWith_of_failed hplan) (run_createWith_of_failed hmore)
      | ok results =>
          have hcheapest : ConstructionPlan.cheapest
              ((results.filterMap id).map (ConstructionPlan.spaced k)) =
                (ConstructionPlan.cheapest (results.filterMap id)).map
                  (ConstructionPlan.spaced k) := by
            refine ConstructionPlan.foldl_cheaper_map none fun p hp q hq => ?_
            obtain ⟨params, hparams, hp⟩ := exists_of_mem_planned hresults hp
            obtain ⟨others, hothers, hq⟩ := exists_of_mem_planned hresults hq
            exact hkept info hinfo params hparams others hothers p q hp hq
          simp only [hresults, bind, Except.bind, hcheapest] at hplan hmore
          cases hchosen : ConstructionPlan.cheapest (results.filterMap id) with
          | none =>
              rw [hchosen] at hplan hmore
              exact .missed (run_createWith_of_failed hplan) (run_createWith_of_failed hmore)
          | some plan =>
              rw [hchosen] at hplan hmore
              obtain ⟨params, -, hplanned⟩ :=
                exists_of_mem_planned hresults (ConstructionPlan.cheapest_mem _ _ hchosen)
              exact undisturbed_of_spaced (ConstructionPlan.ofParams_sound hplanned) hplan hmore

/-- One more input that is not used, at any position, and what it changes.

* What is planned for each candidate is the same with the input left out: the same input fails, or
  there is no plan, or there is a plan for the same parameters and members, which costs the same but
  for the order of the inputs.
* Whether any plan is found does not change.
* While no two plans change places in the order of their costs, the same constructor is run, the
  same values are written into members, and the session ends the same.
* So it is when no input from the position on is bound to a parameter, as at the end of the
  list. -/
theorem createWith_insertIdx (hspare : Spare s.world.registry type extra.1) (k : Nat)
    (inputs : List NamedValue) :
    (∀ info, s.world.registry.get type = some info → ∀ params ∈ candidates info,
      ofParams s.world type (inputs.insertIdx k extra) params =
        (ofParams s.world type inputs params).map (Option.map (ConstructionPlan.spaced k))) ∧
    ((∃ plan, (planFor type (inputs.insertIdx k extra)).run s = (.ok plan, s)) ↔
      ∃ plan, (planFor type inputs).run s = (.ok plan, s)) ∧
    (OrderKept s.world type inputs k → Undisturbed s type inputs (inputs.insertIdx k extra)) ∧
    ((∀ info, s.world.registry.get type = some info → ∀ params ∈ candidates info, ∀ plan,
        ofParams s.world type inputs params = .ok (some plan) →
        ∀ position index : Nat, plan.placements[position]? = some (.parameter index) →
          position < k) →
      Undisturbed s type inputs (inputs.insertIdx k extra)) := by
  refine ⟨fun info hinfo params hparams => ?planned, exists_plan_insertIdx hspare k inputs,
    undisturbed_of_orderKept hspare, fun hunbound => ?unbound⟩
  case planned =>
    exact ConstructionPlan.ofParams_insertIdx (hspare.unnamed info hinfo params hparams)
      (hspare.unwritten info hinfo) k inputs
  case unbound => exact undisturbed_of_orderKept hspare (orderKept_of_unbound hunbound)

/-- A note between the width and the label of a panel changes nothing. -/
theorem createWith_insertIdx_panel :
    Spare workshop.registry panel.1 "note" ∧ OrderKept workshop panel.1 panelInputs 1 ∧
      Undisturbed ⟨workshop, .standard⟩ panel.1 panelInputs
        [("width", .string "7"), ("note", .bool true), ("LABEL", .string "x")] := by
  obtain ⟨info, hinfo, hcandidates⟩ : ∃ info, workshop.registry.get panel.1 = some info ∧
      candidates info = [panelParams, [.byValue "label" .string]] := ⟨_, rfl, rfl⟩
  have hspare : Spare workshop.registry panel.1 "note" := by
    refine ⟨fun other hother => ?_, fun _ _ => rfl⟩
    obtain rfl : info = other := by simpa [hinfo] using hother
    rw [hcandidates]
    decide
  obtain ⟨both, hboth, hcost⟩ : ∃ plan,
      ofParams workshop panel.1 panelInputs panelParams = .ok (some plan) ∧
        (plan.spaced 1).cost = plan.cost := ⟨_, rfl, rfl⟩
  obtain ⟨later, hlater, hcost'⟩ : ∃ plan,
      ofParams workshop panel.1 panelInputs [.byValue "label" .string] = .ok (some plan) ∧
        (plan.spaced 1).cost = plan.cost := ⟨_, rfl, rfl⟩
  -- Neither plan is in order, with the note or without it.
  have hkept : OrderKept workshop panel.1 panelInputs 1 := by
    have hsame : ∀ params ∈ candidates info, ∀ plan,
        ofParams workshop panel.1 panelInputs params = .ok (some plan) →
          (plan.spaced 1).cost = plan.cost := by
      intro params hparams plan hplan
      rw [hcandidates] at hparams
      rcases List.mem_pair.mp hparams with rfl | rfl
      · obtain rfl : both = plan := by simpa [hboth] using hplan
        exact hcost
      · obtain rfl : later = plan := by simpa [hlater] using hplan
        exact hcost'
    intro other hother params hparams others hothers plan otherPlan hplan hotherPlan
    obtain rfl : info = other := by simpa [hinfo] using hother
    rw [hsame params hparams plan hplan, hsame others hothers otherPlan hotherPlan]
  exact ⟨hspare, hkept,
    (@createWith_insertIdx ⟨workshop, .standard⟩ panel.1 ("note", .bool true) hspare 1
      panelInputs).2.2.1 hkept⟩

/-- A crate with a label and a size is made open. Without a size it is made shut, and the size may
be written later. -/
def crateBlueprint : Blueprint :=
  let made (lid : String) : MemberM Instance :=
    pure (.mk "Crate" none [("size", .value (.int32 0)), ("lid", .ofText lid)])
  (((Blueprint.reference "Crate").withField
    (.readWrite "Crate" "Size" .int32 (fun data => .done ((data.get "size").asValue))
      fun data v => .done (.ok (), data.set "size" (.value v)))).withConstructor
    [.byValue "label" .string] (made "shut")).withConstructor
    [.byValue "label" .string, .byValue "size" .int32] (made "open")

/-- The type of crates. -/
def crate : TypeHandle × Registry := Registry.initial.declare (.described "Crate") crateBlueprint

/-- A label and a size. -/
def crateInputs : List NamedValue := [("label", .string "x"), ("size", .int32 4)]

/-- The types of the parameters of the constructor that is planned for, and the lid of the crate
that is made. -/
def madeCrate (inputs : List NamedValue) : Option (List TypeHandle) × Option String :=
  let start : Session := ⟨World.ofRegistry crate.2, .standard⟩
  (((planFor crate.1 inputs).run start).1.toOption.map (·.params),
    ((createWith crate.1 inputs).run start).2.world.objects[0]?.map fun data =>
      (data.get "lid").asText)

/-- A crate is made from a label and a size by the constructor of both. With an input in between
that is not used, it is made by the constructor of the label alone, and the size is written
later. -/
theorem spare_input_takes_over :
    Spare crate.2 crate.1 "junk" ∧
      madeCrate crateInputs = (some [.string, .int32], some "open") ∧
      madeCrate (crateInputs.insertIdx 1 ("junk", .bool true))
        = (some [.string], some "shut") := by
  refine ⟨⟨fun info hinfo => ?_, fun _ _ => rfl⟩, ?_, ?_⟩
  · obtain rfl := Option.some.inj hinfo
    decide
  · decide +kernel
  · decide +kernel

end Reflector

end Introspect
