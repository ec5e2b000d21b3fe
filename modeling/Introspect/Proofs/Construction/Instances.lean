import Introspect.Proofs.Accessor.Marshalling
import Introspect.Proofs.Construction.Arguments
import Introspect.Proofs.Construction.Placement
import Introspect.Proofs.Reflector.Failures
import Introspect.Proofs.Reflector.Steady

/-!
# `Introspect.Proofs.Construction.Instances`: an instance is made by the cheapest plan

An instance is made from named values in three steps: a plan is chosen among those for the
`candidates`, the arguments are brought to the types of its parameters, and the constructor of these
types is requested and run.

`createWith_runs_cheapest` is the main result. The creation misses a constructor exactly when no
candidate has a plan. When each candidate can be planned for without an input that does not fit, and
one has a plan, the creation uses the first of the cheapest plans, which is sound in the sense of
`ConstructionPlan.Sound`; each argument is the value of the input that is bound to its parameter, so
none is left at the default value; and the constructor that is requested is the candidate itself.

The last part needs that array types declare no constructors (`Registry.ArraysBare`): a request for
an array of a length is not answered by a declared constructor.
-/

set_option autoImplicit false

namespace Introspect.Reflector

open ConstructionPlan (Serves Unambiguous costOf)

variable {s : Session} {type : TypeHandle} {info : TypeInfo} {inputs : List NamedValue}
  {params : List ParameterInfo} {plan : ConstructionPlan} {args : List Value}

/-! ### Planning -/

/-- The parameter lists that an instance can be made from: those of the declared constructors, and
none at all for a value type that declares no constructor without parameters. -/
def candidates (info : TypeInfo) : List (List ParameterInfo) :=
  let declared := info.constructors.map (·.params)
  if info.isValueType && declared.all (!·.isEmpty) then declared ++ [[]] else declared

/-- A candidate is that of a declared constructor, or the empty one of a value type. -/
theorem candidates_cases {k : Nat} (h : (candidates info)[k]? = some params) :
    (∃ ctor, info.constructors[k]? = some ctor ∧ ctor.params = params) ∨
      (info.isValueType = true ∧ params = []) := by
  have hdeclared : (info.constructors.map (·.params))[k]? = some params →
      ∃ ctor, info.constructors[k]? = some ctor ∧ ctor.params = params := by
    intro h
    simpa [List.getElem?_map, Option.map_eq_some_iff] using h
  unfold candidates at h
  dsimp only at h
  split at h
  · next hvalue =>
      simp only [Bool.and_eq_true] at hvalue
      rw [List.getElem?_append] at h
      split at h
      · exact .inl (hdeclared h)
      · right
        have hmem := List.mem_of_getElem? h
        exact ⟨hvalue.1, by simpa using hmem⟩
  · exact .inl (hdeclared h)

/-- Constructors of any visibility are candidates. -/
theorem matchesBinding_any (visibility : Visibility) :
    Flags.instanceAnyVisibility.matchesBinding visibility false = true := by
  cases visibility <;> decide

/-- The candidates of a type are listed. -/
theorem run_constructorParams (hinfo : s.world.registry.get type = some info) :
    (constructorParams type).run s = (.ok (candidates info), s) := by
  have hqueried : Query.constructors s.world.registry type Flags.instanceAnyVisibility
      = .ok info.constructors := by
    simp [Query.constructors, Registry.info, hinfo, matchesBinding_any, bind, Except.bind, pure,
      Except.pure]
  have hvalue : s.world.registry.isValueType type = info.isValueType := by
    simp [Registry.isValueType, hinfo]
  unfold constructorParams
  simp only [run_bind, run_registry, run_ofRegistry, hqueried, hvalue]
  rfl

/-- What is planned for each candidate is planned for all of them. -/
theorem run_mapM_ofRegistry {α β : Type} (f : α → Except ReflectError β) (items : List α) :
    (items.mapM fun item => ofRegistry fun _ => f item).run s = (items.mapM f, s) := by
  induction items with
  | nil => rfl
  | cons item rest ih =>
      rw [List.mapM_cons, List.mapM_cons, run_bind, run_ofRegistry]
      cases f item with
      | error e => rfl
      | ok b =>
          dsimp only
          rw [run_bind, ih]
          cases rest.mapM f <;> rfl

/-- All candidates are planned for, and the first of the cheapest plans is taken if there is any. -/
theorem run_planFor (hinfo : s.world.registry.get type = some info) :
    (planFor type inputs).run s =
      ((candidates info).mapM (ConstructionPlan.ofParams s.world type inputs) >>= fun results =>
        (ConstructionPlan.cheapest (results.filterMap id)).elim
          (.error (.constructorNotFound (s.world.registry.nameOf type)
            (describeInputs s.world inputs))) .ok, s) := by
  unfold planFor
  simp only [run_bind, run_get, run_constructorParams hinfo, run_mapM_ofRegistry]
  cases (candidates info).mapM (ConstructionPlan.ofParams s.world type inputs) with
  | error e => rfl
  | ok results =>
      dsimp only [bind, Except.bind]
      cases ConstructionPlan.cheapest (results.filterMap id) <;> rfl

/-- The candidate at a position has a plan whose placements cost no more than those of any other
candidate's plan, and less than those for the candidates before it. -/
structure Cheapest (w : World) (type : TypeHandle) (inputs : List NamedValue) (info : TypeInfo)
    (k : Nat) (params : List ParameterInfo) (plan : ConstructionPlan) : Prop where
  candidate : (candidates info)[k]? = some params
  planned : ConstructionPlan.ofParams w type inputs params = .ok (some plan)
  least : ∀ (j : Nat) other otherPlan, (candidates info)[j]? = some other →
    ConstructionPlan.ofParams w type inputs other = .ok (some otherPlan) →
    costOf w type params inputs plan.placements
        ≤ costOf w type other inputs otherPlan.placements ∧
      (j < k → costOf w type params inputs plan.placements
        < costOf w type other inputs otherPlan.placements)

/-- What is planned for the candidates one after another is found at their positions. -/
theorem getElem?_results {results : List (Option ConstructionPlan)}
    (hresults : (candidates info).mapM (ConstructionPlan.ofParams s.world type inputs)
      = .ok results) {j : Nat} {result : Option ConstructionPlan} :
    results[j]? = some result ↔ ∃ params, (candidates info)[j]? = some params ∧
      ConstructionPlan.ofParams s.world type inputs params = .ok result := by
  have hposition := congrArg (·[j]?) (map_eq_of_mapM hresults)
  simp only [List.getElem?_map] at hposition
  rw [← Option.map_eq_some_iff, hposition]
  simp

/-- Without a plan for any candidate, a constructor is missed. -/
theorem run_planFor_of_none (hinfo : s.world.registry.get type = some info)
    (hnone : ∀ params ∈ candidates info,
      ConstructionPlan.ofParams s.world type inputs params = .ok none) :
    (planFor type inputs).run s = (.error (.constructorNotFound (s.world.registry.nameOf type)
      (describeInputs s.world inputs)), s) := by
  have hresults : (candidates info).mapM (ConstructionPlan.ofParams s.world type inputs)
      = .ok ((candidates info).map fun _ => none) := by
    rw [mapM_eq_ok_iff, List.forall₂_map_right_iff, List.forall₂_same]
    exact hnone
  have hempty : ((candidates info).map fun _ => (none : Option ConstructionPlan)).filterMap id
      = [] := by
    simp
  rw [run_planFor hinfo, hresults]
  dsimp only [bind, Except.bind]
  rw [hempty]
  rfl

/-- When all candidates can be planned for and one of them has a plan, the first of the cheapest
plans is taken. -/
theorem exists_run_planFor (hinfo : s.world.registry.get type = some info)
    (hplans : ∀ params ∈ candidates info, ∃ result,
      ConstructionPlan.ofParams s.world type inputs params = .ok result)
    (hsome : ∃ params ∈ candidates info,
      ConstructionPlan.ofParams s.world type inputs params ≠ .ok none) :
    ∃ k params plan, Cheapest s.world type inputs info k params plan ∧
      (planFor type inputs).run s = (.ok plan, s) := by
  obtain ⟨results, hresults⟩ := exists_mapM_eq_ok hplans
  obtain ⟨params, hparams, hplan⟩ := hsome
  obtain ⟨result, hresult⟩ := hplans params hparams
  obtain ⟨chosen, hchosen⟩ : ∃ chosen,
      ConstructionPlan.cheapest (results.filterMap id) = some chosen := by
    refine ConstructionPlan.exists_cheapest fun hempty => ?_
    obtain ⟨j, hj⟩ := List.getElem?_of_mem hparams
    have hmem := List.mem_of_getElem? ((getElem?_results hresults).mpr ⟨params, hj, hresult⟩)
    cases result with
    | none => exact hplan hresult
    | some plan =>
        have hkept : plan ∈ results.filterMap id := List.mem_filterMap.mpr ⟨_, hmem, rfl⟩
        rw [hempty] at hkept
        exact absurd hkept List.not_mem_nil
  obtain ⟨k, hk, hleast⟩ := ConstructionPlan.firstCheapest_of_cheapest hchosen
  obtain ⟨params, hparams, hplanned⟩ := (getElem?_results hresults).mp hk
  refine ⟨k, params, chosen, ⟨hparams, hplanned, fun j other otherPlan hother hotherPlan => ?_⟩, ?_⟩
  · rw [← (ConstructionPlan.ofParams_sound hplanned).cost_eq,
      ← (ConstructionPlan.ofParams_sound hotherPlan).cost_eq]
    exact hleast j otherPlan ((getElem?_results hresults).mpr ⟨other, hother, hotherPlan⟩)
  · rw [run_planFor hinfo, hresults]
    dsimp only [bind, Except.bind]
    rw [hchosen]
    rfl

/-! ### Arguments -/

/-- The arguments after an input has been brought to its parameter. -/
def filled (w : World) (types : List TypeHandle) (args : List Value)
    (entry : Placement × NamedValue) : Except InvokeError (List Value) :=
  match entry.1 with
  | .parameter index => (w.coerce entry.2.2 (types[index]?.getD .object)).map (args.set index)
  | _ => .ok args

/-- A fold of computations that change nothing goes along with a fold of their results. -/
theorem run_foldlM {α β : Type} {step : β → α → ReflectM β} {found : β → α → Except InvokeError β}
    (hstep : ∀ b a, (step b a).run s = ((found b a).mapError .invoke, s)) (items : List α) (b : β) :
    (items.foldlM step b).run s = ((items.foldlM found b).mapError .invoke, s) := by
  induction items generalizing b with
  | nil => rfl
  | cons item rest ih =>
      rw [List.foldlM_cons, List.foldlM_cons, run_bind, hstep]
      cases found b item with
      | error e => rfl
      | ok next => exact ih next

/-- Bringing the inputs to their parameters changes nothing else. -/
theorem run_coerceInOrder (plan : ConstructionPlan) (placed : List (Placement × NamedValue)) :
    (createWith.coerceInOrder plan placed).run s =
      ((placed.foldlM (filled s.world plan.params)
        (plan.params.map s.world.registry.zeroOf)).mapError .invoke, s) := by
  unfold createWith.coerceInOrder
  rw [run_bind, run_registry]
  refine run_foldlM (fun args entry => ?_) placed _
  obtain ⟨placement, name, v⟩ := entry
  cases placement with
  | parameter index =>
      show (coerced v _ >>= _).run s = _
      rw [run_bind, coerced, run_invoke]
      unfold filled
      dsimp only
      cases s.world.coerce v (plan.params[index]?.getD .object) <;> rfl
  | _ => rfl

/-- An input that fits is put in the place of its parameter, and nowhere else. -/
theorem filled_eq_ok {w : World} {types : List TypeHandle} {entry : Placement × NamedValue}
    (hfits : ∀ index, entry.1 = .parameter index →
      (w.fit entry.2.2 (types[index]?.getD .object)).isSome = true) (start : List Value) :
    ∃ args, filled w types start entry = .ok args ∧ args.length = start.length ∧
      ∀ index, (entry.1 ≠ .parameter index → args[index]? = start[index]?) ∧
        (entry.1 = .parameter index → index < start.length →
          ∃ r, w.coerce entry.2.2 (types[index]?.getD .object) = .ok r ∧
            args[index]? = some r) := by
  obtain ⟨placement, name, v⟩ := entry
  cases placement with
  | parameter index =>
      obtain ⟨r, hr⟩ := World.exists_coerce_iff.mpr (hfits index rfl)
      refine ⟨start.set index r, ?_, List.length_set, fun other => ⟨fun hne => ?_, ?_⟩⟩
      · simp only [filled]
        dsimp only at hr
        rw [hr]
        rfl
      · exact List.getElem?_set_ne fun heq => hne (congrArg _ heq)
      · rintro ⟨⟩ hindex
        exact ⟨r, hr, List.getElem?_set_self hindex⟩
  | _ => exact ⟨start, rfl, rfl, fun other => ⟨fun _ => rfl, by rintro ⟨⟩⟩⟩

/-- Once each input fits its parameter, there are arguments. A parameter that an input is bound to
last has the value of this input, and one without an input is left as it was. -/
theorem exists_filled {w : World} {types : List TypeHandle} {placed : List (Placement × NamedValue)}
    (hfits : ∀ entry ∈ placed, ∀ index, entry.1 = .parameter index →
      (w.fit entry.2.2 (types[index]?.getD .object)).isSome = true) (start : List Value) :
    ∃ args, placed.foldlM (filled w types) start = .ok args ∧ args.length = start.length ∧
      (∀ index, (∀ entry ∈ placed, entry.1 ≠ .parameter index) → args[index]? = start[index]?) ∧
      ∀ (position index : Nat) input, placed[position]? = some (.parameter index, input) →
        (∀ (later : Nat) entry, placed[later]? = some entry → position < later →
          entry.1 ≠ .parameter index) → index < start.length →
        ∃ r, w.coerce input.2 (types[index]?.getD .object) = .ok r ∧ args[index]? = some r := by
  -- The arguments so far are those that the first input leaves to the others.
  induction placed generalizing start with
  | nil => exact ⟨start, rfl, rfl, fun _ _ => rfl, by simp⟩
  | cons entry rest ih =>
      obtain ⟨next, hnext, hlength, hplace⟩ :=
        filled_eq_ok (hfits entry List.mem_cons_self) start
      obtain ⟨args, hargs, hlength', hkept, hbound⟩ :=
        ih (fun other hother => hfits other (.tail _ hother)) next
      refine ⟨args, ?_, hlength'.trans hlength, fun index hnone => ?_, ?_⟩
      · rw [List.foldlM_cons, hnext]
        exact hargs
      · rw [hkept index fun other hother => hnone other (.tail _ hother)]
        exact (hplace index).1 (hnone entry List.mem_cons_self)
      · intro position index input hposition hlast hindex
        cases position with
        | succ position =>
            refine hbound position index input hposition (fun later other hother hlater => ?_)
              (hlength ▸ hindex)
            exact hlast (later + 1) other hother (Nat.succ_lt_succ hlater)
        | zero =>
            obtain rfl : entry = (.parameter index, input) := Option.some.inj hposition
            obtain ⟨r, hr, hnextr⟩ := (hplace index).2 rfl hindex
            refine ⟨r, hr, ?_⟩
            -- No later input is bound to the parameter.
            rw [hkept index fun other hother => ?_, hnextr]
            obtain ⟨later, hlater⟩ := List.getElem?_of_mem hother
            exact hlast (later + 1) other hlater (Nat.succ_pos later)

/-- Each argument is the value of an input that the plan binds to its parameter, brought to the
parameter's type. -/
def FedBy (w : World) (inputs : List NamedValue) (params : List ParameterInfo)
    (plan : ConstructionPlan) (args : List Value) : Prop :=
  args.length = params.length ∧ ∀ (index : Nat) param, params[index]? = some param →
    ∃ (position : Nat) (input : NamedValue) (r : Value),
      plan.placements[position]? = some (.parameter index) ∧ inputs[position]? = some input ∧
      w.coerce input.2 param.type = .ok r ∧ args[index]? = some r

/-- The inputs of a sound plan are brought to its parameters, and all parameters have one. -/
theorem exists_arguments (hsound : plan.Sound s.world type inputs params) :
    ∃ args, (createWith.coerceInOrder plan (plan.placements.zip inputs)).run s = (.ok args, s) ∧
      FedBy s.world inputs params plan args := by
  have htype : ∀ {index : Nat} {param : ParameterInfo}, params[index]? = some param →
      plan.params[index]?.getD .object = param.type := by
    intro index param hparam
    simp [hsound.params_eq, List.getElem?_map, hparam]
  have hfits : ∀ entry ∈ plan.placements.zip inputs, ∀ index, entry.1 = .parameter index →
      (s.world.fit entry.2.2 (plan.params[index]?.getD .object)).isSome = true := by
    rintro ⟨placement, input⟩ hentry index ⟨⟩
    have hall := List.forall₂_iff_zip.mp hsound.suits.flip
    cases hall.2 hentry with
    | parameter hparam _ hfit => simp [htype hparam, hfit]
  obtain ⟨args, hargs, hlength, -, hbound⟩ :=
    exists_filled hfits (plan.params.map s.world.registry.zeroOf)
  have hcount : (plan.params.map s.world.registry.zeroOf).length = params.length := by
    simp [hsound.params_eq]
  -- What is left is that each parameter has got a value, and not kept the default one.
  refine ⟨args, by rw [run_coerceInOrder, hargs]; rfl, hlength.trans hcount, ?_⟩
  intro index param hparam
  have hindex : index < params.length := (List.getElem?_eq_some_iff.mp hparam).1
  obtain ⟨position, hposition, hunique⟩ := hsound.bound index hindex
  obtain ⟨input, hinput⟩ : ∃ input, inputs[position]? = some input := by
    have hlt : position < plan.placements.length := (List.getElem?_eq_some_iff.mp hposition).1
    rw [← hsound.suits.length_eq] at hlt
    exact ⟨_, List.getElem?_eq_getElem hlt⟩
  have hzip : (plan.placements.zip inputs)[position]? = some (.parameter index, input) :=
    List.getElem?_zip_eq_some.mpr ⟨hposition, hinput⟩
  have hlast : ∀ (later : Nat) entry, (plan.placements.zip inputs)[later]? = some entry →
      position < later → entry.1 ≠ .parameter index := by
    intro later entry hlater hlt heq
    -- The parameter is bound once only.
    obtain ⟨placement, other⟩ := entry
    obtain ⟨hplacement, -⟩ := List.getElem?_zip_eq_some.mp hlater
    obtain rfl : placement = .parameter index := heq
    exact absurd (hunique later hplacement) (Nat.ne_of_gt hlt)
  obtain ⟨r, hr, harg⟩ := hbound position index input hzip hlast (hcount ▸ hindex)
  rw [htype hparam] at hr
  exact ⟨position, input, r, hposition, hinput, hr, harg⟩

/-! ### The constructor -/

section Constructor

variable {reg : Registry} {ctor : ConstructorInfo} {k : Nat} {prepared : Prepared Creator} {n : Nat}

/-- The request that a plan makes for a constructor. -/
def constructorRequest (type : TypeHandle) (params : List ParameterInfo) : Signature :=
  .constructor type (params.map (·.type)) Flags.instanceAnyVisibility

/-- A declared constructor accepts the types of its own parameters, and exactly. -/
theorem mem_accepting_own (hctor : info.constructors[k]? = some ctor) :
    ((k, ctor), true) ∈
      Resolver.acceptingConstructors reg (constructorRequest type ctor.params) info :=
  Resolver.mem_acceptingConstructors_iff.mpr
    ⟨hctor, matchesBinding_any _, reg.bindParams_self _ _⟩

/-- A declared constructor that is looked for by the types of its own parameters is the one that is
found, if any is. -/
theorem declaredConstructor_own (hctor : info.constructors[k]? = some ctor) {found : Resolution}
    (h : Resolver.declaredConstructor reg (constructorRequest type ctor.params) info = .ok found) :
    found.member = .constructor type k := by
  obtain ⟨index, other, exact, rfl, hone⟩ := Resolver.declaredConstructor_eq_ok h
  have hmem : ((k, ctor), true) ∈ [((index, other), exact)] := by
    rcases hone with hall | hexact
    · rw [← hall]
      exact mem_accepting_own hctor
    · rw [← hexact]
      exact List.mem_filter.mpr ⟨mem_accepting_own hctor, rfl⟩
  obtain ⟨⟨rfl, -⟩, -⟩ : (k = index ∧ ctor = other) ∧ true = exact := by simpa using hmem
  rfl

/-- The search for a declared constructor by the types of its own parameters finds some. -/
theorem finds_declaredConstructor (hctor : info.constructors[k]? = some ctor) :
    Introspect.Finds
      (Resolver.declaredConstructor reg (constructorRequest type ctor.params) info) := by
  unfold Resolver.declaredConstructor
  dsimp only
  split
  · next hnone =>
      have hempty : Resolver.acceptingConstructors reg (constructorRequest type ctor.params) info
          = [] := hnone
      exact absurd (mem_accepting_own hctor) (by rw [hempty]; exact List.not_mem_nil)
  · exact finds_ok _
  · split
    · exact finds_ok _
    · exact finds_error rfl

/-- A value type without arguments is made at its default value. -/
theorem resolve_zero (hinfo : reg.get type = some info) (hvalue : info.isValueType = true) :
    Resolver.resolve reg (constructorRequest type []) = .ok ⟨.zero type, [], true⟩ := by
  show Resolver.constructor reg (constructorRequest type []) = _
  simp [Resolver.constructor, constructorRequest, Signature.constructor, Signature.ofKind,
    Resolver.isLength, Registry.info, hinfo, hvalue, bind, Except.bind, pure, Except.pure]

theorem finds_resolvedConstructor (hinfo : reg.get type = some info)
    (hparams : (candidates info)[k]? = some params) :
    Introspect.Finds (Resolver.resolve reg (constructorRequest type params)) := by
  rcases candidates_cases hparams with ⟨ctor, hctor, rfl⟩ | ⟨hvalue, rfl⟩
  · have hfound : reg.info (constructorRequest type ctor.params).target = .ok info :=
      Registry.info_eq_ok_iff.mpr hinfo
    show Introspect.Finds (Resolver.constructor reg (constructorRequest type ctor.params))
    unfold Resolver.constructor
    rw [hfound]
    simp only [bind, Except.bind]
    split
    · -- An array type, with or without elements.
      split
      · exact finds_ok _
      · exact finds_error rfl
    · split
      · exact finds_ok _
      · exact finds_declaredConstructor hctor
  · rw [resolve_zero hinfo hvalue]
    exact finds_ok _

theorem finds_creator (member : MemberHandle) : Introspect.Finds (Creator.ofMember reg member) := by
  unfold Creator.ofMember
  split
  · exact finds_ok _
  · exact finds_ok _
  · refine (finds_info _).bind fun info => ?_
    split
    · exact finds_error rfl
    · exact finds_ok _
  · exact finds_error rfl

/-- The request for a candidate does not miss a constructor. -/
theorem finds_constructor (hinfo : reg.get type = some info)
    (hparams : (candidates info)[k]? = some params) :
    Introspect.Finds (Compiler.constructor.compile reg (constructorRequest type params)).1 := by
  have hresolve := finds_resolvedConstructor hinfo hparams
  unfold Compiler.compile
  split
  · next e hdirection => cases hdirection
  · split
    · next e hfailed => exact finds_error (hresolve e hfailed)
    · exact (finds_creator _).map

/-- What makes an instance from the arguments of a candidate: the declared constructor, or the
default value where a value type is made without arguments. -/
structure Makes (reg : Registry) (type : TypeHandle) (info : TypeInfo) (k : Nat)
    (params : List ParameterInfo) (creator : Creator) : Prop where
  zero : info.isValueType = true → params = [] → creator = .zero (reg.zeroOf type)
  declared : info.isValueType = false ∨ params ≠ [] → ∃ ctor, info.constructors[k]? = some ctor ∧
    ctor.params = params ∧ creator = .declared (.ofParams reg params) ctor.body

/-- The constructor that is prepared for a candidate is that of the candidate. -/
theorem makes_of_compile (hinfo : reg.get type = some info)
    (harray : info.kind = .array → info.constructors = [])
    (hparams : (candidates info)[k]? = some params)
    (hcompile : Compiler.constructor.compile reg (constructorRequest type params)
      = (.ok prepared, n)) :
    Makes reg type info k params prepared.action := by
  obtain ⟨found, hfound, -, hprepare⟩ := Compiler.compile_eq_ok hcompile
  constructor
  · rintro hvalue rfl
    obtain rfl := Except.ok.inj ((resolve_zero hinfo hvalue).symm.trans hfound)
    exact (Except.ok.inj hprepare).symm
  · intro hother
    obtain ⟨ctor, hctor, rfl⟩ : ∃ ctor, info.constructors[k]? = some ctor ∧
        ctor.params = params := by
      rcases candidates_cases hparams with hdeclared | ⟨hvalue, hempty⟩
      · exact hdeclared
      · rcases hother with hreference | hsome
        · simp [hvalue] at hreference
        · exact absurd hempty hsome
    refine ⟨ctor, hctor, rfl, ?_⟩
    obtain ⟨info', hinfo', hcases⟩ := Resolver.resolve_constructor_eq_ok rfl hfound
    obtain rfl := Option.some.inj (hinfo.symm.trans hinfo')
    rcases hcases with ⟨hkind, -⟩ | ⟨hvalue, hempty, -⟩ | hdeclared
    · -- An array type declares no constructor.
      simp [harray hkind] at hctor
    · have hnone : ctor.params = [] := List.map_eq_nil_iff.mp hempty
      rcases hother with hreference | hsome
      · simp [hvalue] at hreference
      · exact absurd hnone hsome
    · have hmember := declaredConstructor_own hctor hdeclared
      have haction : Creator.ofMember reg found.member = .ok prepared.action := hprepare
      rw [hmember] at haction
      simp only [Creator.ofMember, Registry.info, hinfo, hctor, bind, Except.bind, pure,
        Except.pure, Except.ok.injEq] at haction
      exact haction.symm

end Constructor

/-! ### The instance -/

/-- The values that a plan stores in members. -/
def memberWrites (plan : ConstructionPlan) (inputs : List NamedValue) :
    List (MemberTarget × Value) :=
  (plan.placements.zip inputs).filterMap fun (placement, _, v) =>
    match placement with
    | .member member => some (member, v)
    | _ => none

/-- What is done with a plan and its arguments: the constructor is requested and run, and then the
members are written. -/
def carryOut (type : TypeHandle) (plan : ConstructionPlan) (inputs : List NamedValue)
    (args : List Value) : ReflectM Value := do
  let creator ← constructor type plan.params (some Flags.instanceAnyVisibility)
  use creator do
    let created ← invoke fun w =>
      let ((result, _), w) := creator.content.action.run args w
      (result, w)
    writeMembers type created (memberWrites plan inputs)

/-- An instance is made in three steps. -/
theorem run_createWith (hplan : (planFor type inputs).run s = (.ok plan, s))
    (hargs : (createWith.coerceInOrder plan (plan.placements.zip inputs)).run s = (.ok args, s)) :
    (createWith type inputs).run s = (carryOut type plan inputs args).run s := by
  unfold createWith
  rw [run_bind, hplan]
  dsimp only
  rw [run_bind, hargs]
  rfl

/-- Without a plan, that is the end of it. -/
theorem run_createWith_of_error {e : ReflectError}
    (h : ((planFor type inputs).run s).1 = .error e) :
    ((createWith type inputs).run s).1 = .error e := by
  unfold createWith
  rw [run_bind]
  rcases hrun : (planFor type inputs).run s with ⟨result, next⟩
  obtain rfl : result = .error e := by simpa [hrun] using h
  rfl

/-- The constructor is requested by the types of the planned parameters. -/
theorem run_constructor (hsound : plan.Sound s.world type inputs params) :
    (constructor type plan.params (some Flags.instanceAnyVisibility)).run s =
      (request .constructor (constructorRequest type params)).run s := by
  rw [hsound.params_eq]
  rfl

/-- Once there is a plan for a candidate, no constructor is missed. -/
theorem finds_carryOut {k : Nat} (hinfo : s.world.registry.get type = some info)
    (hparams : (candidates info)[k]? = some params)
    (hsound : plan.Sound s.world type inputs params) (args : List Value) :
    Introspect.Finds ((carryOut type plan inputs args).run s).1 := by
  have hfinds := finds_run_request (finds_constructor hinfo hparams)
  unfold carryOut
  rw [run_bind, run_constructor hsound]
  -- The request is the only step that looks for a constructor.
  rcases hrequest : (request .constructor (constructorRequest type params)).run s
    with ⟨result, next⟩
  rw [hrequest] at hfinds
  cases result with
  | error e => exact finds_error (hfinds e rfl)
  | ok creator =>
      refine finds_use (Finds.bind (finds_invoke _) fun created => ?_) next
      exact finds_writeMembers type created (memberWrites plan inputs)

/-- A failure to make an instance is the result. Otherwise the members of what was made are
written. -/
def Completes (type : TypeHandle) (writes : List (MemberTarget × Value))
    (made : (Except InvokeError Value × List Value) × World) (result : Except ReflectError Value) :
    Prop :=
  match made.1.1 with
  | .error e => result = .error (.invoke e)
  | .ok created => ∃ after : Session, after.world = made.2 ∧
      result = ((writeMembers type created writes).run after).1

/-- The constructor that is prepared for a plan is run with the arguments. -/
theorem completes_carryOut {prepared : Prepared Creator} {n : Nat}
    (hsound : plan.Sound s.world type inputs params)
    (hcompile : Compiler.constructor.compile s.world.registry (constructorRequest type params)
      = (.ok prepared, n))
    (hfaithful : Faithful .constructor (constructorRequest type params) s) :
    Completes type (memberWrites plan inputs) (prepared.action.run args s.world)
      ((carryOut type plan inputs args).run s).1 := by
  obtain ⟨creator, next, hrequest, rfl, hworld⟩ := run_request_of_compile hfaithful hcompile
  unfold carryOut
  rw [run_bind, run_constructor hsound, hrequest]
  dsimp only
  -- The constructor runs in the world that the request has left as it was.
  rw [run_use, run_bind, run_invoke, hworld]
  unfold Completes
  cases hmade : (creator.content.action.run args s.world).1.1 with
  | error e => rfl
  | ok created => exact ⟨_, rfl, rfl⟩

/-- When all candidates can be planned for and one of them has a plan, the first of the cheapest
plans is brought into arguments and carried out. -/
theorem exists_run_createWith (hinfo : s.world.registry.get type = some info)
    (hplans : ∀ params ∈ candidates info, ∃ result,
      ConstructionPlan.ofParams s.world type inputs params = .ok result)
    (hsome : ∃ params ∈ candidates info,
      ConstructionPlan.ofParams s.world type inputs params ≠ .ok none) :
    ∃ k params plan args, Cheapest s.world type inputs info k params plan ∧
      plan.Sound s.world type inputs params ∧ FedBy s.world inputs params plan args ∧
      (createWith type inputs).run s = (carryOut type plan inputs args).run s := by
  obtain ⟨k, params, plan, hcheapest, hplan⟩ := exists_run_planFor hinfo hplans hsome
  have hsound := ConstructionPlan.ofParams_sound hcheapest.planned
  obtain ⟨args, hargs, hfed⟩ := exists_arguments hsound
  exact ⟨k, params, plan, args, hcheapest, hsound, hfed, run_createWith hplan hargs⟩

/-- Unless all candidates are without a plan, no constructor is missed. -/
theorem finds_createWith (hinfo : s.world.registry.get type = some info)
    (hsome : ∃ params ∈ candidates info,
      ConstructionPlan.ofParams s.world type inputs params ≠ .ok none) :
    Introspect.Finds ((createWith type inputs).run s).1 := by
  by_cases hplans : ∀ params ∈ candidates info, ∃ result,
      ConstructionPlan.ofParams s.world type inputs params = .ok result
  · obtain ⟨k, params, plan, args, hcheapest, hsound, -, hrun⟩ :=
      exists_run_createWith hinfo hplans hsome
    rw [hrun]
    exact finds_carryOut hinfo hcheapest.candidate hsound args
  · -- A candidate cannot be planned for, which is another failure.
    have hfinds : Introspect.Finds
        ((candidates info).mapM (ConstructionPlan.ofParams s.world type inputs)) :=
      finds_mapM (finds_ofParams inputs) _
    cases hresults : (candidates info).mapM (ConstructionPlan.ofParams s.world type inputs) with
    | ok results =>
        refine absurd (fun params hparams => ?_) hplans
        obtain ⟨result, -, hresult⟩ := exists_of_mapM_eq_ok hresults hparams
        exact ⟨result, hresult⟩
    | error e =>
        have hfailed : ((planFor type inputs).run s).1 = .error e := by
          rw [run_planFor hinfo, hresults]
          rfl
        rw [run_createWith_of_error hfailed]
        exact finds_error (hfinds e hresults)

/-- An instance is made by the cheapest plan.

A constructor is missed exactly when no candidate has a plan. While no input has the name of two
parameters, a candidate that can be planned for without a failure has a plan exactly when each of
its parameters has an input of an equal name that fits. When each candidate can be planned for
without a failure, and one of them has a plan,

* the first of the cheapest plans is used; in it each input has a place of its own that suits it,
  each parameter is bound to one input, and the cost is that of the placements;
* each argument is the value of the input that is bound to its parameter;
* if the constructor request by the types of the planned parameters is compiled, the constructor
  with these parameters is prepared, or the default value of a value type that is made without
  arguments. It is run with the arguments, and its failure is the result. Otherwise the members of
  what it makes are written.

The accessor that is kept for the request, if there is one, was compiled from the same types, as in
every steady session (`Steady.faithful`). -/
theorem createWith_runs_cheapest (harrays : s.world.registry.ArraysBare)
    (hinfo : s.world.registry.get type = some info) :
    ((∃ e, ((createWith type inputs).run s).1 = .error e ∧ e.missesConstructor = true) ↔
      ∀ params ∈ candidates info,
        ConstructionPlan.ofParams s.world type inputs params = .ok none) ∧
    (∀ params ∈ candidates info, Unambiguous params inputs → ∀ result,
      ConstructionPlan.ofParams s.world type inputs params = .ok result →
      (result.isSome = true ↔ ∀ param ∈ params, ∃ input ∈ inputs, Serves s.world param input)) ∧
    ((∀ params ∈ candidates info, ∃ result,
        ConstructionPlan.ofParams s.world type inputs params = .ok result) →
      (∃ params ∈ candidates info,
        ConstructionPlan.ofParams s.world type inputs params ≠ .ok none) →
      ∃ k params plan args,
        Cheapest s.world type inputs info k params plan ∧
        plan.Sound s.world type inputs params ∧ FedBy s.world inputs params plan args ∧
        (createWith type inputs).run s = (carryOut type plan inputs args).run s ∧
        (Faithful .constructor (constructorRequest type params) s → ∀ prepared n,
          Compiler.constructor.compile s.world.registry (constructorRequest type params)
            = (.ok prepared, n) →
          Makes s.world.registry type info k params prepared.action ∧
          Completes type (memberWrites plan inputs) (prepared.action.run args s.world)
            ((createWith type inputs).run s).1)) := by
  refine ⟨⟨?misses, ?none⟩, fun params _ hunambiguous result hresult => ?planned,
    fun hplans hsome => ?runs⟩
  case misses =>
    rintro ⟨e, hfailed, hmisses⟩
    by_contra hsome
    push Not at hsome
    have hfinds := finds_createWith hinfo hsome e hfailed
    simp [hmisses] at hfinds
  case none =>
    intro hnone
    have hplan := run_planFor_of_none hinfo hnone
    exact ⟨_, run_createWith_of_error (congrArg Prod.fst hplan), rfl⟩
  case planned => exact ConstructionPlan.isSome_ofParams_iff hunambiguous hresult
  case runs =>
    obtain ⟨k, params, plan, args, hcheapest, hsound, hfed, hrun⟩ :=
      exists_run_createWith hinfo hplans hsome
    refine ⟨k, params, plan, args, hcheapest, hsound, hfed, hrun, ?_⟩
    intro hfaithful prepared n hcompile
    rw [hrun]
    exact ⟨makes_of_compile hinfo (harrays.get hinfo) hcheapest.candidate hcompile,
      completes_carryOut hsound hcompile hfaithful⟩

/-- The parameters for the label and the width of a panel. -/
def panelParams : List ParameterInfo := [.byValue "label" .string, .byValue "width" .int32]

/-- A panel has a label and a width. The width may be left for later. -/
def panelBlueprint : Blueprint :=
  let data : MemberM Instance := pure (.mk "Panel" none [("width", .value (.int32 0))])
  (((Blueprint.reference "Panel").withField
    (.readWrite "Panel" "Width" .int32 (fun _ => .done (.int32 0))
      fun data _ => .done (.ok (), data))).withConstructor panelParams data).withConstructor
    [.byValue "label" .string] data

/-- The type of panels. -/
def panel : TypeHandle × Registry := Registry.initial.declare (.described "Panel") panelBlueprint

/-- A world with this type. -/
def workshop : World := World.ofRegistry panel.2

/-- A width in text, and a label under a name in capitals. -/
def panelInputs : List NamedValue := [("width", .string "7"), ("LABEL", .string "x")]

/-- With a width, a panel is made by the first constructor, although the inputs come in another
order and the width is converted: to write the width into the field later would cost more. -/
theorem createWith_runs_cheapest_panel :
    ∃ info plan args prepared,
      workshop.registry.ArraysBare ∧ workshop.registry.get panel.1 = some info ∧
      Cheapest workshop panel.1 panelInputs info 0 panelParams plan ∧
      plan.placements = [.parameter 1, .parameter 0] ∧ plan.cost = 901 ∧
      FedBy workshop panelInputs panelParams plan args ∧
      args = [.string "x", .int32 7] ∧
      Compiler.constructor.compile workshop.registry (constructorRequest panel.1 panelParams)
        = (.ok prepared, 1) ∧
      Makes workshop.registry panel.1 info 0 panelParams prepared.action ∧
      Completes panel.1 (memberWrites plan panelInputs)
        (prepared.action.run args workshop)
        ((createWith panel.1 panelInputs).run ⟨workshop, .standard⟩).1 := by
  have harrays : workshop.registry.ArraysBare :=
    Registry.arraysBare_declare Registry.arraysBare_initial _ fun _ => by decide
  obtain ⟨info, hinfo, hcandidates⟩ : ∃ info, workshop.registry.get panel.1 = some info ∧
      candidates info = [panelParams, [.byValue "label" .string]] := ⟨_, rfl, rfl⟩
  obtain ⟨both, hboth, hplacements, hcost⟩ : ∃ plan,
      ConstructionPlan.ofParams workshop panel.1 panelInputs panelParams
        = .ok (some plan) ∧ plan.placements = [.parameter 1, .parameter 0] ∧ plan.cost = 901 :=
    ⟨_, rfl, rfl, rfl⟩
  obtain ⟨later, hlater, hmore⟩ : ∃ plan,
      ConstructionPlan.ofParams workshop panel.1 panelInputs
        [.byValue "label" .string] = .ok (some plan) ∧ plan.cost = 1011 := ⟨_, rfl, rfl⟩
  obtain ⟨prepared, hprepared⟩ : ∃ prepared,
      Compiler.constructor.compile workshop.registry (constructorRequest panel.1 panelParams)
        = (.ok prepared, 1) := ⟨_, rfl⟩
  obtain ⟨k, params, plan, args, hcheapest, -, hfed, -, hmade⟩ :=
    (@createWith_runs_cheapest ⟨workshop, .standard⟩ panel.1 info panelInputs harrays hinfo).2.2
      (by simp [hcandidates, hboth, hlater]) ⟨panelParams, by simp [hcandidates], by simp [hboth]⟩
  -- The second constructor would cost more.
  obtain ⟨rfl, rfl⟩ : k = 0 ∧ params = panelParams := by
    have hcandidate := hcheapest.candidate
    rw [hcandidates] at hcandidate
    match k with
    | 0 => exact ⟨rfl, (Option.some.inj hcandidate).symm⟩
    | 1 =>
        obtain rfl := Option.some.inj hcandidate
        obtain rfl : later = plan := by simpa [hlater] using hcheapest.planned
        have hless :=
          (hcheapest.least 0 panelParams both (by simp [hcandidates]) hboth).2 (by decide)
        rw [← (ConstructionPlan.ofParams_sound hlater).cost_eq,
          ← (ConstructionPlan.ofParams_sound hboth).cost_eq, hcost, hmore] at hless
        exact absurd hless (by decide)
    | k + 2 => cases hcandidate
  obtain rfl : both = plan := by simpa [hboth] using hcheapest.planned
  have hfaithful : Faithful .constructor (constructorRequest panel.1 panelParams)
      ⟨workshop, .standard⟩ := (Steady.start workshop _ _ _).faithful (.create _ _ _)
  obtain ⟨hmakes, hcompletes⟩ := hmade hfaithful prepared 1 hprepared
  refine ⟨info, both, args, prepared, harrays, hinfo, hcheapest, hplacements, hcost, hfed, ?_,
    hprepared, hmakes, hcompletes⟩
  -- The label is the second input, and the width the first one.
  have hposition : ∀ {index position : Nat}, both.placements[position]? = some (.parameter index) →
      index + position = 1 := by
    intro index position h
    rw [hplacements] at h
    match position with
    | 0 => cases h; rfl
    | 1 => cases h; rfl
    | position + 2 => cases h
  obtain ⟨label, width, rfl⟩ := List.length_eq_two.mp hfed.1
  obtain ⟨position, input, r, hplaced, hinput, hr, hlabel⟩ := hfed.2 0 _ rfl
  obtain ⟨position', input', r', hplaced', hinput', hr', hwidth⟩ := hfed.2 1 _ rfl
  obtain rfl : position = 1 := by simpa using hposition hplaced
  obtain rfl : position' = 0 := by simpa using hposition hplaced'
  cases hinput; cases hinput'; cases hlabel; cases hwidth
  cases hr
  cases hr'
  rfl

end Introspect.Reflector
