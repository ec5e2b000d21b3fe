import Introspect.Proofs.Registry.Assembly
import Introspect.Proofs.Resolver.DataMembers

/-!
# `Introspect.Proofs.Accessor.Pairing`: a mapping is a matching

A mapper pairs source members with target members that have their name and accept their type.
`Selects` says which members these are: those that can be read, or written, and whose names are to
be copied. `Candidate` is the relation, `OneToOne` says that no member stands in it twice, and
`Matched` that the steps of a mapper copy exactly the related pairs.

The pairs are found in two passes: `pair` goes through the targets and refuses one that has two
sources, `checkFed` goes through the pairs and refuses a source that has two targets, going by the
names of sources only. That is enough because no two members of a type have the same name.
`compile_matching` is the result: either the relation is one-to-one and there is a mapper whose
steps match it, or it is not and the request is ambiguous. Nothing else goes wrong, since whatever
a type offers to a mapping can be prepared.
-/

set_option autoImplicit false

namespace Introspect

/-- A step copies one pair of members. -/
structure MapStep.Copies (reg : Registry) (pair : DataMember × DataMember) (step : MapStep) :
    Prop where
  member : step.member = ⟨pair.1.name, pair.2.name⟩
  read : ∃ handle, pair.1.read = some handle ∧ Reader.ofMember reg handle = .ok step.read
  write : ∃ handle, pair.2.write = some handle ∧ Writer.ofMember reg handle = .ok step.write

namespace MapSignature

variable {sig : MapSignature} {reg : Registry} {sources targets : List DataMember}

/-- A name is to be copied: none are listed, or it matches one that is. -/
def Admitted (sig : MapSignature) (name : String) : Prop :=
  sig.names = [] ∨ ∃ wanted ∈ sig.names, sig.nameFlags.matchesName name wanted = true

/-- Of the members that a type offers, these are the usable ones with a name that is to be copied,
in the order in which they are offered. -/
structure Selects (sig : MapSignature) (usable : DataMember → Bool)
    (offered members : List DataMember) : Prop where
  sublist : members.Sublist offered
  mem_iff : ∀ m, m ∈ members ↔ m ∈ offered ∧ usable m = true ∧ sig.Admitted m.name

/-- A source member and a target member of the same name, of a type that the target member
accepts. -/
structure Candidate (sig : MapSignature) (reg : Registry) (sources targets : List DataMember)
    (source target : DataMember) : Prop where
  source_mem : source ∈ sources
  target_mem : target ∈ targets
  name : namesEqual source.name target.name sig.ignoresCase = true
  type : reg.isAssignable target.type source.type = true

/-- No member stands in two candidate pairs. -/
structure OneToOne (sig : MapSignature) (reg : Registry) (sources targets : List DataMember) :
    Prop where
  source_unique : ∀ {source other target}, sig.Candidate reg sources targets source target →
    sig.Candidate reg sources targets other target → source = other
  target_unique : ∀ {source target other}, sig.Candidate reg sources targets source target →
    sig.Candidate reg sources targets source other → target = other

/-- The steps copy the candidate pairs in the order of the targets, none lost and none twice. -/
def Matched (sig : MapSignature) (reg : Registry) (sources targets : List DataMember)
    (steps : List MapStep) : Prop :=
  ∃ pairs : List (DataMember × DataMember),
    (∀ pair, pair ∈ pairs ↔ sig.Candidate reg sources targets pair.1 pair.2) ∧ pairs.Nodup ∧
      (pairs.map (·.2)).Sublist targets ∧ List.Forall₂ (MapStep.Copies reg) pairs steps

/-! ### The candidate pairs -/

/-- The candidate pairs, in the order of the targets. -/
def candidates (sig : MapSignature) (reg : Registry) (sources targets : List DataMember) :
    List (DataMember × DataMember) :=
  targets.flatMap fun target =>
    (sources.filter (sig.isCandidate reg · target)).map (·, target)

/-- The sources of a target are those that make a candidate pair with it. -/
theorem mem_filter_iff {source target : DataMember} (htarget : target ∈ targets) :
    source ∈ sources.filter (sig.isCandidate reg · target) ↔
      sig.Candidate reg sources targets source target := by
  rw [List.mem_filter, isCandidate, Bool.and_eq_true]
  constructor
  · rintro ⟨hsource, hname, htype⟩
    exact ⟨hsource, htarget, hname, htype⟩
  · rintro ⟨hsource, -, hname, htype⟩
    exact ⟨hsource, hname, htype⟩

/-- The list of candidate pairs holds nothing else. -/
theorem mem_candidates_iff {pair : DataMember × DataMember} :
    pair ∈ sig.candidates reg sources targets ↔
      sig.Candidate reg sources targets pair.1 pair.2 := by
  obtain ⟨source, target⟩ := pair
  simp only [candidates, List.mem_flatMap, List.mem_map, Prod.mk.injEq]
  constructor
  · rintro ⟨found, hfound, other, hother, rfl, rfl⟩
    exact (mem_filter_iff hfound).mp hother
  · intro h
    exact ⟨target, h.target_mem, source, (mem_filter_iff h.target_mem).mpr h, rfl, rfl⟩

/-! ### First pass: the sources of each target -/

/-- A list of distinct items is longer than one if two of them are different. -/
theorem one_lt_length_iff {α : Type} {items : List α} (h : items.Nodup) :
    1 < items.length ↔ ∃ a ∈ items, ∃ b ∈ items, a ≠ b := by
  match items, h with
  | [], _ => simp
  | [one], _ => simp
  | first :: second :: rest, h =>
      have hne : first ≠ second := by
        rintro rfl
        simp at h
      simp only [List.length_cons, Nat.lt_add_left_iff_pos, Nat.zero_lt_succ, true_iff]
      exact ⟨first, by simp, second, by simp, hne⟩

/-- A target has more than one source if two of them make a candidate pair with it. -/
theorem one_lt_length_filter_iff (hnodup : sources.Nodup) {target : DataMember}
    (htarget : target ∈ targets) :
    1 < (sources.filter (sig.isCandidate reg · target)).length ↔
      ∃ source other, sig.Candidate reg sources targets source target ∧
        sig.Candidate reg sources targets other target ∧ source ≠ other := by
  rw [one_lt_length_iff (hnodup.filter _)]
  constructor
  · rintro ⟨source, hsource, other, hother, hne⟩
    exact ⟨source, other, (mem_filter_iff htarget).mp hsource, (mem_filter_iff htarget).mp hother,
      hne⟩
  · rintro ⟨source, other, hsource, hother, hne⟩
    exact ⟨source, (mem_filter_iff htarget).mpr hsource, other,
      (mem_filter_iff htarget).mpr hother, hne⟩

/-- The partner of a target is its only source; more than one are refused. -/
theorem partner_eq (sig : MapSignature) (reg : Registry) (sources : List DataMember)
    (target : DataMember) :
    sig.partner reg sources target =
      let found := sources.filter (sig.isCandidate reg · target)
      if 1 < found.length then
        .error (.ambiguousMapping (reg.nameOf sig.target ++ "." ++ target.name)
          (found.map (·.name)))
      else .ok found.head? := by
  unfold partner
  match sources.filter (sig.isCandidate reg · target) with
  | [] => rfl
  | [_] => rfl
  | _ :: _ :: _ => simp

/-- A candidate pair stays one when there are more targets. -/
theorem Candidate.cons {source target first : DataMember}
    (h : sig.Candidate reg sources targets source target) :
    sig.Candidate reg sources (first :: targets) source target :=
  { h with target_mem := .tail _ h.target_mem }

/-- The candidate pairs of the first target come first. -/
theorem candidates_cons (sig : MapSignature) (reg : Registry) (sources rest : List DataMember)
    (target : DataMember) :
    sig.candidates reg sources (target :: rest) =
      (sources.filter (sig.isCandidate reg · target)).map (·, target) ++
        sig.candidates reg sources rest :=
  List.flatMap_cons

/-- Without a target that has two sources, the pairs are the candidate pairs, in the order of the
targets. -/
theorem pair_eq_ok (hnodup : sources.Nodup)
    (hunique : ∀ {source other target}, sig.Candidate reg sources targets source target →
      sig.Candidate reg sources targets other target → source = other) :
    sig.pair reg sources targets = .ok (sig.candidates reg sources targets) ∧
      ((sig.candidates reg sources targets).map (·.2)).Sublist targets := by
  induction targets with
  | nil => exact ⟨rfl, .slnil⟩
  | cons target rest ih =>
      obtain ⟨hpair, hsublist⟩ := ih fun h h' => hunique h.cons h'.cons
      have hfew : ¬ 1 < (sources.filter (sig.isCandidate reg · target)).length := by
        rw [one_lt_length_filter_iff hnodup List.mem_cons_self]
        rintro ⟨source, other, hsource, hother, hne⟩
        exact hne (hunique hsource hother)
      rw [candidates_cons, pair, partner_eq, hpair]
      match hfound : sources.filter (sig.isCandidate reg · target), hfew with
      | [], _ => exact ⟨by simp [bind, Except.bind, pure, Except.pure], .cons _ hsublist⟩
      | [source], _ =>
          exact ⟨by simp [bind, Except.bind, pure, Except.pure], .cons_cons _ hsublist⟩
      | _ :: _ :: _, hfew => simp at hfew

/-- A target with two sources makes the request ambiguous. -/
theorem pair_eq_error (hnodup : sources.Nodup) {source other target : DataMember}
    (h : sig.Candidate reg sources targets source target)
    (h' : sig.Candidate reg sources targets other target) (hne : source ≠ other) :
    ∃ member names, sig.pair reg sources targets = .error (.ambiguousMapping member names) := by
  induction targets with
  | nil => exact absurd h.target_mem List.not_mem_nil
  | cons first rest ih =>
      rw [pair, partner_eq]
      by_cases hmany : 1 < (sources.filter (sig.isCandidate reg · first)).length
      · simp only [if_pos hmany, bind, Except.bind]
        exact ⟨_, _, rfl⟩
      · have hrest : target ∈ rest := by
          refine (List.mem_cons.mp h.target_mem).resolve_left fun hfirst => hmany ?_
          subst hfirst
          exact (one_lt_length_filter_iff hnodup List.mem_cons_self).mpr
            ⟨source, other, h, h', hne⟩
        obtain ⟨member, names, herror⟩ :=
          ih { h with target_mem := hrest } { h' with target_mem := hrest }
        simp only [if_neg hmany, herror, bind, Except.bind]
        exact ⟨member, names, rfl⟩

/-! ### Second pass: the targets of each source -/

/-- The candidate pairs are distinct. -/
theorem nodup_candidates (hsources : sources.Nodup) (htargets : targets.Nodup) :
    (sig.candidates reg sources targets).Nodup := by
  refine List.nodup_flatMap.mpr ⟨fun target _ => ?_, htargets.imp fun hne => ?_⟩
  · exact (hsources.filter _).map fun _ _ h => congrArg Prod.fst h
  · intro pair hpair hother
    obtain ⟨source, _, rfl⟩ := List.mem_map.mp hpair
    obtain ⟨other, _, heq⟩ := List.mem_map.mp hother
    exact hne (congrArg Prod.snd heq).symm

variable {pairs : List (DataMember × DataMember)}

/-- A source feeds more than one target if two pairs have it in common. -/
theorem one_lt_length_fed_iff (hpairs : pairs.Nodup)
    (hnames : ∀ pair ∈ pairs, ∀ other ∈ pairs, pair.1.name = other.1.name → pair.1 = other.1)
    {pair : DataMember × DataMember} (hpair : pair ∈ pairs) :
    1 < (fed pairs pair.1).length ↔
      ∃ first ∈ pairs, ∃ second ∈ pairs, first ≠ second ∧ first.1 = pair.1 ∧
        second.1 = pair.1 := by
  have hmem : ∀ other, other ∈ pairs.filter (fun p => p.1.name == pair.1.name) ↔
      other ∈ pairs ∧ other.1 = pair.1 := by
    intro other
    rw [List.mem_filter, beq_iff_eq]
    exact ⟨fun h => ⟨h.1, hnames other h.1 pair hpair h.2⟩, fun h => ⟨h.1, by rw [h.2]⟩⟩
  rw [fed, List.length_map, one_lt_length_iff (hpairs.filter _)]
  constructor
  · rintro ⟨first, hfirst, second, hsecond, hne⟩
    obtain ⟨hfirst, hone⟩ := (hmem first).mp hfirst
    obtain ⟨hsecond, htwo⟩ := (hmem second).mp hsecond
    exact ⟨first, hfirst, second, hsecond, hne, hone, htwo⟩
  · rintro ⟨first, hfirst, second, hsecond, hne, hone, htwo⟩
    exact ⟨first, (hmem first).mpr ⟨hfirst, hone⟩, second, (hmem second).mpr ⟨hsecond, htwo⟩, hne⟩

/-- The second pass refuses pairs of which two have their source in common, and no others. -/
theorem checkFed_cases (hpairs : pairs.Nodup)
    (hnames : ∀ pair ∈ pairs, ∀ other ∈ pairs, pair.1.name = other.1.name → pair.1 = other.1) :
    (sig.checkFed reg pairs = .ok () ∧
      ∀ first ∈ pairs, ∀ second ∈ pairs, first.1 = second.1 → first = second) ∨
    ((∃ member names, sig.checkFed reg pairs = .error (.ambiguousMapping member names)) ∧
      ∃ first ∈ pairs, ∃ second ∈ pairs, first ≠ second ∧ first.1 = second.1) := by
  unfold checkFed
  cases hfind : pairs.find? fun p => 1 < (fed pairs p.1).length with
  | none =>
      refine .inl ⟨rfl, fun first hfirst second hsecond hsame => ?_⟩
      have hfew := List.find?_eq_none.mp hfind first hfirst
      by_contra hne
      refine hfew (decide_eq_true ?_)
      exact (one_lt_length_fed_iff hpairs hnames hfirst).mpr
        ⟨first, hfirst, second, hsecond, hne, rfl, hsame.symm⟩
  | some pair =>
      have hmany : 1 < (fed pairs pair.1).length := by simpa using List.find?_some hfind
      obtain ⟨first, hfirst, second, hsecond, hne, hone, htwo⟩ :=
        (one_lt_length_fed_iff hpairs hnames (List.mem_of_find?_eq_some hfind)).mp hmany
      exact .inr ⟨⟨_, _, rfl⟩, first, hfirst, second, hsecond, hne, hone.trans htwo.symm⟩

/-! ### The steps -/

/-- The copy of a pair that can be read and written is prepared. -/
theorem prepareStep_eq_ok {source target : DataMember} (hsource : source.Preparable reg)
    (htarget : target.Preparable reg) (hread : source.read.isSome = true)
    (hwrite : target.write.isSome = true) :
    ∃ step, prepareStep reg source target = .ok (some step) ∧
      step.Copies reg (source, target) := by
  obtain ⟨read, hread⟩ := Option.isSome_iff_exists.mp hread
  obtain ⟨write, hwrite⟩ := Option.isSome_iff_exists.mp hwrite
  obtain ⟨reader, hreader⟩ := hsource.read read hread
  obtain ⟨writer, hwriter⟩ := htarget.write write hwrite
  refine ⟨⟨⟨source.name, target.name⟩, reader, writer⟩, ?_, rfl, ⟨read, hread, hreader⟩,
    ⟨write, hwrite, hwriter⟩⟩
  simp [prepareStep, hread, hwrite, hreader, hwriter, bind, Except.bind, pure, Except.pure]

/-- The copies of all pairs are prepared, if that of each is. -/
theorem mapM_prepareStep (h : ∀ pair ∈ pairs, ∃ step : MapStep,
      prepareStep reg pair.1 pair.2 = .ok (some step) ∧ step.Copies reg pair) :
    ∃ steps, pairs.mapM (fun (source, target) => prepareStep reg source target) =
        .ok (steps.map some) ∧ List.Forall₂ (MapStep.Copies reg) pairs steps := by
  induction pairs with
  | nil => exact ⟨[], rfl, .nil⟩
  | cons pair rest ih =>
      obtain ⟨step, hstep, hcopies⟩ := h pair List.mem_cons_self
      obtain ⟨steps, hsteps, hall⟩ := ih fun other hother => h other (.tail _ hother)
      refine ⟨step :: steps, mapM_eq_ok_iff.mpr ?_, .cons hcopies hall⟩
      exact .cons hstep (mapM_eq_ok_iff.mp hsteps)

/-! ### The mapper -/

/-- What a mapping selects of the members of a type: distinct names, and members that can be
prepared and offer what was wanted. -/
structure Selected (reg : Registry) (wanted : DataMember → Bool) (members : List DataMember) :
    Prop where
  names : (members.map (·.name)).Nodup
  preparable : ∀ m ∈ members, m.Preparable reg
  wanted : ∀ m ∈ members, wanted m = true

/-- Members of the same name are the same. -/
theorem Selected.eq_of_name {wanted : DataMember → Bool} {members : List DataMember}
    (h : Selected reg wanted members) {m other : DataMember} (hm : m ∈ members)
    (hother : other ∈ members) (hname : m.name = other.name) : m = other :=
  List.inj_on_of_nodup_map h.names hm hother hname

/-- The members of a registered type can be selected from. -/
theorem exists_selected (hkeyed : reg.Keyed) {type : TypeHandle} (htype : reg.Registered type)
    (kinds : DataKinds) (flags : Flags) (wanted : DataMember → Bool) :
    ∃ found, Resolver.dataMembers reg type kinds flags = .ok found ∧
      Selected reg wanted (found.filter wanted) := by
  obtain ⟨chain, hchain⟩ := Registry.typeChain_eq_ok htype flags
  have hfound : Resolver.dataMembers reg type kinds flags = .ok _ :=
    Resolver.dataMembers_eq_ok_iff.mpr ⟨chain, hchain, rfl⟩
  refine ⟨_, hfound, ?_, fun m hm => ?_, fun m hm => (List.mem_filter.mp hm).2⟩
  · exact (Resolver.nodup_dataMembers hfound).sublist (List.filter_sublist.map _)
  · exact Resolver.preparable_of_mem hkeyed hfound (List.mem_filter.mp hm).1

/-- The names that are admitted are those that are to be copied. -/
theorem admits_iff {name : String} : sig.admits name = true ↔ sig.Admitted name := by
  rw [admits, Bool.or_eq_true, List.isEmpty_iff, List.any_eq_true]
  rfl

/-- A filter by use and name selects what it keeps. -/
theorem selects_filter (sig : MapSignature) (usable : DataMember → Bool)
    (offered : List DataMember) :
    sig.Selects usable offered (offered.filter fun m => usable m && sig.admits m.name) where
  sublist := List.filter_sublist
  mem_iff m := by rw [List.mem_filter, Bool.and_eq_true, admits_iff]

/-- The sources of a mapping from a registered type. -/
theorem sources_eq_ok (hkeyed : reg.Keyed) (h : reg.Registered sig.source) :
    ∃ offered sources, Resolver.dataMembers reg sig.source sig.sourceKinds sig.flags = .ok offered ∧
      sig.sources reg = .ok sources ∧ sig.Selects (·.read.isSome) offered sources ∧
      Selected reg (fun m => m.read.isSome && sig.admits m.name) sources := by
  obtain ⟨found, hfound, hselected⟩ := exists_selected hkeyed h sig.sourceKinds sig.flags
    fun m => m.read.isSome && sig.admits m.name
  exact ⟨_, _, hfound,
    by simp [MapSignature.sources, hfound, bind, Except.bind, pure, Except.pure],
    sig.selects_filter (·.read.isSome) found, hselected⟩

/-- The targets of a mapping to a registered type. -/
theorem targets_eq_ok (hkeyed : reg.Keyed) (h : reg.Registered sig.target) :
    ∃ offered targets, Resolver.dataMembers reg sig.target sig.targetKinds sig.flags = .ok offered ∧
      sig.targets reg = .ok targets ∧ sig.Selects (·.write.isSome) offered targets ∧
      Selected reg (fun m => m.write.isSome && sig.admits m.name) targets := by
  obtain ⟨found, hfound, hselected⟩ := exists_selected hkeyed h sig.targetKinds sig.flags
    fun m => m.write.isSome && sig.admits m.name
  exact ⟨_, _, hfound,
    by simp [MapSignature.targets, hfound, bind, Except.bind, pure, Except.pure],
    sig.selects_filter (·.write.isSome) found, hselected⟩

/-- What is read and written by the first pass, the second pass and the preparation of steps. -/
theorem compile_eq (hsources : sig.sources reg = .ok sources)
    (htargets : sig.targets reg = .ok targets) :
    sig.compile reg = do
      let pairs ← sig.pair reg sources targets
      sig.checkFed reg pairs
      let steps ← pairs.mapM fun (source, target) => prepareStep reg source target
      return ⟨sig, steps.filterMap id⟩ := by
  rw [compile, hsources, htargets]
  rfl

section Selected

variable (hreadable : Selected reg (fun m => m.read.isSome && sig.admits m.name) sources)
  (hwritable : Selected reg (fun m => m.write.isSome && sig.admits m.name) targets)

include hreadable in
/-- In the candidate pairs, sources of the same name are the same. -/
theorem source_eq_of_name : ∀ pair ∈ sig.candidates reg sources targets,
    ∀ other ∈ sig.candidates reg sources targets, pair.1.name = other.1.name →
      pair.1 = other.1 := by
  intro pair hpair other hother
  exact hreadable.eq_of_name (mem_candidates_iff.mp hpair).source_mem
    (mem_candidates_iff.mp hother).source_mem

include hreadable hwritable in
/-- The candidate pairs can be prepared. -/
theorem prepared_candidates : ∀ pair ∈ sig.candidates reg sources targets, ∃ step : MapStep,
    prepareStep reg pair.1 pair.2 = .ok (some step) ∧ step.Copies reg pair := by
  intro pair hpair
  have hcandidate := mem_candidates_iff.mp hpair
  have hread := hreadable.wanted _ hcandidate.source_mem
  have hwrite := hwritable.wanted _ hcandidate.target_mem
  rw [Bool.and_eq_true] at hread hwrite
  exact prepareStep_eq_ok (hreadable.preparable _ hcandidate.source_mem)
    (hwritable.preparable _ hcandidate.target_mem) hread.1 hwrite.1

include hreadable hwritable in
/-- If no member stands in two candidate pairs, the mapper copies the candidate pairs. -/
theorem compile_of_oneToOne (hsources : sig.sources reg = .ok sources)
    (htargets : sig.targets reg = .ok targets) (hone : sig.OneToOne reg sources targets) :
    ∃ steps, sig.compile reg = .ok ⟨sig, steps⟩ ∧ sig.Matched reg sources targets steps := by
  have hnodup : sources.Nodup := hreadable.names.of_map
  have hpairs : (sig.candidates reg sources targets).Nodup :=
    nodup_candidates hnodup hwritable.names.of_map
  obtain ⟨hpair, hsublist⟩ := pair_eq_ok hnodup hone.source_unique
  obtain ⟨steps, hsteps, hcopies⟩ := mapM_prepareStep (prepared_candidates hreadable hwritable)
  have hchecked : sig.checkFed reg (sig.candidates reg sources targets) = .ok () := by
    refine ((checkFed_cases hpairs (source_eq_of_name hreadable)).resolve_right ?_).1
    rintro ⟨-, first, hfirst, second, hsecond, hne, hsame⟩
    have htwo := mem_candidates_iff.mp hsecond
    rw [← hsame] at htwo
    exact hne (Prod.ext hsame (hone.target_unique (mem_candidates_iff.mp hfirst) htwo))
  refine ⟨steps, ?_, _, fun pair => mem_candidates_iff, hpairs, hsublist, hcopies⟩
  rw [compile_eq hsources htargets]
  simp [hpair, hchecked, hsteps, bind, Except.bind, pure, Except.pure]

include hreadable hwritable in
/-- If a member stands in two candidate pairs, the request is ambiguous. -/
theorem compile_of_not_oneToOne (hsources : sig.sources reg = .ok sources)
    (htargets : sig.targets reg = .ok targets) (hmany : ¬ sig.OneToOne reg sources targets) :
    ∃ member names, sig.compile reg = .error (.ambiguousMapping member names) := by
  have hnodup : sources.Nodup := hreadable.names.of_map
  have hpairs : (sig.candidates reg sources targets).Nodup :=
    nodup_candidates hnodup hwritable.names.of_map
  rw [compile_eq hsources htargets]
  by_cases hunique : ∀ source other target, sig.Candidate reg sources targets source target →
      sig.Candidate reg sources targets other target → source = other
  · -- Every target has one source, so a source has two targets and the second pass finds it.
    obtain ⟨hpair, -⟩ := pair_eq_ok hnodup fun h h' => hunique _ _ _ h h'
    obtain ⟨⟨member, names, herror⟩, -⟩ : (∃ member names,
        sig.checkFed reg (sig.candidates reg sources targets) =
          .error (.ambiguousMapping member names)) ∧ _ := by
      refine (checkFed_cases hpairs (source_eq_of_name hreadable)).resolve_left ?_
      rintro ⟨-, hsame⟩
      refine hmany ⟨fun h h' => hunique _ _ _ h h', fun {source target other} h h' => ?_⟩
      exact congrArg Prod.snd (hsame (source, target) (mem_candidates_iff.mpr h) (source, other)
        (mem_candidates_iff.mpr h') rfl)
    exact ⟨member, names, by simp [hpair, herror, bind, Except.bind]⟩
  · obtain ⟨source, other, target, h, h', hne⟩ : ∃ source other target,
        sig.Candidate reg sources targets source target ∧
          sig.Candidate reg sources targets other target ∧ source ≠ other := by
      simpa only [not_forall, exists_prop] using hunique
    obtain ⟨member, names, herror⟩ := pair_eq_error hnodup h h' hne
    exact ⟨member, names, by simp [herror, bind, Except.bind]⟩

end Selected

/-- A mapper is compiled exactly if no member stands in two candidate pairs, and then copies the
candidate pairs. Otherwise the request is ambiguous.

The candidates are the readable members that the source type offers, and the writable ones that the
target type offers, with names that are to be copied. -/
theorem compile_matching (hkeyed : reg.Keyed) (hsource : reg.Registered sig.source)
    (htarget : reg.Registered sig.target) :
    ∃ ofSource ofTarget sources targets,
      Resolver.dataMembers reg sig.source sig.sourceKinds sig.flags = .ok ofSource ∧
      Resolver.dataMembers reg sig.target sig.targetKinds sig.flags = .ok ofTarget ∧
      sig.Selects (·.read.isSome) ofSource sources ∧
      sig.Selects (·.write.isSome) ofTarget targets ∧
      sig.sources reg = .ok sources ∧ sig.targets reg = .ok targets ∧
      ((sig.OneToOne reg sources targets ∧
          ∃ steps, sig.compile reg = .ok ⟨sig, steps⟩ ∧ sig.Matched reg sources targets steps) ∨
        (¬ sig.OneToOne reg sources targets ∧
          ∃ member names, sig.compile reg = .error (.ambiguousMapping member names))) := by
  obtain ⟨ofSource, sources, hofSource, hsources, hfrom, hreadable⟩ := sources_eq_ok hkeyed hsource
  obtain ⟨ofTarget, targets, hofTarget, htargets, hto, hwritable⟩ := targets_eq_ok hkeyed htarget
  refine ⟨ofSource, ofTarget, sources, targets, hofSource, hofTarget, hfrom, hto, hsources,
    htargets, ?_⟩
  by_cases hone : sig.OneToOne reg sources targets
  · exact .inl ⟨hone, compile_of_oneToOne hreadable hwritable hsources htargets hone⟩
  · exact .inr ⟨hone, compile_of_not_oneToOne hreadable hwritable hsources htargets hone⟩

/-- A type with an owner, and with two amounts whose names differ by case only. -/
def purse : TypeHandle × Registry :=
  Registry.initial.declare (.described "Purse") <| (Blueprint.reference "Purse")
    |>.withField (.ofSlot "Purse" "Amount" "amount" .int32 .int32)
    |>.withField (.ofSlot "Purse" "amount" "spare" .int32 .int32)
    |>.withField (.ofSlot "Purse" "Owner" "owner" .string .string)

/-- A type with an owner and one amount. -/
def wallet : TypeHandle × Registry :=
  purse.2.declare (.described "Wallet") <| (Blueprint.reference "Wallet")
    |>.withField (.ofSlot "Wallet" "Amount" "amount" .int32 .int32)
    |>.withField (.ofSlot "Wallet" "Owner" "owner" .string .string)

/-- The amount of a purse is put into a wallet, with or without regard to the case of names. -/
def filling (flags : Flags) : MapSignature :=
  .between purse.1 wallet.1 .onlyFields .onlyFields ["Amount"] flags

/-- With regard to case, the amount of a wallet is copied from its namesake, and the owner is not
copied; without, the amount would have two sources. -/
theorem compile_matching_wallet :
    wallet.2.Keyed ∧ wallet.2.Registered purse.1 ∧ wallet.2.Registered wallet.1 ∧
      (∃ ofTarget sources targets steps,
        ofTarget.map (·.name) = ["Amount", "Owner"] ∧
        (filling Flags.standard).Selects (·.write.isSome) ofTarget targets ∧
        (filling Flags.standard).OneToOne wallet.2 sources targets ∧
        (filling Flags.standard).Matched wallet.2 sources targets steps ∧
        steps.map (·.member) = [⟨"Amount", "Amount"⟩]) ∧
      ∃ sources targets, (filling (Flags.standard ∪ Flags.ignoreCase)).targets wallet.2 =
          .ok targets ∧
        ¬ (filling (Flags.standard ∪ Flags.ignoreCase)).OneToOne wallet.2 sources targets := by
  have hkeyed : wallet.2.Keyed :=
    Registry.keyed_declare (Registry.keyed_declare Registry.keyed_initial _ _) _ _
  have hpurse : wallet.2.Registered purse.1 := by
    unfold Registry.Registered
    decide
  have hwallet : wallet.2.Registered wallet.1 := by
    unfold Registry.Registered
    decide
  refine ⟨hkeyed, hpurse, hwallet, ?_, ?_⟩
  · obtain ⟨-, ofTarget, sources, targets, -, hofTarget, -, hto, -, -,
        ⟨hone, steps, hcompile, hmatched⟩ | ⟨-, _, _, herror⟩⟩ :=
      @compile_matching (filling Flags.standard) wallet.2 hkeyed hpurse hwallet
    · obtain ⟨mapper, hmapper, hmembers⟩ : ∃ mapper,
          (filling Flags.standard).compile wallet.2 = .ok mapper ∧
            mapper.members = [⟨"Amount", "Amount"⟩] := ⟨_, rfl, rfl⟩
      obtain rfl : mapper = ⟨filling Flags.standard, steps⟩ := by
        simpa [hmapper] using hcompile
      obtain ⟨offered, hoffered, hnames⟩ : ∃ offered,
          Resolver.dataMembers wallet.2 wallet.1 .onlyFields Flags.standard = .ok offered ∧
            offered.map (·.name) = ["Amount", "Owner"] := ⟨_, rfl, rfl⟩
      obtain rfl : offered = ofTarget := Except.ok.inj (hoffered.symm.trans hofTarget)
      exact ⟨offered, sources, targets, steps, hnames, hto, hone, hmatched, hmembers⟩
    · exact nomatch herror
  · obtain ⟨-, -, sources, targets, -, -, -, -, -, htargets,
        ⟨-, steps, hcompile, -⟩ | ⟨hmany, -⟩⟩ :=
      @compile_matching (filling (Flags.standard ∪ Flags.ignoreCase)) wallet.2 hkeyed hpurse
        hwallet
    · exact nomatch hcompile
    · exact ⟨sources, targets, htargets, hmany⟩

end MapSignature

end Introspect
