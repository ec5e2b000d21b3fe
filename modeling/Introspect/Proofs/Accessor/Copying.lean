import Introspect.Proofs.Accessor.MappedMembers
import Introspect.Proofs.Accessor.Pairing
import Introspect.Proofs.Registry.Root

/-!
# `Introspect.Proofs.Accessor.Copying`: what a mapper copies

A mapper copies one pair of members after another. Each step reads the source member and writes the
target member, with a conversion, a lock and a search for the storage on either side.
`MapSignature.runStep_cases` says what comes of it, for members that are kept in slots and storage
that no one holds: the target member reads as the source member and all other places of the target
are as before, or the step fails and all places are.

`MapSignature.runSteps_copies` goes through the steps. It carries along that source and target can
be used as before, which each step preserves because the places of the target members are distinct
and the source is apart from the target.

`ObjectMapper.run_copies` is the result for a compiled mapper. When it succeeds, every pair has been
copied, and nothing else has changed. When it fails at some pair, the same holds of the pairs before
it, and the target members of the other pairs read as before.
-/

set_option autoImplicit false

namespace Introspect

section Steps

variable {reg : Registry} {pair : DataMember × DataMember} {step : MapStep}

/-- The step of a pair holds the prepared read of the source member. -/
theorem MapStep.Copies.read_eq (h : step.Copies reg pair) {handle : MemberHandle} {reader : Reader}
    (hhandle : pair.1.read = some handle) (hreader : Reader.ofMember reg handle = .ok reader) :
    step.read = reader := by
  obtain ⟨handle', hhandle', hreader'⟩ := h.read
  obtain rfl : handle = handle' := Option.some.inj (hhandle.symm.trans hhandle')
  exact Except.ok.inj (hreader'.symm.trans hreader)

/-- The step of a pair holds the prepared write of the target member. -/
theorem MapStep.Copies.write_eq (h : step.Copies reg pair) {handle : MemberHandle} {writer : Writer}
    (hhandle : pair.2.write = some handle) (hwriter : Writer.ofMember reg handle = .ok writer) :
    step.write = writer := by
  obtain ⟨handle', hhandle', hwriter'⟩ := h.write
  obtain rfl : handle = handle' := Option.some.inj (hhandle.symm.trans hhandle')
  exact Except.ok.inj (hwriter'.symm.trans hwriter)

end Steps

namespace MapSignature

variable {sig : MapSignature} {reg : Registry} {source target : Value} {w after : World}
  {sources targets : List DataMember} {pair : DataMember × DataMember}
  {pairs : List (DataMember × DataMember)} {step : MapStep} {steps : List MapStep} {place : Place}
  {placeOf : DataMember → Place}

/-! ### One step -/

/-- A value of a source member is one that the target member lets through, if its type accepts that
of the source member. Only the root type accepts the root type. -/
theorem fits_of_isAssignable (hrooted : reg.Rooted) {v : Value}
    (htype : reg.isAssignable pair.2.type pair.1.type = true)
    (hv : pair.1.type = .object ∨ v.isCell = false) :
    pair.2.type = .object ∨ v.isCell = false := by
  refine hv.imp_left fun hobject => ?_
  rw [hobject] at htype
  exact hrooted.isAssignable_object_iff.mp htype

/-- A step copies its pair and leaves all other places of the target alone, or it fails and leaves
all of them alone. -/
theorem runStep_cases (hrooted : reg.Rooted) (hcopies : step.Copies reg pair)
    (htype : reg.isAssignable pair.2.type pair.1.type = true)
    (hgiven : pair.1.GivenBy reg source w) (hkept : pair.2.KeptAt reg target w place)
    (htarget : w.Settable target) (hapart : w.Apart source target) :
    (∃ e, (ObjectMapper.runStep step source target w).1 = .error e ∧
        w.Rewritten (ObjectMapper.runStep step source target w).2 target []) ∨
      (ObjectMapper.runStep step source target w).1 = .ok () ∧
        w.Rewritten (ObjectMapper.runStep step source target w).2 target [place] ∧
        ∃ v, pair.1.ReadsAs reg source w v ∧
          pair.2.ReadsAs reg target (ObjectMapper.runStep step source target w).2 v := by
  obtain ⟨handle, reader, code, slot, hgiven⟩ := hgiven
  obtain ⟨back, writer, read, write, hkept⟩ := hkept
  obtain rfl := hcopies.read_eq hgiven.handle_eq hgiven.reader_eq
  obtain ⟨onto, hwrite, hwriter⟩ := hkept.writes
  obtain rfl := hcopies.write_eq hwrite hwriter
  have hquiet := (hgiven.undisturbed hapart).rewritten htarget
  unfold ObjectMapper.runStep
  rcases hran : step.read.run source w with ⟨result, start⟩
  rw [hran] at hquiet
  cases result with
  | error e => exact .inl ⟨e, rfl, hquiet⟩
  | ok v =>
      have hreads : (step.read.run source w).1 = .ok v := by rw [hran]
      have hfits := fits_of_isAssignable hrooted htype (hgiven.declared v hreads)
      -- The write starts where the read ended, and finds the target as it was.
      have hstill := hkept.later hquiet List.not_mem_nil
      rcases hstill.write_cases hquiet.continues.settable hfits with
        ⟨e, hfail, hwritten⟩ | ⟨hdone, hwritten, hback⟩
      · exact .inl ⟨e, hfail, hquiet.trans hwritten⟩
      · have hsource := (DataMember.readsAs_iff hgiven.handle_eq hgiven.reader_eq).mpr hreads
        exact .inr ⟨hdone, hquiet.trans hwritten, v, hsource, hback⟩

/-! ### All steps -/

/-- What a run over some steps has done: it copied the pairs in front, one place after another, and
failed at the next pair, if there is one. -/
structure Ran (reg : Registry) (placeOf : DataMember → Place) (source target : Value)
    (steps : List MapStep) (w : World) (done rest : List (DataMember × DataMember)) : Prop where
  prefix_ok : (ObjectMapper.runSteps source target (steps.take done.length) w).1 = .ok ()
  ended : rest = [] ∧ (ObjectMapper.runSteps source target steps w).1 = .ok () ∨
    rest ≠ [] ∧ ∃ e, (ObjectMapper.runSteps source target steps w).1 = .error e ∧
      (ObjectMapper.runSteps source target (steps.take (done.length + 1)) w).1 = .error e
  rewritten : w.Rewritten (ObjectMapper.runSteps source target steps w).2 target
    (done.map fun pair => placeOf pair.2)
  copied : ∀ pair ∈ done, ∃ v, pair.1.ReadsAs reg source w v ∧
    pair.2.ReadsAs reg target (ObjectMapper.runSteps source target steps w).2 v

/-- A step that fails ends the run. -/
theorem runSteps_cons_error {e : InvokeError} {rest : List MapStep}
    (h : (ObjectMapper.runStep step source target w).1 = .error e) :
    ObjectMapper.runSteps source target (step :: rest) w =
      (.error e, (ObjectMapper.runStep step source target w).2) := by
  rw [ObjectMapper.runSteps]
  rcases hran : ObjectMapper.runStep step source target w with ⟨result, after⟩
  obtain rfl : result = .error e := by simpa [hran] using h
  rfl

/-- A step that succeeds is followed by the other steps. -/
theorem runSteps_cons_ok {rest : List MapStep}
    (h : (ObjectMapper.runStep step source target w).1 = .ok ()) :
    ObjectMapper.runSteps source target (step :: rest) w =
      ObjectMapper.runSteps source target rest (ObjectMapper.runStep step source target w).2 := by
  rw [ObjectMapper.runSteps]
  rcases hran : ObjectMapper.runStep step source target w with ⟨result, after⟩
  obtain rfl : result = .ok () := by simpa [hran] using h
  rfl

/-- A run copies pairs of members of a free source and a target to distinct places, up to the first
failure. -/
theorem runSteps_copies (hrooted : reg.Rooted)
    (hsteps : List.Forall₂ (MapStep.Copies reg) pairs steps)
    (htypes : ∀ pair ∈ pairs, reg.isAssignable pair.2.type pair.1.type = true)
    (hdistinct : (pairs.map fun pair => placeOf pair.2).Nodup)
    (hgiven : ∀ pair ∈ pairs, pair.1.GivenBy reg source w)
    (hkept : ∀ pair ∈ pairs, pair.2.KeptAt reg target w (placeOf pair.2))
    (htarget : w.Settable target) (hapart : w.Apart source target) :
    ∃ done rest, pairs = done ++ rest ∧ Ran reg placeOf source target steps w done rest := by
  induction hsteps generalizing w with
  | nil => exact ⟨[], [], rfl, rfl, .inl ⟨rfl, rfl⟩, .refl htarget, by simp⟩
  | @cons pair step pairs steps hcopies hsteps ih =>
      obtain ⟨hnew, hdistinct⟩ := List.nodup_cons.mp hdistinct
      have hkeptHere := hkept pair List.mem_cons_self
      rcases runStep_cases hrooted hcopies (htypes pair List.mem_cons_self)
        (hgiven pair List.mem_cons_self) hkeptHere htarget hapart with
        ⟨e, hfail, hrewritten⟩ | ⟨hdone, hrewritten, v, hsource, hback⟩
      · -- The first step fails: nothing is copied.
        refine ⟨[], pair :: pairs, rfl, rfl, .inr ⟨by simp, e, ?_, ?_⟩, ?_, by simp⟩
        · rw [runSteps_cons_error hfail]
        · rw [List.length_nil, List.take_succ_cons, runSteps_cons_error hfail]
        · rw [runSteps_cons_error hfail]
          exact hrewritten
      · -- The first pair is copied, and the others find source and target as before.
        have hplaces : ∀ other ∈ pairs, placeOf other.2 ∉ [placeOf pair.2] := by
          intro other hother heq
          exact hnew (List.mem_map.mpr ⟨other, hother, List.mem_singleton.mp heq⟩)
        obtain ⟨done, rest, rfl, hran⟩ := ih
          (fun other hother => htypes other (.tail _ hother)) hdistinct
          (fun other hother => (hgiven other (.tail _ hother)).later hapart hrewritten.aside)
          (fun other hother =>
            (hkept other (.tail _ hother)).later hrewritten (hplaces other hother))
          hrewritten.continues.settable (hapart.aside hrewritten.aside)
        have hrun : ObjectMapper.runSteps source target (step :: steps) w = _ :=
          runSteps_cons_ok hdone
        refine ⟨pair :: done, rest, rfl, ?_, ?_, ?_, ?_⟩
        · rw [List.length_cons, List.take_succ_cons, runSteps_cons_ok hdone]
          exact hran.prefix_ok
        · rw [hrun, List.length_cons, List.take_succ_cons, runSteps_cons_ok hdone]
          exact hran.ended
        · rw [hrun]
          exact hrewritten.trans hran.rewritten
        · rw [hrun]
          intro other hother
          cases List.mem_cons.mp hother with
          | inl hhere =>
              subst hhere
              -- The place of this pair is not written again.
              have hlast : placeOf other.2 ∉ done.map fun pair => placeOf pair.2 := by
                intro hmem
                exact hnew (List.map_append ▸ List.mem_append_left _ hmem)
              exact ⟨v, hsource, (hkeptHere.readsAs_iff hrewritten.aside
                hrewritten.continues.settable hran.rewritten hlast).mpr hback⟩
          | inr hlater =>
              -- The source reads as it did before the first pair was copied.
              obtain ⟨v', hsource', hback'⟩ := hran.copied other hlater
              refine ⟨v', ?_, hback'⟩
              exact ((hgiven other (.tail _ (List.mem_append_left _ hlater))).readsAs_iff hapart
                hrewritten.aside).mp hsource'

/-! ### The mapper -/

/-- Members that are paired are candidates. -/
theorem isCandidate_of_pair (h : sig.pair reg sources targets = .ok pairs) :
    ∀ pair ∈ pairs, sig.isCandidate reg pair.1 pair.2 = true := by
  induction targets generalizing pairs with
  | nil =>
      obtain rfl : [] = pairs := Except.ok.inj h
      simp
  | cons target rest ih =>
      rw [pair, partner_eq] at h
      dsimp only at h
      split at h
      · cases h
      · cases hrest : sig.pair reg sources rest with
        | error e =>
            rw [hrest] at h
            cases h
        | ok others =>
            rw [hrest] at h
            intro pair hpair
            cases hhead : (sources.filter (sig.isCandidate reg · target)).head? with
            | none =>
                rw [hhead] at h
                obtain rfl : others = pairs := Except.ok.inj h
                exact ih hrest pair hpair
            | some source =>
                rw [hhead] at h
                obtain rfl : (source, target) :: others = pairs := Except.ok.inj h
                cases List.mem_cons.mp hpair with
                | inl hfirst =>
                    subst hfirst
                    exact (List.mem_filter.mp (List.mem_of_mem_head? hhead)).2
                | inr hother => exact ih hrest pair hother

/-- A prepared copy of members that can be read and written copies these members. -/
theorem copies_of_prepareStep {found : Option MapStep}
    (h : prepareStep reg pair.1 pair.2 = .ok found) (hread : pair.1.read.isSome = true)
    (hwrite : pair.2.write.isSome = true) : ∃ step, found = some step ∧ step.Copies reg pair := by
  obtain ⟨get, hget⟩ := Option.isSome_iff_exists.mp hread
  obtain ⟨set, hset⟩ := Option.isSome_iff_exists.mp hwrite
  rw [prepareStep, hget, hset] at h
  cases hreader : Reader.ofMember reg get with
  | error e => simp [hreader, bind, Except.bind] at h
  | ok reader =>
      cases hwriter : Writer.ofMember reg set with
      | error e => simp [hreader, hwriter, bind, Except.bind] at h
      | ok writer =>
          simp only [hreader, hwriter, bind, Except.bind, pure, Except.pure] at h
          exact ⟨_, (Except.ok.inj h).symm, rfl, ⟨get, hget, hreader⟩, ⟨set, hset, hwriter⟩⟩

/-- The prepared copies of members that can be read and written copy these members. -/
theorem copies_of_prepared {prepared : List (Option MapStep)}
    (h : List.Forall₂ (fun pair found => prepareStep reg pair.1 pair.2 = .ok found) pairs prepared)
    (hread : ∀ pair ∈ pairs, pair.1.read.isSome = true)
    (hwrite : ∀ pair ∈ pairs, pair.2.write.isSome = true) :
    List.Forall₂ (MapStep.Copies reg) pairs (prepared.filterMap id) := by
  induction h with
  | nil => exact .nil
  | @cons pair found pairs prepared hfirst _ ih =>
      obtain ⟨step, rfl, hcopies⟩ := copies_of_prepareStep hfirst (hread pair List.mem_cons_self)
        (hwrite pair List.mem_cons_self)
      have hsteps : (some step :: prepared).filterMap id = step :: prepared.filterMap id := rfl
      rw [hsteps]
      exact .cons hcopies (ih (fun other hother => hread other (.tail _ hother))
        fun other hother => hwrite other (.tail _ hother))

/-- A compiled mapper has a step for each pair. -/
theorem copies_of_compile {mapper : ObjectMapper} (hsources : sig.sources reg = .ok sources)
    (htargets : sig.targets reg = .ok targets) (hpairs : sig.pair reg sources targets = .ok pairs)
    (hcompile : sig.compile reg = .ok mapper) (hread : ∀ pair ∈ pairs, pair.1.read.isSome = true)
    (hwrite : ∀ pair ∈ pairs, pair.2.write.isSome = true) :
    List.Forall₂ (MapStep.Copies reg) pairs mapper.steps := by
  rw [compile_eq hsources htargets, hpairs] at hcompile
  have hcompile : (sig.checkFed reg pairs).bind (fun _ =>
      (pairs.mapM fun pair => prepareStep reg pair.1 pair.2).bind fun steps =>
        .ok ⟨sig, steps.filterMap id⟩) = .ok mapper := hcompile
  cases hfed : sig.checkFed reg pairs with
  | error e =>
      rw [hfed] at hcompile
      cases hcompile
  | ok _ =>
      rw [hfed] at hcompile
      cases hprepared : pairs.mapM fun pair => prepareStep reg pair.1 pair.2 with
      | error e =>
          rw [Except.bind, hprepared] at hcompile
          cases hcompile
      | ok prepared =>
          rw [Except.bind, hprepared] at hcompile
          obtain rfl : ⟨sig, prepared.filterMap id⟩ = mapper := Except.ok.inj hcompile
          exact copies_of_prepared (mapM_eq_ok_iff.mp hprepared) hread hwrite

/-- What a mapper leaves behind when it has copied some pairs. -/
structure Copied (reg : Registry) (placeOf : DataMember → Place) (source target : Value)
    (w after : World) (pairs : List (DataMember × DataMember)) : Prop where
  /-- the target member of each pair reads as the source member did before, and as it does now -/
  copied : ∀ pair ∈ pairs, ∃ v, pair.1.ReadsAs reg source w v ∧ pair.1.ReadsAs reg source after v ∧
    pair.2.ReadsAs reg target after v
  /-- what is read from another place of the target reads as before -/
  others : ∀ (reader : Reader) (read : ReadCode) (slot : String), reader.RunsOn target w read →
    read.Reads slot → (∀ pair ∈ pairs, placeOf pair.2 ≠ ⟨read.owner, slot⟩) →
    (reader.run target after).1 = (reader.run target w).1

/-- A run has copied its pairs and nothing else. -/
theorem Ran.copied_done {done rest : List (DataMember × DataMember)}
    (h : Ran reg placeOf source target steps w done rest)
    (hgiven : ∀ pair ∈ done, pair.1.GivenBy reg source w) (htarget : w.Settable target)
    (hapart : w.Apart source target) :
    Copied reg placeOf source target w (ObjectMapper.runSteps source target steps w).2 done := by
  constructor
  · intro pair hpair
    obtain ⟨v, hsource, hback⟩ := h.copied pair hpair
    refine ⟨v, hsource, ?_, hback⟩
    exact ((hgiven pair hpair).readsAs_iff hapart h.rewritten.aside).mpr hsource
  · intro reader read slot hruns hreads hplace
    have hlater := hruns.later h.rewritten.aside.alike.registry h.rewritten.aside.runtimeType_eq
    rw [hruns.run_eq, hlater.run_eq]
    refine ReadCode.run_congr hreads htarget h.rewritten fun hmem => ?_
    obtain ⟨pair, hpair, hsame⟩ := List.mem_map.mp hmem
    exact hplace pair hpair hsame

/-- The target members of the pairs that a run has not reached read as before. -/
theorem Ran.untouched_rest {done rest : List (DataMember × DataMember)}
    (h : Ran reg placeOf source target steps w done rest)
    (hdistinct : ((done ++ rest).map fun pair => placeOf pair.2).Nodup)
    (hkept : ∀ pair ∈ rest, pair.2.KeptAt reg target w (placeOf pair.2))
    (htarget : w.Settable target) :
    ∀ pair ∈ rest, ∀ v,
      pair.2.ReadsAs reg target (ObjectMapper.runSteps source target steps w).2 v ↔
        pair.2.ReadsAs reg target w v := by
  intro pair hpair v
  rw [List.map_append] at hdistinct
  have hplace : placeOf pair.2 ∉ done.map fun pair => placeOf pair.2 := by
    intro hdone
    exact List.disjoint_of_nodup_append hdistinct hdone (List.mem_map.mpr ⟨pair, hpair, rfl⟩)
  exact (hkept pair hpair).readsAs_iff (.refl w target) htarget h.rewritten hplace

end MapSignature

/-- A compiled mapper, on a source that no one holds and a target that is apart from it, with a
member that gets one slot on the one side of each pair and members that get and set distinct places
on the other side:

* when the run succeeds, the target member of every pair reads as its source member, and everything
  that is read from another place of the target reads as before;
* when it fails, it has done so at some pair. Then the same holds of the pairs before that one, and
  the target members of that pair and of all later ones read as before. -/
theorem ObjectMapper.run_copies {sig : MapSignature} {reg : Registry} {mapper : ObjectMapper}
    {sources targets : List DataMember} {pairs : List (DataMember × DataMember)}
    {placeOf : DataMember → Place} {source target : Value} {w : World}
    (hrooted : reg.Rooted) (hsources : sig.sources reg = .ok sources)
    (htargets : sig.targets reg = .ok targets) (hpairs : sig.pair reg sources targets = .ok pairs)
    (hcompile : sig.compile reg = .ok mapper)
    (hgiven : ∀ pair ∈ pairs, pair.1.GivenBy reg source w)
    (hkept : ∀ pair ∈ pairs, pair.2.KeptAt reg target w (placeOf pair.2))
    (hdistinct : (pairs.map fun pair => placeOf pair.2).Nodup)
    (htarget : w.Settable target) (hapart : w.Apart source target) :
    ((mapper.run source target w).1 = .ok () →
      MapSignature.Copied reg placeOf source target w (mapper.run source target w).2 pairs) ∧
    ∀ e, (mapper.run source target w).1 = .error e → ∃ done failing later,
      pairs = done ++ failing :: later ∧
      (runSteps source target (mapper.steps.take done.length) w).1 = .ok () ∧
      (runSteps source target (mapper.steps.take (done.length + 1)) w).1 = .error e ∧
      MapSignature.Copied reg placeOf source target w (mapper.run source target w).2 done ∧
      ∀ pair ∈ failing :: later, ∀ v,
        pair.2.ReadsAs reg target (mapper.run source target w).2 v ↔
          pair.2.ReadsAs reg target w v := by
  have hread : ∀ pair ∈ pairs, pair.1.read.isSome = true := by
    intro pair hpair
    obtain ⟨handle, reader, code, slot, h⟩ := hgiven pair hpair
    rw [h.handle_eq, Option.isSome_some]
  have hwrite : ∀ pair ∈ pairs, pair.2.write.isSome = true := by
    intro pair hpair
    obtain ⟨reader, writer, read, write, h⟩ := hkept pair hpair
    obtain ⟨handle, hhandle, -⟩ := h.writes
    rw [hhandle, Option.isSome_some]
  have hsteps := MapSignature.copies_of_compile hsources htargets hpairs hcompile hread hwrite
  have htypes : ∀ pair ∈ pairs, reg.isAssignable pair.2.type pair.1.type = true := by
    intro pair hpair
    have hcandidate := MapSignature.isCandidate_of_pair hpairs pair hpair
    rw [MapSignature.isCandidate, Bool.and_eq_true] at hcandidate
    exact hcandidate.2
  obtain ⟨done, rest, rfl, hran⟩ := MapSignature.runSteps_copies hrooted hsteps htypes hdistinct
    hgiven hkept htarget hapart
  -- Whether or not all pairs were done, those that were done are copied.
  have hcopied := hran.copied_done (fun pair hpair => hgiven pair (List.mem_append_left _ hpair))
    htarget hapart
  unfold run
  rcases hran.ended with ⟨rfl, hdone⟩ | ⟨hrest, e, hfail, hlast⟩
  · refine ⟨fun _ => ?_, fun e hfail => ?_⟩
    · rw [List.append_nil]
      exact hcopied
    · rw [hdone] at hfail
      cases hfail
  · refine ⟨fun hdone => ?_, fun e' hfail' => ?_⟩
    · rw [hdone] at hfail
      cases hfail
    · obtain rfl : e' = e := Except.error.inj (hfail'.symm.trans hfail)
      obtain ⟨failing, later, rfl⟩ := List.exists_cons_of_ne_nil hrest
      have huntouched := hran.untouched_rest hdistinct
        (fun pair hpair => hkept pair (List.mem_append_right _ hpair)) htarget
      exact ⟨done, failing, later, rfl, hran.prefix_ok, hlast, hcopied, huntouched⟩

namespace MapSignature

open MemberM (slotValue setSlotFrom)

/-- A type with a number in a field, and a property for any value. -/
def order : TypeHandle × Registry :=
  Registry.initial.declare (.described "Order") <| (Blueprint.reference "Order")
    |>.withField (.ofSlot "Order" "Count" "count" .int32 .int32)
    |>.property "Order" "Note" .object (slotValue "note") (setSlotFrom "note" .value)

/-- A type with two numbers. -/
def parcel : TypeHandle × Registry :=
  order.2.declare (.described "Parcel") <| (Blueprint.reference "Parcel")
    |>.withField (.ofSlot "Parcel" "Count" "count" .int32 .int32)
    |>.withField (.ofSlot "Parcel" "Weight" "weight" .int32 .int32)

/-- A type that derives from it, with a property for any value. -/
def gift : TypeHandle × Registry :=
  parcel.2.declare (.described "Gift") <| ((Blueprint.reference "Gift").extending "Gift" parcel.1)
    |>.property "Gift" "Note" .object (slotValue "note") (setSlotFrom "note" .value)

/-- A gift is packed from an order. -/
def packing : MapSignature := .between order.1 gift.1 .all .all [] Flags.standard

/-- An order of three, and a gift that weighs five. -/
def shop : World :=
  { World.ofRegistry gift.2 with
    objects := #[
      .mk "Order" none [("count", .value (.int32 3)), ("note", .value (.string "for Ann"))],
      .mk "Gift" (some (.mk "Parcel" none [("count", .value (.int32 1)),
        ("weight", .value (.int32 5))])) [("note", .value .null)]] }

/-- The order. -/
def ordered : Value := .object ⟨0, order.1⟩

/-- The gift. -/
def packed : Value := .object ⟨1, gift.1⟩

/-- The count of an order or of a parcel. -/
def countOf (type : TypeHandle) : DataMember :=
  ⟨"Count", .int32, .field, some (.field type 0), some (.field type 0)⟩

/-- The note on an order or on a gift. -/
def noteOf (type : TypeHandle) : DataMember :=
  ⟨"Note", .object, .property, some (.property type (some 0) ⟨type, 0⟩),
    some (.property type (some 0) ⟨type, 1⟩)⟩

/-- The weight of a parcel. -/
def weightOf : DataMember :=
  ⟨"Weight", .int32, .field, some (.field parcel.1 1), some (.field parcel.1 1)⟩

/-- The places of the members that are packed. -/
def packedAt (m : DataMember) : Place :=
  if m.name = "Note" then ⟨gift.1, "note"⟩ else ⟨parcel.1, "count"⟩

/-- Puts a value into a slot of the gift. -/
def put (type : TypeHandle) (native slot : String) (v : Value) (w : World) :
    Except InvokeError Unit × World :=
  w.withExclusive packed type .store fun view w =>
    if view.native = native then ((.ok (), view.set slot (.value v)), w)
    else ((.error (.foreignInstance native), view), w)

/-- A note is put on the gift as it is. -/
theorem run_note {writer : Writer} {v : Value} {w : World}
    (hwriter : Writer.ofMember gift.2 (.property gift.1 (some 0) ⟨gift.1, 1⟩) = .ok writer)
    (hw : w.requireWritable packed = .ok ()) :
    writer.run packed v w = put gift.1 "Gift" "note" v w := by
  obtain ⟨info, hinfo, hset⟩ : ∃ info, gift.2.get gift.1 = some info ∧
      info.methods[1]? = some (.slotSetter "Gift" "set_Note" "note" .value .object) :=
    ⟨_, rfl, rfl⟩
  obtain ⟨_, hprepared, hruns⟩ := Writer.ofMember_slotSetter hinfo hset
  obtain rfl := Except.ok.inj (hwriter.symm.trans hprepared)
  have hcast : w.cast v .object = .ok v := if_pos rfl
  rw [(hruns packed w).run_eq hw]
  simp only [WriteCode.run, WriteCode.ofCallee, hcast]
  show w.withExclusive packed gift.1 .store _ = _
  unfold put
  congr 1
  funext view start
  refine (WriteCode.body_slotSetter gift.1 .object "Gift" "set_Note" "note" .value [] v view
    start).trans ?_
  simp only [World.unbox]

/-- A count of three is put on the gift as it is. -/
theorem run_count {writer : Writer} {w : World}
    (hwriter : Writer.ofMember gift.2 (.field parcel.1 0) = .ok writer)
    (hw : w.requireWritable packed = .ok ()) :
    writer.run packed (.int32 3) w = put parcel.1 "Parcel" "count" (.int32 3) w := by
  obtain rfl : .field parcel.1 .int32
      (FieldInfo.checkedSet "Parcel" (FieldInfo.setSlot "count" .int32)) = writer :=
    Except.ok.inj hwriter
  have hcontent : ∀ start : World, start.content (.int32 3) = .int32 3 := fun start =>
    World.content_of_not_cell start rfl
  have hcast : w.cast (.int32 3) .int32 = .ok (.int32 3) := by
    simp [World.cast, World.opened, World.typeOf, hcontent, World.directType]
  simp only [Writer.run, hw, hcast]
  unfold put
  congr 1
  funext view start
  unfold FieldInfo.checkedSet
  split <;> simp [FieldInfo.setSlot, Code.run, World.unbox, hcontent]

/-- The gift can be packed. -/
theorem packing_ok : ∃ mapper, packing.compile gift.2 = .ok mapper ∧
    (mapper.run ordered packed shop).1 = .ok () := by
  obtain ⟨mapper, noteRead, noteWrite, countRead, countWrite, hcompile, hnote, hcount, hsteps,
      w₁, w₂, w₃, w₄, hread, hw₁, hput, hread', hw₃, hput'⟩ :
      ∃ mapper noteRead noteWrite countRead countWrite,
        packing.compile gift.2 = .ok mapper ∧
        Writer.ofMember gift.2 (.property gift.1 (some 0) ⟨gift.1, 1⟩) = .ok noteWrite ∧
        Writer.ofMember gift.2 (.field parcel.1 0) = .ok countWrite ∧
        mapper.steps = [⟨⟨"Note", "Note"⟩, noteRead, noteWrite⟩,
          ⟨⟨"Count", "Count"⟩, countRead, countWrite⟩] ∧
        ∃ w₁ w₂ w₃ w₄, noteRead.run ordered shop = (.ok (.string "for Ann"), w₁) ∧
          w₁.requireWritable packed = .ok () ∧
          put gift.1 "Gift" "note" (.string "for Ann") w₁ = (.ok (), w₂) ∧
          countRead.run ordered w₂ = (.ok (.int32 3), w₃) ∧
          w₃.requireWritable packed = .ok () ∧
          put parcel.1 "Parcel" "count" (.int32 3) w₃ = (.ok (), w₄) :=
    ⟨_, _, _, _, _, rfl, rfl, rfl, rfl, _, _, _, _, rfl, rfl, rfl, rfl, rfl, rfl⟩
  refine ⟨mapper, hcompile, ?_⟩
  simp only [ObjectMapper.run, hsteps, ObjectMapper.runSteps, ObjectMapper.runStep, hread,
    run_note hnote hw₁, hput, hread', run_count hcount hw₃, hput']

end MapSignature

open MapSignature in
/-- Packing a gift puts the count and the note of the order on it, and leaves its weight alone. -/
theorem ObjectMapper.run_copies_gift :
    ∃ mapper, packing.compile gift.2 = .ok mapper ∧
      (mapper.run ordered packed shop).1 = .ok () ∧
      (noteOf gift.1).ReadsAs gift.2 packed (mapper.run ordered packed shop).2
        (.string "for Ann") ∧
      (countOf parcel.1).ReadsAs gift.2 packed (mapper.run ordered packed shop).2 (.int32 3) ∧
      weightOf.ReadsAs gift.2 packed (mapper.run ordered packed shop).2 (.int32 5) := by
  have hrooted : gift.2.Rooted :=
    Registry.rooted_declare (Registry.kept_rootSafe.declare
      (Registry.kept_rootSafe.declare Registry.rootSafe_initial _ _) _ _) _ _ (by decide)
  have hpairs : packing.pair gift.2 [countOf order.1, noteOf order.1]
      [noteOf gift.1, countOf parcel.1, weightOf] =
      .ok [(noteOf order.1, noteOf gift.1), (countOf order.1, countOf parcel.1)] := rfl
  obtain ⟨mapper, hcompile, hdone⟩ := packing_ok
  -- What the order gives.
  have hnote : ∀ v, (noteOf order.1).ReadsAs gift.2 ordered shop v → .string "for Ann" = v := by
    intro v hreads
    have hread := (DataMember.readsAs_iff rfl rfl).mp hreads
    exact Except.ok.inj hread
  have hcount : ∀ v, (countOf order.1).ReadsAs gift.2 ordered shop v → .int32 3 = v := by
    intro v hreads
    have hread := (DataMember.readsAs_iff rfl rfl).mp hreads
    exact Except.ok.inj hread
  have hgiven : ∀ pair ∈ [(noteOf order.1, noteOf gift.1), (countOf order.1, countOf parcel.1)],
      pair.1.GivenBy gift.2 ordered shop := by
    refine List.forall_mem_cons.mpr ⟨?_, List.forall_mem_singleton.mpr ?_⟩
    · exact DataMember.givenBy_property rfl rfl rfl
        (fun view hview => Option.some.inj hview ▸ ⟨_, rfl⟩) fun v _ => .inl rfl
    · exact DataMember.givenBy_field rfl rfl rfl
        (ReadCode.gets_getSlot order.1 "Order" "count" .int32)
        (fun view hview => Option.some.inj hview ▸ ⟨_, rfl⟩) fun v hv => hcount v hv ▸ .inr rfl
  -- Where the gift keeps it.
  have hkept : ∀ pair ∈ [(noteOf order.1, noteOf gift.1), (countOf order.1, countOf parcel.1)],
      pair.2.KeptAt gift.2 packed shop (packedAt pair.2) := by
    refine List.forall_mem_cons.mpr ⟨?_, List.forall_mem_singleton.mpr ?_⟩
    · exact DataMember.keptAt_property rfl rfl rfl rfl rfl rfl (.inl rfl)
        fun view hview => Option.some.inj hview ▸ rfl
    · exact DataMember.keptAt_field rfl rfl rfl rfl rfl
        (FieldAccess.slotBacked_ofSlot _ _ _ rfl (.inr (by decide)))
        fun view hview => Option.some.inj hview ▸ rfl
  have htarget : shop.Settable packed := .object rfl (by decide) ⟨rfl, fun _ => rfl⟩
  have hapart : shop.Apart ordered packed := by
    refine ⟨[], ordered, .bare rfl, nofun, fun object hobject => ?_⟩
    obtain rfl : ⟨0, order.1⟩ = object := Value.object.inj hobject
    refine ⟨⟨rfl, fun _ => rfl⟩, fun held hheld => ?_⟩
    obtain rfl : ⟨1, gift.1⟩ = held := Value.object.inj hheld
    decide
  have hcopied := (run_copies hrooted rfl rfl hpairs hcompile hgiven hkept (by decide) htarget
    hapart).1 hdone
  obtain ⟨v, hgave, -, hgot⟩ := hcopied.copied (noteOf order.1, noteOf gift.1) (by simp)
  obtain ⟨v', hgave', -, hgot'⟩ := hcopied.copied (countOf order.1, countOf parcel.1) (by simp)
  obtain rfl := hnote v hgave
  obtain rfl := hcount v' hgave'
  have hweight := hcopied.others _ _ "weight" .field
    (ReadCode.gets_getSlot parcel.1 "Parcel" "weight" .int32).reads (by decide)
  exact ⟨mapper, hcompile, hdone, hgot, hgot', (DataMember.readsAs_iff rfl rfl).mpr hweight⟩

end Introspect
