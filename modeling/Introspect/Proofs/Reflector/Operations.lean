import Introspect.Proofs.Accessor.Forms
import Introspect.Proofs.Cache.Balance
import Introspect.Proofs.Reflector.Runs
import Introspect.Proofs.Registry.Handles

/-!
# `Introspect.Proofs.Reflector.Operations`: what a reflector does over its lifetime

`Operation` lists what users ask of a reflector, and `Lived` the sessions that they can come to from
an unused one. Between two operations anything may happen to the world: types are published and
accessors are run. Only the handles of its types stay in order.

Operations only make requests of the pairs that `Asks` lists, and take out what is kept. So a
property that such requests and a smaller choice of kept accessors leave in place (`Invariant`) is
kept by all of them (`Invariant.perform`), by way of the computations that they are made of
(`Keeps`).

`InOrder` is what holds at every point of a life (`Lived.inOrder`). Every kept accessor has the form
that suits its key, and as many requests were resolved as accessors were made.

`Lived.forms_and_resolutions` says what users see of it. What is kept under the signature of a
request has the form that the request is for, so no request meets an accessor of another form, and
its answer is what is kept from then on. What can be resolved is prepared as well.
-/

set_option autoImplicit false

namespace Introspect

/-! ### What a publication adds -/

namespace Cache

variable {κ α β : Type} [BEq κ]

/-- Every publication counts as something made, whatever becomes of it. -/
theorem compilations_publish (c : Cache κ α) (facet : Facet α β) (key : κ) (made : β) :
    (c.publish facet key made).2.stats.compilations = c.stats.compilations + 1 := by
  unfold publish
  dsimp only
  split
  · rfl
  · split
    · rfl
    · next hnone hmissing =>
        obtain ⟨reclaimed, hstats, -⟩ := trim_counts (c.inserted key (facet.wrap made))
        show (c.inserted key (facet.wrap made)).trim.stats.compilations = _
        rw [hstats]
        rfl

/-- A publication adds what was made, if anything. -/
theorem mem_entries_publish {c : Cache κ α} {facet : Facet α β} {key : κ} {made : β}
    {entry : κ × Artifact α} (h : entry ∈ (c.publish facet key made).2.entries) :
    entry = (key, ⟨c.issued, facet.wrap made⟩) ∨ entry ∈ c.entries := by
  unfold publish at h
  dsimp only at h
  split at h
  · exact .inr h
  · split at h
    · exact .inr h
    · have h : entry ∈ (c.inserted key (facet.wrap made)).trim.entries := h
      have hinserted : entry ∈ (c.inserted key (facet.wrap made)).entries := by
        rcases trim_cases (c.inserted key (facet.wrap made)) with heq | ⟨-, heq⟩
        · rwa [heq] at h
        · rw [heq] at h
          exact (entries_purge_sublist _).subset h
      exact List.mem_cons.mp hinserted

end Cache

namespace Reflector

variable {α β : Type}

variable {compiler : Compiler β} {sig : Signature} {s : Session}

/-! ### What a request does to a session -/

/-- A request leaves the world alone. -/
theorem world_request (compiler : Compiler β) (sig : Signature) (s : Session) :
    ((request compiler sig).run s).2.world = s.world := by
  rw [run_request_eq]
  rcases s.reflector.members.lookup compiler.facet sig with ⟨found, members⟩
  cases found with
  | some found => rfl
  | none =>
      dsimp only
      split <;> rfl

/-- What is kept afterwards was kept before, or is what the request was compiled to. -/
theorem mem_entries_request {entry : Signature × Artifact Accessor}
    (h : entry ∈ ((request compiler sig).run s).2.reflector.members.entries) :
    entry ∈ s.reflector.members.entries ∨
      entry.1 = sig ∧ ∃ prepared, (compiler.compile s.world.registry sig).1 = .ok prepared ∧
        entry.2.content = compiler.facet.wrap prepared := by
  have hentries := Cache.entries_lookup s.reflector.members compiler.facet sig
  rw [run_request_eq] at h
  rcases hlookup : s.reflector.members.lookup compiler.facet sig with ⟨found, members⟩
  rw [hlookup] at h hentries
  dsimp only at h hentries
  rw [← hentries]
  cases found with
  | some found => exact .inl h
  | none =>
      cases hresult : (compiler.compile s.world.registry sig).1 with
      | error e =>
          rw [hresult] at h
          exact .inl h
      | ok prepared =>
          rw [hresult] at h
          rcases Cache.mem_entries_publish h with rfl | hold
          · exact .inr ⟨rfl, prepared, rfl, rfl⟩
          · exact .inl hold

/-- A request counts one resolution at most, so it takes `2 ^ 64` requests to count as many. -/
theorem resolutions_request_le (compiler : Compiler β) (sig : Signature) (s : Session) :
    ((request compiler sig).run s).2.reflector.resolutions ≤ s.reflector.resolutions + 1 := by
  have hone : (compiler.compile s.world.registry sig).2 ≤ 1 := by
    unfold Compiler.compile
    split
    · exact Nat.zero_le 1
    · split
      · exact Nat.zero_le 1
      · exact Nat.le_refl 1
  rw [run_request_eq]
  rcases s.reflector.members.lookup compiler.facet sig with ⟨found, members⟩
  cases found with
  | some found => exact Nat.le_succ _
  | none =>
      dsimp only
      split <;> exact Nat.add_le_add_left hone _

/-- A request that was resolved counts once as a resolution and once as something made. -/
theorem counts_request (hasks : Asks compiler sig) (hkeyed : s.world.registry.Keyed)
    (hcounts : s.reflector.resolutions = s.reflector.members.stats.compilations) :
    ((request compiler sig).run s).2.reflector.resolutions =
      ((request compiler sig).run s).2.reflector.members.stats.compilations := by
  have hcompilations : (s.reflector.members.lookup compiler.facet sig).2.stats.compilations =
      s.reflector.members.stats.compilations := by
    cases hfound : s.reflector.members.findAs? compiler.facet sig with
    | none => rw [Cache.lookup_of_not_found hfound]
    | some a => rw [Cache.lookup_of_found hfound]; rfl
  rw [run_request_eq]
  rcases hlookup : s.reflector.members.lookup compiler.facet sig with ⟨found, members⟩
  rw [hlookup] at hcompilations
  have hcounts : s.reflector.resolutions = members.stats.compilations :=
    hcounts.trans hcompilations.symm
  cases found with
  | some found => exact hcounts
  | none =>
      cases hfound : Resolver.resolve s.world.registry sig with
      | error e =>
          rw [hasks.compile_of_unresolved hfound]
          exact hcounts
      | ok found =>
          obtain ⟨prepared, hcompile⟩ := hasks.compile_of_resolve hkeyed hfound
          rw [hcompile]
          show s.reflector.resolutions + 1 =
            (members.publish compiler.facet sig prepared).2.stats.compilations
          rw [Cache.compilations_publish, hcounts]

/-! ### Properties that operations keep -/

section Keeps

variable {P : Session → Prop}

/-- A property of sessions that holds after every request, and looks at the world, the kept
accessors and the two counters only. It stays when accessors are taken out. -/
structure Invariant (P : Session → Prop) : Prop where
  request : ∀ {β : Type} {compiler : Compiler β} {sig : Signature}, Asks compiler sig →
    ∀ s, P s → P ((request compiler sig).run s).2
  fewer : ∀ {s next : Session}, next.world = s.world →
    next.reflector.members.entries ⊆ s.reflector.members.entries →
    next.reflector.resolutions = s.reflector.resolutions →
    next.reflector.members.stats.compilations = s.reflector.members.stats.compilations →
    P s → P next

/-- A computation keeps a property of sessions, whether it succeeds or not. -/
def Keeps (P : Session → Prop) (work : ReflectM α) : Prop := ∀ s, P s → P (work.run s).2

/-- One computation after another. -/
theorem Keeps.bind {work : ReflectM α} {rest : α → ReflectM β} (h : Keeps P work)
    (hrest : ∀ a, Keeps P (rest a)) : Keeps P (work >>= rest) := by
  intro s hs
  have hnext := h s hs
  rw [run_bind]
  rcases hrun : work.run s with ⟨result, next⟩
  rw [hrun] at hnext
  cases result with
  | error e => exact hnext
  | ok a => exact hrest a next hnext

/-- A second request may follow where the first one found no member. -/
theorem Keeps.orElseMember {first second : ReflectM α} (hfirst : Keeps P first)
    (hsecond : Keeps P second) : Keeps P (orElseMember first second) := by
  intro s hs
  have hnext := hfirst s hs
  unfold Reflector.orElseMember
  rw [run_tryCatch]
  rcases hrun : first.run s with ⟨result, next⟩
  rw [hrun] at hnext
  cases result with
  | ok a => exact hnext
  | error e =>
      cases e with
      | memberNotFound => exact hsecond next hnext
      | _ => exact hnext

namespace Invariant

/-- A request keeps the property. -/
theorem keeps_request (h : Invariant P) (hasks : Asks compiler sig) :
    Keeps P (Reflector.request compiler sig) := h.request hasks

/-- A computation that leaves the kept accessors and the types alone keeps the property. -/
theorem keeps_of_run (h : Invariant P) {work : ReflectM α}
    (hwork : ∀ s, (work.run s).2.world = s.world ∧
      (work.run s).2.reflector.members = s.reflector.members ∧
      (work.run s).2.reflector.resolutions = s.reflector.resolutions) : Keeps P work := by
  intro s hs
  obtain ⟨hworld, hmembers, hresolutions⟩ := hwork s
  refine h.fewer hworld ?_ hresolutions ?_ hs
  · rw [hmembers]
    exact List.Subset.refl _
  · rw [hmembers]

/-- Flags are chosen. -/
theorem keeps_orMemberFlags (h : Invariant P) (flags : Option Flags) :
    Keeps P (orMemberFlags flags) :=
  h.keeps_of_run fun _ => ⟨rfl, rfl, rfl⟩

theorem keeps_orStandardFlags (h : Invariant P) (flags : Option Flags) :
    Keeps P (orStandardFlags flags) :=
  h.keeps_of_run fun _ => ⟨rfl, rfl, rfl⟩

/-- Mappers are kept apart from accessors. -/
theorem keeps_requestMapper (h : Invariant P) (sig : MapSignature) :
    Keeps P (requestMapper sig) := by
  have hupdate : ∀ {γ : Type} (change : Cache MapSignature ObjectMapper →
      γ × Cache MapSignature ObjectMapper), Keeps P (updateMappers change) :=
    fun _ => h.keeps_of_run fun _ => ⟨rfl, rfl, rfl⟩
  have hprepare : Keeps P (prepareMapper sig) := by
    refine h.keeps_of_run fun s => ?_
    rw [prepareMapper, run_ofRegistry]
    exact ⟨rfl, rfl, rfl⟩
  refine (hupdate _).bind fun found => ?_
  cases found with
  | some found => exact h.keeps_of_run fun _ => ⟨rfl, rfl, rfl⟩
  | none => exact hprepare.bind fun made => hupdate _

/-- Calls of a method are requested. -/
theorem keeps_method (h : Invariant P) (type : TypeHandle) (name : String)
    (params : List TypeHandle) (flags : Option Flags) : Keeps P (method type name params flags) :=
  (h.keeps_orStandardFlags flags).bind fun flags =>
    h.keeps_request (.callMethod type name params [] flags)

end Invariant

end Keeps

/-! ### Operations -/

/-- What users ask of a reflector. -/
inductive Operation
  | fieldGetter (type : TypeHandle) (name : String) (flags : Option Flags)
  | fieldSetter (type : TypeHandle) (name : String) (flags : Option Flags)
  | propertyGetter (type : TypeHandle) (name : String) (flags : Option Flags)
  | propertySetter (type : TypeHandle) (name : String) (flags : Option Flags)
  | memberGetter (type : TypeHandle) (name : String)
  | memberSetter (type : TypeHandle) (name : String)
  | method (type : TypeHandle) (name : String) (params : List TypeHandle) (flags : Option Flags)
  | staticMethod (type : TypeHandle) (name : String) (params : List TypeHandle)
  | genericMethod (type : TypeHandle) (name : String) (params typeArgs : List TypeHandle)
      (flags : Flags)
  | constructor (type : TypeHandle) (params : List TypeHandle) (flags : Option Flags)
  | elementGetter (array : TypeHandle)
  | elementSetter (array : TypeHandle)
  | indexerGetter (type : TypeHandle) (index : List TypeHandle)
  | indexerSetter (type : TypeHandle) (index : List TypeHandle) (value : TypeHandle)
  | mapper (source target : TypeHandle) (sourceKinds targetKinds : DataKinds)
      (names : List String) (flags : Option Flags)
  | purge
  | clear
  /-- ends a hold on an accessor -/
  | release (id : Nat)

/-- The session after an operation. A request that fails leaves one as well. -/
def Operation.perform (s : Session) : Operation → Session
  | .fieldGetter type name flags => ((Reflector.fieldGetter type name flags).run s).2
  | .fieldSetter type name flags => ((Reflector.fieldSetter type name flags).run s).2
  | .propertyGetter type name flags => ((Reflector.propertyGetter type name flags).run s).2
  | .propertySetter type name flags => ((Reflector.propertySetter type name flags).run s).2
  | .memberGetter type name => ((Reflector.memberGetter type name).run s).2
  | .memberSetter type name => ((Reflector.memberSetter type name).run s).2
  | .method type name params flags => ((Reflector.method type name params flags).run s).2
  | .staticMethod type name params => ((Reflector.staticMethod type name params).run s).2
  | .genericMethod type name params typeArgs flags =>
    ((Reflector.genericMethod type name params typeArgs flags).run s).2
  | .constructor type params flags => ((Reflector.constructor type params flags).run s).2
  | .elementGetter array => ((Reflector.elementGetter array).run s).2
  | .elementSetter array => ((Reflector.elementSetter array).run s).2
  | .indexerGetter type index => ((Reflector.indexerGetter type index).run s).2
  | .indexerSetter type index value => ((Reflector.indexerSetter type index value).run s).2
  | .mapper source target sourceKinds targetKinds names flags =>
    ((Reflector.mapper source target sourceKinds targetKinds names flags).run s).2
  | .purge => { s with reflector := s.reflector.purge.2 }
  | .clear => { s with reflector := s.reflector.clear }
  | .release id =>
    { s with reflector := { s.reflector with members := s.reflector.members.release id } }

/-- Every operation keeps what requests and a smaller choice of accessors keep. -/
theorem Invariant.perform {P : Session → Prop} (h : Invariant P) (hs : P s) (op : Operation) :
    P (op.perform s) := by
  have hfieldGetter : ∀ type name flags, Keeps P (fieldGetter type name flags) :=
    fun type name flags => (h.keeps_orMemberFlags flags).bind fun flags =>
      h.keeps_request (.readField type name flags)
  have hfieldSetter : ∀ type name flags, Keeps P (fieldSetter type name flags) :=
    fun type name flags => (h.keeps_orMemberFlags flags).bind fun flags =>
      h.keeps_request (.writeField type name flags)
  have hpropertyGetter : ∀ type name flags, Keeps P (propertyGetter type name flags) :=
    fun type name flags => (h.keeps_orMemberFlags flags).bind fun flags =>
      h.keeps_request (.readProperty type name flags)
  have hpropertySetter : ∀ type name flags, Keeps P (propertySetter type name flags) :=
    fun type name flags => (h.keeps_orMemberFlags flags).bind fun flags =>
      h.keeps_request (.writeProperty type name flags)
  cases op with
  | fieldGetter type name flags => exact hfieldGetter type name flags s hs
  | fieldSetter type name flags => exact hfieldSetter type name flags s hs
  | propertyGetter type name flags => exact hpropertyGetter type name flags s hs
  | propertySetter type name flags => exact hpropertySetter type name flags s hs
  | memberGetter type name =>
      exact (hfieldGetter type name none).orElseMember (hpropertyGetter type name none) s hs
  | memberSetter type name =>
      exact (hfieldSetter type name none).orElseMember (hpropertySetter type name none) s hs
  | method type name params flags => exact h.keeps_method type name params flags s hs
  | staticMethod type name params =>
      have hget : Keeps P (get : ReflectM Session) := h.keeps_of_run fun _ => ⟨rfl, rfl, rfl⟩
      exact hget.bind (fun _ => h.keeps_method type name params _) s hs
  | genericMethod type name params typeArgs flags =>
      exact h.request (.callMethod type name params typeArgs flags) s hs
  | constructor type params flags =>
      exact (h.keeps_orStandardFlags flags).bind
        (fun flags => h.keeps_request (.create type params flags)) s hs
  | elementGetter array => exact h.request (.readElement array) s hs
  | elementSetter array => exact h.request (.writeElement array) s hs
  | indexerGetter type index => exact h.keeps_method type "get_Item" index none s hs
  | indexerSetter type index value =>
      exact h.keeps_method type "set_Item" (index ++ [value]) none s hs
  | mapper source target sourceKinds targetKinds names flags =>
      exact (h.keeps_orStandardFlags flags).bind (fun flags => h.keeps_requestMapper _) s hs
  | purge =>
      have hcompilations : s.reflector.members.purge.2.stats.compilations =
          s.reflector.members.stats.compilations := by
        rw [(Cache.purge_counts s.reflector.members).1]
      exact h.fewer (s := s) rfl (Cache.entries_purge_sublist _).subset rfl hcompilations hs
  | clear => exact h.fewer (s := s) rfl (List.nil_subset _) rfl rfl hs
  | release id => exact h.fewer (s := s) rfl (List.Subset.refl _) rfl rfl hs

/-! ### Order -/

/-- What holds of a session between two operations. -/
structure InOrder (s : Session) : Prop where
  /-- every type is listed under its own handle -/
  keyed : s.world.registry.Keyed
  /-- every kept accessor has the form that suits its key -/
  suits : ∀ entry ∈ s.reflector.members.entries, entry.2.content.suits entry.1 = true
  /-- as many requests were resolved as accessors were made -/
  counts : s.reflector.resolutions = s.reflector.members.stats.compilations

/-- What is kept under the signature of a request has the form that the request is for. -/
theorem InOrder.content_of_find? (h : InOrder s) (hasks : Asks compiler sig)
    {kept : Artifact Accessor} (hfind : s.reflector.members.find? sig = some kept) :
    ∃ prepared, kept.content = compiler.facet.wrap prepared := by
  obtain ⟨entry, hentry, hkey, rfl⟩ := Cache.exists_of_find? hfind
  refine hasks.eq_wrap ?_
  rw [Accessor.suits_congr _ hkey]
  exact h.suits entry hentry

/-- So the answer for a request is what is kept for it. -/
theorem InOrder.findAs?_eq_some_iff (h : InOrder s) (hasks : Asks compiler sig)
    {answer : Artifact (Prepared β)} :
    s.reflector.members.findAs? compiler.facet sig = some answer ↔
      s.reflector.members.find? sig = some (answer.kept compiler.facet) := by
  cases hfind : s.reflector.members.find? sig with
  | none => simp [Cache.findAs?, hfind]
  | some kept =>
      obtain ⟨id, content⟩ := kept
      obtain ⟨prepared, rfl⟩ := h.content_of_find? hasks hfind
      have hanswer : s.reflector.members.findAs? compiler.facet sig = some ⟨id, prepared⟩ := by
        simp [Cache.findAs?, hfind, compiler.facet.view_wrap]
      rw [hanswer]
      constructor
      · intro heq
        rw [← Option.some.inj heq]
        rfl
      · intro heq
        have hkept : (⟨id, prepared⟩ : Artifact (Prepared β)).kept compiler.facet =
            answer.kept compiler.facet := Option.some.inj heq
        rw [Artifact.kept_inj hkept]

/-- Order is kept. What a request publishes has the form that suits it. -/
theorem invariant_inOrder : Invariant InOrder where
  request {_ compiler sig} hasks s h := by
    have hkeyed : ((request compiler sig).run s).2.world.registry.Keyed := by
      rw [world_request]
      exact h.keyed
    refine ⟨hkeyed, fun entry hentry => ?_, counts_request hasks h.keyed h.counts⟩
    rcases mem_entries_request hentry with hold | ⟨hkey, prepared, -, hcontent⟩
    · exact h.suits entry hold
    · rw [hkey, hcontent]
      exact hasks.suits_wrap prepared
  fewer {s next} hworld hentries hresolutions hcompilations h := by
    refine ⟨?_, fun entry hentry => h.suits entry (hentries hentry), ?_⟩
    · rw [hworld]
      exact h.keyed
    · rw [hresolutions, hcompilations]
      exact h.counts

/-- The sessions that users can come to from an unused reflector. Between operations the world may
become any other whose types are listed under their own handles. -/
inductive Lived : Session → Prop
  | start (w : World) (strategy : CacheStrategy) (softLimit : Option Nat) (flags : Flags) :
      w.registry.Keyed → Lived ⟨w, .empty strategy softLimit flags⟩
  | perform {s : Session} (op : Operation) : Lived s → Lived (op.perform s)
  | become {s : Session} (w : World) : Lived s → w.registry.Keyed → Lived { s with world := w }

/-- Any number of operations may follow. -/
theorem Lived.performAll (h : Lived s) (ops : List Operation) :
    Lived (ops.foldl Operation.perform s) := by
  induction ops generalizing s with
  | nil => exact h
  | cons op ops ih => exact ih (h.perform op)

/-- A session is in order at every point. -/
theorem Lived.inOrder (h : Lived s) : InOrder s := by
  induction h with
  | start w strategy softLimit flags hkeyed =>
      refine ⟨hkeyed, fun entry hentry => ?_, rfl⟩
      cases hentry
  | perform op _ ih => exact invariant_inOrder.perform ih op
  | become w _ hkeyed ih => exact ⟨hkeyed, ih.suits, ih.counts⟩

/-- A request is answered with what is kept for it from then on. -/
theorem InOrder.find?_of_answer (h : InOrder s) (hasks : Asks compiler sig)
    {answer : Artifact (Prepared β)} (hanswer : ((request compiler sig).run s).1 = .ok answer) :
    ((request compiler sig).run s).2.reflector.members.find? sig =
      some (answer.kept compiler.facet) := by
  rw [← (invariant_inOrder.request hasks s h).findAs?_eq_some_iff hasks]
  have hfound := Cache.fst_lookup s.reflector.members compiler.facet sig
  have hentries := Cache.entries_lookup s.reflector.members compiler.facet sig
  rw [run_request_eq] at hanswer ⊢
  rcases hlookup : s.reflector.members.lookup compiler.facet sig with ⟨found, members⟩
  rw [hlookup] at hfound hentries hanswer
  have hfind : members.find? sig = s.reflector.members.find? sig := Cache.find?_of_entries hentries
  cases found with
  | some found =>
      obtain rfl : found = answer := Except.ok.inj hanswer
      show members.findAs? compiler.facet sig = some found
      rw [Cache.findAs?, hfind]
      exact hfound.symm
  | none =>
      dsimp only at hanswer ⊢
      cases hresult : (compiler.compile s.world.registry sig).1 with
      | error e =>
          rw [hresult] at hanswer
          cases hanswer
      | ok prepared =>
          rw [hresult] at hanswer
          obtain rfl : (members.publish compiler.facet sig prepared).1 = answer :=
            Except.ok.inj hanswer
          refine Cache.findAs?_publish members compiler.facet sig prepared fun kept hkept => ?_
          rw [hfind] at hkept
          obtain ⟨made, hmade⟩ := h.content_of_find? hasks hkept
          rw [hmade, compiler.facet.view_wrap]
          rfl

/-- One form of accessors for each key, and one resolution for each accessor, at every point of the
life of a reflector.

Take any request. What is kept under its signature is an accessor of the form that the request is
for. If the request is answered, the answer is what is kept from then on, so nothing of another form
was in its place. If it can be resolved, its accessor can be prepared.

So as many requests have been resolved as accessors were made. -/
theorem Lived.forms_and_resolutions (h : Lived s) :
    (∀ {β : Type} (compiler : Compiler β) (sig : Signature), Asks compiler sig →
      (∀ kept, s.reflector.members.find? sig = some kept →
        ∃ prepared, kept.content = compiler.facet.wrap prepared) ∧
      (∀ answer, ((request compiler sig).run s).1 = .ok answer →
        ((request compiler sig).run s).2.reflector.members.find? sig =
          some (answer.kept compiler.facet)) ∧
      (∀ found, Resolver.resolve s.world.registry sig = .ok found →
        ∃ prepared, compiler.compile s.world.registry sig = (.ok prepared, 1))) ∧
    s.reflector.resolutions = s.reflector.members.stats.compilations := by
  have horder := h.inOrder
  refine ⟨?_, horder.counts⟩
  intro β compiler sig hasks
  refine ⟨?_, ?_, ?_⟩
  · intro kept hkept
    exact horder.content_of_find? hasks hkept
  · intro answer hanswer
    exact horder.find?_of_answer hasks hanswer
  · intro found hfound
    exact hasks.compile_of_resolve horder.keyed hfound

/-- A read of a field is requested, then one that is not there, then a write of a field or else a
property, and then the first one again. -/
def browsed : Session :=
  [Operation.fieldGetter Resolver.account.1 "Number" none,
    .fieldGetter Resolver.account.1 "Missing" none, .memberSetter Resolver.account.1 "Owner",
    .fieldGetter Resolver.account.1 "Number" none].foldl Operation.perform
      ⟨World.ofRegistry Resolver.account.2, .standard⟩

/-- This makes five requests. One is answered with what is kept, two cannot be resolved, and two are
resolved and made. The read of the field is kept as a read. -/
theorem forms_and_resolutions_browsed :
    Lived browsed ∧ browsed.reflector.members.stats = ⟨1, 4, 2, 0, 0⟩ ∧
      browsed.reflector.resolutions = 2 ∧
      ∃ kept prepared,
        browsed.reflector.members.find? (.field Resolver.account.1 "Number" .read
          browsed.reflector.memberFlags) = some kept ∧ kept.content = .getter prepared := by
  have hkeyed : Resolver.account.2.Keyed := Registry.keyed_declare Registry.keyed_initial _ _
  have hlived : Lived browsed :=
    (Lived.start (World.ofRegistry Resolver.account.2) _ _ _ hkeyed).performAll _
  have hstats : browsed.reflector.members.stats = ⟨1, 4, 2, 0, 0⟩ := by decide +kernel
  obtain ⟨hrequests, hcounts⟩ := hlived.forms_and_resolutions
  obtain ⟨kept, hkept⟩ : ∃ kept, browsed.reflector.members.find?
      (.field Resolver.account.1 "Number" .read browsed.reflector.memberFlags) = some kept := by
    rw [← Option.isSome_iff_exists]
    decide +kernel
  obtain ⟨prepared, hcontent⟩ := (hrequests .getter _ (.readField _ _ _)).1 kept hkept
  exact ⟨hlived, hstats, by rw [hcounts, hstats], kept, prepared, hkept, hcontent⟩

end Reflector

end Introspect
