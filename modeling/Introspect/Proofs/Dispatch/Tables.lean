import Introspect.Proofs.Dispatch.Slots
import Introspect.Proofs.Registry.Derivation

/-!
# `Introspect.Proofs.Dispatch.Tables`: what dispatch tables hold

`Nearest` is virtual lookup as one would define it: the method of a signature that is declared
nearest to a type on its base chain. Calls do not search for it. They look into the dispatch table
of the type, at a slot that was fixed when the type was built.

`Sound` is the invariant that makes the two agree. Every entry of a table is the nearest method of
its own signature, no two entries have the same one, a virtual method is in its slot, and the slots
of the base keep their signatures. `Assembled.sound` proves it for all types of an assembled
registry: `sound_built` is the step for a new type and `Sound.mono` the one for the others.

`slot_of_derives` goes down the base chain from the type that declares a method to a type derived
from it: the method's slot still has the signature of the method, hence holds the nearest one.
-/

set_option autoImplicit false

namespace Introspect

/-- Signatures are compared by equality. -/
theorem MethodInfo.SameSignature.symm {method other : MethodInfo} (h : method.SameSignature other) :
    other.SameSignature method :=
  ⟨h.1.symm, h.2.symm⟩

/-- Methods of the same signature as a third one have the same signature. -/
theorem MethodInfo.SameSignature.trans {a b c : MethodInfo} (h : a.SameSignature b)
    (h' : b.SameSignature c) : a.SameSignature c :=
  ⟨h.1.trans h'.1, h.2.trans h'.2⟩

namespace Registry

/-- The virtual method with the signature of `method` that is declared nearest to a type on its base
chain. -/
inductive Nearest (reg : Registry) (method : MethodInfo) : TypeHandle → MethodRef → Prop
  | here {type : TypeHandle} {info : TypeInfo} {index : Nat} {found : MethodInfo} :
      reg.get type = some info → info.methods[index]? = some found → found.dispatches = true →
      found.SameSignature method → Nearest reg method type ⟨type, index⟩
  | up {type base : TypeHandle} {info : TypeInfo} {ref : MethodRef} :
      reg.get type = some info →
      (∀ (i : Nat) (found : MethodInfo), info.methods[i]? = some found → found.dispatches = true →
        ¬ found.SameSignature method) →
      info.base = some base → Nearest reg method base ref → Nearest reg method type ref

variable {reg next : Registry} {type base : TypeHandle} {info old : TypeInfo}
  {method other : MethodInfo} {ref ref' : MethodRef}

/-- The nearest method stays the nearest one when the registry grows. -/
theorem Nearest.mono (h : reg.Nearest method type ref) (hkeeps : Keeps reg next) :
    next.Nearest method type ref := by
  induction h with
  | here hinfo hfound hvirtual hsame =>
      obtain ⟨later, hlater, hagrees⟩ := hkeeps _ _ hinfo
      exact .here hlater (hagrees.methods ▸ hfound) hvirtual hsame
  | up hinfo hnone hbase _ ih =>
      obtain ⟨later, hlater, hagrees⟩ := hkeeps _ _ hinfo
      exact .up hlater (hagrees.methods ▸ hnone) (hagrees.base.trans hbase) ih

/-- Only the signature counts. -/
theorem Nearest.congr (h : reg.Nearest method type ref) (hsame : method.SameSignature other) :
    reg.Nearest other type ref := by
  induction h with
  | here hinfo hfound hvirtual hfoundSame =>
      exact .here hinfo hfound hvirtual (hfoundSame.trans hsame)
  | up hinfo hnone hbase _ ih =>
      exact .up hinfo (fun i found hfound hvirtual hfoundSame =>
        hnone i found hfound hvirtual (hfoundSame.trans hsame.symm)) hbase ih

/-- The nearest method is a virtual method of the signature, declared by a base. -/
theorem Nearest.spec (h : reg.Nearest method type ref) :
    reg.DerivesFrom type ref.declaring ∧
      ∃ found, reg.methodAt ref = some found ∧ found.dispatches = true ∧
        found.SameSignature method := by
  induction h with
  | @here type info index found hinfo hfound hvirtual hsame =>
      exact ⟨.refl, found, by simp [methodAt, hinfo, hfound], hvirtual, hsame⟩
  | up hinfo _ hbase _ ih => exact ⟨.head (by simp [baseOf, hinfo, hbase]) ih.1, ih.2⟩

/-! ### The invariant -/

/-- A base type whose slots keep their signatures in a table. -/
def Inherits (reg : Registry) (table : List MethodRef) (base : TypeHandle) : Prop :=
  ∃ info, reg.get base = some info ∧
    ∀ {s : Nat} {entry : MethodRef}, info.dispatchTable[s]? = some entry →
      ∃ (new : MethodRef) (method found : MethodInfo), table[s]? = some new ∧
        reg.methodAt entry = some method ∧ reg.methodAt new = some found ∧
        found.SameSignature method

/-- The dispatch table of a type leads to the nearest methods. -/
structure Sound (reg : Registry) (type : TypeHandle) (info : TypeInfo) : Prop where
  /-- virtual methods of a type have different signatures -/
  single : ∀ {i j : Nat} {method other : MethodInfo}, info.methods[i]? = some method →
    info.methods[j]? = some other → method.dispatches = true → other.dispatches = true →
    method.SameSignature other → i = j
  /-- a virtual method is in its slot -/
  own : ∀ {i : Nat} {method : MethodInfo}, info.methods[i]? = some method →
    method.dispatches = true →
    ∃ slot, method.slot = some slot ∧ info.dispatchTable[slot]? = some ⟨type, i⟩
  /-- an entry is the nearest method of its own signature -/
  nearest : ∀ {s : Nat} {entry : MethodRef}, info.dispatchTable[s]? = some entry →
    ∃ method, reg.methodAt entry = some method ∧ reg.Nearest method type entry
  /-- entries have different signatures -/
  distinct : ∀ {s s' : Nat} {entry entry' : MethodRef} {method other : MethodInfo},
    info.dispatchTable[s]? = some entry → info.dispatchTable[s']? = some entry' →
    reg.methodAt entry = some method → reg.methodAt entry' = some other →
    method.SameSignature other → s = s'
  /-- the base is published, and its slots keep their signatures -/
  inherits : ∀ base, info.base = some base → reg.Inherits info.dispatchTable base
  /-- a base other than the root type is embedded -/
  embeds : ∀ base, info.base = some base → info.embedsBase = none → base = .object

/-- Slots keep their signatures when the registry grows. -/
theorem Inherits.mono {table : List MethodRef} (h : reg.Inherits table base)
    (hkeeps : Keeps reg next) : next.Inherits table base := by
  obtain ⟨info, hinfo, hslots⟩ := h
  obtain ⟨later, hlater, hagrees⟩ := hkeeps _ _ hinfo
  refine ⟨later, hlater, fun {s entry} hentry => ?_⟩
  rw [hagrees.table] at hentry
  obtain ⟨new, method, found, hnew, hmethod, hfound, hsame⟩ := hslots hentry
  exact ⟨new, method, found, hnew, hkeeps.methodAt hmethod, hkeeps.methodAt hfound, hsame⟩

/-- A sound table stays sound when the registry grows. -/
theorem Sound.mono (h : Sound reg type old) (hkeeps : Keeps reg next) (hagrees : old.Agrees info) :
    Sound next type info := by
  have hmethodAt : ∀ {s : Nat} {entry : MethodRef} {method : MethodInfo},
      old.dispatchTable[s]? = some entry → next.methodAt entry = some method →
      reg.methodAt entry = some method := by
    intro s entry method hentry hmethod
    obtain ⟨found, hfound, -⟩ := h.nearest hentry
    rw [hfound, ← hkeeps.methodAt hfound, hmethod]
  refine ⟨?single, ?own, ?nearest, ?distinct, ?inherits, ?embeds⟩
  case single => rw [hagrees.methods]; exact h.single
  case own => rw [hagrees.methods, hagrees.table]; exact h.own
  case nearest =>
    rw [hagrees.table]
    intro s entry hentry
    obtain ⟨method, hmethod, hnearest⟩ := h.nearest hentry
    exact ⟨method, hkeeps.methodAt hmethod, hnearest.mono hkeeps⟩
  case distinct =>
    rw [hagrees.table]
    intro s s' entry entry' method other hentry hentry' hmethod hother
    exact h.distinct hentry hentry' (hmethodAt hentry hmethod) (hmethodAt hentry' hother)
  case inherits =>
    rw [hagrees.base, hagrees.table]
    exact fun base hbase => (h.inherits base hbase).mono hkeeps
  case embeds => rw [hagrees.base, hagrees.embeds]; exact h.embeds

/-- The root type has no base and no methods. -/
def IsRoot (info : TypeInfo) : Prop :=
  info.methods = [] ∧ info.dispatchTable = [] ∧ info.base = none

/-- A type without methods, right below the root type or without a base, has a sound table. -/
theorem sound_of_no_methods {root : TypeInfo} (hroot : reg.get .object = some root)
    (hisRoot : IsRoot root) (hmethods : info.methods = []) (htable : info.dispatchTable = [])
    (hbase : ∀ base, info.base = some base → base = .object) : Sound reg type info where
  single h := by simp [hmethods] at h
  own h := by simp [hmethods] at h
  nearest h := by simp [htable] at h
  distinct h := by simp [htable] at h
  inherits base h := by
    obtain rfl := hbase base h
    exact ⟨root, hroot, fun h => by simp [hisRoot.2.1] at h⟩
  embeds base h _ := hbase base h

/-! ### A new type -/

/-- The methods of a description, with the attributes that were given by name. -/
def describedMethods (b : Blueprint) : List MethodInfo :=
  b.methods.map fun m => { m with attributes := m.attributes ++ b.attributesFor m.name }

/-- The base of a type that is built: the declared one, or else the root type. -/
def builtBase (b : Blueprint) : Option TypeHandle :=
  if b.kind = .root then none else some (b.base.getD .object)

/-- The base of a type that is built is published. -/
theorem builtBase_published {b : Blueprint} (h : b.Orderly reg)
    (hroot : (reg.get .object).isSome) (hbuilt : builtBase b = some base) :
    (reg.get base).isSome := by
  unfold builtBase at hbuilt
  split at hbuilt
  · simp at hbuilt
  · obtain rfl := Option.some.inj hbuilt
    cases hdeclared : b.base with
    | none => exact hroot
    | some base => exact h.base_published base hdeclared

/-- Attributes leave the signature of a method alone. -/
theorem describedMethods_eq_some {b : Blueprint} {i : Nat}
    (h : (describedMethods b)[i]? = some method) :
    ∃ found, b.methods[i]? = some found ∧ found.dispatches = method.dispatches ∧
      found.SameSignature method := by
  simp only [describedMethods, List.getElem?_map, Option.map_eq_some_iff] at h
  obtain ⟨found, hfound, rfl⟩ := h
  exact ⟨found, hfound, rfl, rfl, rfl⟩

/-- An entry of the table that a type starts from is one of its base. -/
theorem baseTable_eq_some {b : Blueprint} {s : Nat}
    (h : (Blueprint.baseTable reg (builtBase b))[s]? = some ref) :
    ∃ base info, builtBase b = some base ∧ reg.get base = some info ∧
      info.dispatchTable[s]? = some ref := by
  unfold Blueprint.baseTable at h
  split at h
  · next info hinfo =>
      obtain ⟨base, hbase, hget⟩ := Option.bind_eq_some_iff.mp hinfo
      exact ⟨base, info, hbase, hget, h⟩
  · simp at h

/-- What is known of a type that was just built and published. -/
structure JustBuilt (reg next : Registry) (b : Blueprint) (type : TypeHandle) (info : TypeInfo) :
    Prop where
  /-- its methods were given slots in the table of its base -/
  assigned : Blueprint.Assigned reg type 0 (describedMethods b)
    (Blueprint.baseTable reg (builtBase b)) (info.methods, info.dispatchTable)
  base : info.base = builtBase b
  embeds : info.embedsBase = b.embedsBase
  published : next.get type = some info
  keeps : Keeps reg next

/-- The methods of a new type can be looked up. -/
theorem JustBuilt.methodAt {b : Blueprint} (h : JustBuilt reg next b type info) (i : Nat) :
    next.methodAt ⟨type, i⟩ = info.methods[i]? := by
  simp [Registry.methodAt, h.published]

/-- Virtual methods of a new type have different signatures. -/
theorem JustBuilt.single {b : Blueprint} (h : JustBuilt reg next b type info)
    (horderly : b.Orderly reg) {i j : Nat} (hmethod : info.methods[i]? = some method)
    (hother : info.methods[j]? = some other) (hvirtual : method.dispatches = true)
    (hotherVirtual : other.dispatches = true) (hsame : method.SameSignature other) : i = j := by
  obtain ⟨described, hdescribed, heq⟩ := h.assigned.back hmethod
  obtain ⟨described', hdescribed', heq'⟩ := h.assigned.back hother
  obtain ⟨first, hfirst, hdispatches, hsig⟩ := describedMethods_eq_some hdescribed
  obtain ⟨second, hsecond, hdispatches', hsig'⟩ := describedMethods_eq_some hdescribed'
  rw [heq] at hvirtual hsame
  rw [heq'] at hotherVirtual hsame
  exact horderly.single hfirst hsecond (hdispatches.trans hvirtual)
    (hdispatches'.trans hotherVirtual) ((hsig.trans hsame).trans hsig'.symm)

/-- A base that is not embedded was not declared, so it is the root type. -/
theorem JustBuilt.base_of_not_embedded {b : Blueprint} (h : JustBuilt reg next b type info)
    (horderly : b.Orderly reg) (hbase : info.base = some base) (hnone : info.embedsBase = none) :
    base = .object := by
  have hbuilt : builtBase b = some base := h.base.symm.trans hbase
  have hembedsBase : b.embedsBase = none := h.embeds.symm.trans hnone
  have hdeclared : b.base = none := by
    have hembedded := horderly.base_embedded
    rw [hembedsBase] at hembedded
    simpa using hembedded
  unfold builtBase at hbuilt
  rw [hdeclared] at hbuilt
  split at hbuilt
  · simp at hbuilt
  · exact (Option.some.inj hbuilt).symm

section
variable (hreg : ∀ other info, reg.get other = some info → Sound reg other info)
include hreg

/-- An entry of the table that a type starts from is the nearest method of its own signature, seen
from the base. -/
theorem nearest_of_baseTable {b : Blueprint} {s : Nat} {entry : MethodRef}
    (h : (Blueprint.baseTable reg (builtBase b))[s]? = some entry) :
    ∃ base method, builtBase b = some base ∧ reg.methodAt entry = some method ∧
      reg.Nearest method base entry := by
  obtain ⟨base, info, hbase, hinfo, hslot⟩ := baseTable_eq_some h
  obtain ⟨method, hmethod, hnearest⟩ := (hreg base info hinfo).nearest hslot
  exact ⟨base, method, hbase, hmethod, hnearest⟩

/-- The entries of the table that a type starts from have different signatures. -/
theorem distinct_baseTable (b : Blueprint) :
    Blueprint.Distinct reg (Blueprint.baseTable reg (builtBase b)) := by
  intro s s' entry entry' method hentry hentry' hmatches hmatches'
  obtain ⟨base, info, hbase, hinfo, hslot⟩ := baseTable_eq_some hentry
  obtain ⟨base', info', hbase', hinfo', hslot'⟩ := baseTable_eq_some hentry'
  obtain rfl := Option.some.inj (hbase.symm.trans hbase')
  obtain rfl := Option.some.inj (hinfo.symm.trans hinfo')
  obtain ⟨found, hfound, hsame⟩ := hmatches
  obtain ⟨found', hfound', hsame'⟩ := hmatches'
  exact (hreg base info hinfo).distinct hslot hslot' hfound hfound' (hsame.trans hsame'.symm)

/-- The slots that the methods of a new type get. -/
theorem assigned_build (b : Blueprint) (hnew : reg.get type = none) :
    Blueprint.Assigned reg type 0 (describedMethods b) (Blueprint.baseTable reg (builtBase b))
      ((b.build type reg).methods, (b.build type reg).dispatchTable) := by
  have hbefore : Blueprint.Before type 0 (Blueprint.baseTable reg (builtBase b)) := by
    intro s entry hentry hdeclaring
    obtain ⟨base, method, -, hmethod, -⟩ := nearest_of_baseTable hreg hentry
    simp [methodAt, hdeclaring, hnew] at hmethod
  exact Blueprint.assigned hnew (describedMethods b) hbefore (distinct_baseTable hreg b)

/-- An entry of a new table is the nearest method of its own signature. -/
theorem JustBuilt.nearest {b : Blueprint} (h : JustBuilt reg next b type info) {s : Nat}
    {entry : MethodRef} (hentry : info.dispatchTable[s]? = some entry) :
    ∃ method, next.methodAt entry = some method ∧ next.Nearest method type entry := by
  rcases h.assigned.entry_cases hentry with ⟨i, made, rfl, hmade, hvirtual, -⟩ | ⟨hold, hnone⟩
  · rw [Nat.zero_add]
    exact ⟨made, (h.methodAt i).trans hmade, .here h.published hmade hvirtual ⟨rfl, rfl⟩⟩
  · -- No method of the new type has the signature, so the nearest one is that of the base.
    obtain ⟨base, method, hbuilt, hmethod, hnearest⟩ := nearest_of_baseTable hreg hold
    refine ⟨method, h.keeps.methodAt hmethod, .up h.published ?_ (h.base.trans hbuilt)
      (hnearest.mono h.keeps)⟩
    intro i found hfound hvirtual hsame
    exact hnone i found hfound hvirtual ⟨method, hmethod, hsame.symm⟩

/-- An old entry of a new table matches what its method has the signature of. -/
theorem JustBuilt.matches_old {b : Blueprint} (h : JustBuilt reg next b type info) {s : Nat}
    {entry : MethodRef} (hold : (Blueprint.baseTable reg (builtBase b))[s]? = some entry)
    (hmethod : next.methodAt entry = some method) (hsame : method.SameSignature other) :
    Blueprint.Matches reg other entry := by
  obtain ⟨base, found, -, hfound, -⟩ := nearest_of_baseTable hreg hold
  obtain rfl := Option.some.inj ((h.keeps.methodAt hfound).symm.trans hmethod)
  exact ⟨found, hfound, hsame⟩

/-- The entries of a new table have different signatures. An old entry and a new one differ, since a
new method takes the slot that it matches. -/
theorem JustBuilt.distinct {b : Blueprint} (h : JustBuilt reg next b type info)
    (horderly : b.Orderly reg) {s s' : Nat} {entry entry' : MethodRef}
    (hentry : info.dispatchTable[s]? = some entry) (hentry' : info.dispatchTable[s']? = some entry')
    (hmethod : next.methodAt entry = some method) (hother : next.methodAt entry' = some other)
    (hsame : method.SameSignature other) : s = s' := by
  rcases h.assigned.entry_cases hentry with ⟨i, made, rfl, hmade, hvirtual, -⟩ | ⟨hold, hnone⟩ <;>
    rcases h.assigned.entry_cases hentry' with
      ⟨j, made', rfl, hmade', hvirtual', -⟩ | ⟨hold', hnone'⟩
  · rw [Nat.zero_add, h.methodAt] at hmethod hother
    obtain rfl := Option.some.inj (hmade.symm.trans hmethod)
    obtain rfl := Option.some.inj (hmade'.symm.trans hother)
    obtain rfl := h.single horderly hmade hmade' hvirtual hvirtual' hsame
    obtain ⟨slot, -, hplaced⟩ := h.assigned.placed hmade hvirtual
    exact ((hplaced s).mp hentry).trans ((hplaced s').mp hentry').symm
  · rw [Nat.zero_add, h.methodAt] at hmethod
    obtain rfl := Option.some.inj (hmade.symm.trans hmethod)
    exact absurd (h.matches_old hreg hold' hother hsame.symm) (hnone' i made hmade hvirtual)
  · rw [Nat.zero_add, h.methodAt] at hother
    obtain rfl := Option.some.inj (hmade'.symm.trans hother)
    exact absurd (h.matches_old hreg hold hmethod hsame) (hnone j made' hmade' hvirtual')
  · exact distinct_baseTable hreg b hold hold' (h.matches_old hreg hold hmethod hsame)
      (h.matches_old hreg hold' hother ⟨rfl, rfl⟩)

/-- The base of a new type is published, and its slots keep their signatures. -/
theorem JustBuilt.inherits {b : Blueprint} (h : JustBuilt reg next b type info)
    (hroot : (reg.get .object).isSome) (horderly : b.Orderly reg)
    (hbase : info.base = some base) : next.Inherits info.dispatchTable base := by
  have hbuilt : builtBase b = some base := h.base.symm.trans hbase
  obtain ⟨baseInfo, hbaseInfo⟩ := Option.isSome_iff_exists.mp
    (builtBase_published horderly hroot hbuilt)
  obtain ⟨later, hlater, hagrees⟩ := h.keeps _ _ hbaseInfo
  refine ⟨later, hlater, ?_⟩
  intro s entry hentry
  rw [hagrees.table] at hentry
  have hold : (Blueprint.baseTable reg (builtBase b))[s]? = some entry := by
    simpa [Blueprint.baseTable, hbuilt, hbaseInfo] using hentry
  obtain ⟨new, hnew⟩ := h.assigned.slots hold
  rcases h.assigned.entry_cases hnew with ⟨i, made, rfl, hmade, -, hmatches⟩ | ⟨hsame, -⟩
  · obtain ⟨found, hfound, hfoundSame⟩ := hmatches entry hold
    have hmethod : next.methodAt ⟨type, 0 + i⟩ = some made := by
      rw [Nat.zero_add]
      exact (h.methodAt i).trans hmade
    exact ⟨_, found, made, hnew, h.keeps.methodAt hfound, hmethod, hfoundSame.symm⟩
  · obtain rfl := Option.some.inj (hold.symm.trans hsame)
    obtain ⟨-, method, -, hmethod, -⟩ := nearest_of_baseTable hreg hold
    exact ⟨entry, method, method, hnew, h.keeps.methodAt hmethod, h.keeps.methodAt hmethod,
      rfl, rfl⟩

/-- A type that was just built has a sound table. -/
theorem sound_built {b : Blueprint} (hroot : (reg.get .object).isSome) (hnew : reg.get type = none)
    (horderly : b.Orderly reg) (hkeeps : Keeps reg next) (hinfo : next.get type = some info)
    (hagrees : (b.build type reg).Agrees info) : Sound next type info := by
  obtain ⟨hmethods, hbase, htable, hembeds⟩ := hagrees
  have hassigned := assigned_build hreg b hnew
  rw [← hmethods, ← htable] at hassigned
  have hbuilt : JustBuilt reg next b type info := ⟨hassigned, hbase, hembeds, hinfo, hkeeps⟩
  refine ⟨hbuilt.single horderly, ?own, hbuilt.nearest hreg, hbuilt.distinct hreg horderly,
    ?inherits, ?embeds⟩
  case own =>
    intro i method hmethod hvirtual
    obtain ⟨slot, hslot, hplaced⟩ := hassigned.placed hmethod hvirtual
    exact ⟨slot, hslot, by rw [(hplaced slot).mpr rfl, Nat.zero_add]⟩
  case inherits =>
    intro base hinfoBase
    exact hbuilt.inherits hreg hroot horderly hinfoBase
  case embeds =>
    intro base hinfoBase hnone
    exact hbuilt.base_of_not_embedded horderly hinfoBase hnone

end

/-! ### All types -/

/-- The root type of a registry. -/
theorem initial_root : ∃ root, initial.get .object = some root ∧ IsRoot root :=
  ⟨_, rfl, rfl, rfl, rfl⟩

/-- The root type stays the root type. -/
theorem Assembled.root (h : Assembled reg) : ∃ root, reg.get .object = some root ∧ IsRoot root := by
  obtain ⟨root, hroot, hmethods, htable, hbase⟩ := initial_root
  obtain ⟨later, hlater, hagrees⟩ := Assembled.keeps .refl h _ _ hroot
  exact ⟨later, hlater, hagrees.methods.trans hmethods, hagrees.table.trans htable,
    hagrees.base.trans hbase⟩

/-- The built-in types have sound tables. -/
theorem sound_initial (h : initial.get type = some info) : Sound initial type info := by
  obtain ⟨root, hroot, hisRoot⟩ := initial_root
  have hmem : (type, info) ∈ initial.types := by
    obtain ⟨front, back, htypes, -⟩ := List.lookup_eq_some_iff.mp h
    simp [htypes]
  have htypes : initial.types = (builtins.map fun info => (info.handle, info)).reverse := rfl
  simp only [htypes, List.mem_reverse, List.mem_map, Prod.mk.injEq] at hmem
  obtain ⟨builtin, hbuiltin, -, rfl⟩ := hmem
  have hbare : builtin.methods = [] ∧ builtin.dispatchTable = [] ∧
      ∀ base, builtin.base = some base → base = .object := by
    simp only [builtins, List.mem_cons, List.not_mem_nil, or_false] at hbuiltin
    rcases hbuiltin with rfl | rfl | rfl | rfl | rfl | rfl | rfl <;> simp [TypeInfo.bare]
  exact sound_of_no_methods hroot hisRoot hbare.1 hbare.2.1 hbare.2.2

/-- All types of an assembled registry have sound tables. -/
theorem Assembled.sound (h : Assembled reg) :
    ∀ type info, reg.get type = some info → Sound reg type info := by
  induction h with
  | refl => exact fun type info hinfo => sound_initial hinfo
  | @tail reg next hreg hstep ih =>
      have hgrows := hstep.grows (Assembled.arraysPublished hreg)
      obtain ⟨root, hroot, hisRoot⟩ := Assembled.root hreg
      obtain ⟨later, hlater, hlaterRoot⟩ := Assembled.root (hreg.tail hstep)
      intro type info hinfo
      cases hgrows.origin type info hinfo with
      | kept hold hagrees => exact (ih _ _ hold).mono hgrows.keeps hagrees
      | array element name hagrees =>
          refine sound_of_no_methods hlater hlaterRoot hagrees.methods hagrees.table ?_
          intro base hbase
          exact (Option.some.inj (hagrees.base.symm.trans hbase)).symm
      | built b hnew horderly hagrees =>
          exact sound_built ih (by simp [hroot]) hnew horderly hgrows.keeps hinfo hagrees

/-- There is one nearest method only. -/
theorem Nearest.unique (hreg : Assembled reg) (h : reg.Nearest method type ref)
    (h' : reg.Nearest method type ref') : ref = ref' := by
  induction h with
  | here hinfo hfound hvirtual hsame =>
      cases h' with
      | here hinfo' hfound' hvirtual' hsame' =>
          obtain rfl := Option.some.inj (hinfo.symm.trans hinfo')
          have hindex := (hreg.sound _ _ hinfo).single hfound hfound' hvirtual hvirtual'
            (hsame.trans hsame'.symm)
          rw [hindex]
      | up hinfo' hnone _ _ =>
          obtain rfl := Option.some.inj (hinfo.symm.trans hinfo')
          exact absurd hsame (hnone _ _ hfound hvirtual)
  | up hinfo hnone hbase _ ih =>
      cases h' with
      | here hinfo' hfound' hvirtual' hsame' =>
          obtain rfl := Option.some.inj (hinfo.symm.trans hinfo')
          exact absurd hsame' (hnone _ _ hfound' hvirtual')
      | up hinfo' _ hbase' hrest' =>
          obtain rfl := Option.some.inj (hinfo.symm.trans hinfo')
          obtain rfl := Option.some.inj (hbase.symm.trans hbase')
          exact ih hrest'

/-- The slot of a virtual method holds the nearest method of its signature, in the table of every
type that is derived from the declaring one. -/
theorem slot_of_derives (hreg : Assembled reg) {declaring : TypeHandle} {index : Nat}
    (hderives : reg.DerivesFrom type declaring)
    (hmethod : reg.methodAt ⟨declaring, index⟩ = some method)
    (hvirtual : method.dispatches = true) :
    ∃ slot info entry found, method.slot = some slot ∧ reg.get type = some info ∧
      info.dispatchTable[slot]? = some entry ∧ reg.methodAt entry = some found ∧
      found.SameSignature method := by
  induction hderives using Relation.ReflTransGen.head_induction_on with
  | refl =>
      obtain ⟨info, hinfo, hfound⟩ := Option.bind_eq_some_iff.mp hmethod
      obtain ⟨slot, hslot, hentry⟩ := (hreg.sound _ _ hinfo).own hfound hvirtual
      exact ⟨slot, info, _, method, hslot, hinfo, hentry, hmethod, rfl, rfl⟩
  | head hbase _ ih =>
      obtain ⟨slot, baseInfo, entry, found, hslot, hbaseInfo, hentry, hfound, hsame⟩ := ih
      obtain ⟨info, hinfo, hinfoBase⟩ := Option.bind_eq_some_iff.mp hbase
      obtain ⟨baseInfo', hbaseInfo', hslots⟩ := (hreg.sound _ _ hinfo).inherits _ hinfoBase
      obtain rfl := Option.some.inj (hbaseInfo.symm.trans hbaseInfo')
      obtain ⟨new, old, made, hnew, hold, hmade, hkept⟩ := hslots hentry
      obtain rfl := Option.some.inj (hfound.symm.trans hold)
      exact ⟨slot, info, new, made, hslot, hinfo, hnew, hmade, hkept.trans hsame⟩

end Registry

end Introspect
