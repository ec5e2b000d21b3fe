import Introspect.Registration
import Mathlib.Logic.Relation

/-!
# `Introspect.Proofs.Registry.Assembly`: how a registry comes about

A registry starts with the built-in types and grows by steps: a handle is reserved, an array type is
made, a description is settled. `Builds` is one such step and `Assembled` any number of them. The
descriptions are orderly: each base is published before its derived types are settled, a declared
base comes with the instance that it embeds, and no type declares two virtual methods of the same
signature. Handles that are given out are not published yet.

`Builds.grows` says what a step can do, and the later proofs take steps apart with nothing else: all
published types keep their members (`Keeps`), and a type that is published after the step was
published before, is an array type, or has just been built (`Origin`).
-/

set_option autoImplicit false

namespace Introspect

/-- Two methods of the same name and parameter types. -/
def MethodInfo.SameSignature (method other : MethodInfo) : Prop :=
  method.name = other.name ∧ method.paramTypes = other.paramTypes

/-- Two descriptors with the same methods, base and dispatch table. -/
structure TypeInfo.Agrees (info later : TypeInfo) : Prop where
  methods : later.methods = info.methods
  base : later.base = info.base
  table : later.dispatchTable = info.dispatchTable
  embeds : later.embedsBase = info.embedsBase

/-- A descriptor agrees with itself. -/
theorem TypeInfo.Agrees.refl (info : TypeInfo) : info.Agrees info := ⟨rfl, rfl, rfl, rfl⟩

/-- Agreement goes on from step to step. -/
theorem TypeInfo.Agrees.trans {a b c : TypeInfo} (h : a.Agrees b) (h' : b.Agrees c) : a.Agrees c :=
  ⟨h'.methods.trans h.methods, h'.base.trans h.base, h'.table.trans h.table,
    h'.embeds.trans h.embeds⟩

/-- A description of a type that can be settled in a registry. -/
structure Blueprint.Orderly (b : Blueprint) (reg : Registry) : Prop where
  base_published : ∀ base, b.base = some base → (reg.get base).isSome
  base_embedded : b.base.isSome = b.embedsBase.isSome
  single : ∀ {i j : Nat} {method other : MethodInfo}, b.methods[i]? = some method →
    b.methods[j]? = some other → method.dispatches = true → other.dispatches = true →
    method.SameSignature other → i = j

namespace Registry

/-- The method at a position of a published type. -/
def methodAt (reg : Registry) (ref : MethodRef) : Option MethodInfo :=
  (reg.get ref.declaring).bind (·.methods[ref.index]?)

/-- All published types keep their members. -/
def Keeps (before after : Registry) : Prop :=
  ∀ type info, before.get type = some info →
    ∃ later, after.get type = some later ∧ info.Agrees later

/-- One step of assembling a registry. -/
inductive Builds (reg : Registry) : Registry → Prop
  | reserve (native : NativeType) : Builds reg (reg.reserve native).2
  | arrayOf (element : TypeHandle) : reg.get reg.fresh.1 = none → Builds reg (reg.arrayOf element).2
  | settle {native : NativeType} {type : TypeHandle} {b : Blueprint} :
      b.element = none → reg.get type = none → b.Orderly reg →
      Builds reg (reg.settle native type b).2
  | settleArray {native : NativeType} {type element : TypeHandle} {b : Blueprint} :
      b.element = some element → reg.get reg.fresh.1 = none →
      Builds reg (reg.settle native type b).2

/-- A registry that was assembled from the built-in types. -/
def Assembled (reg : Registry) : Prop := Relation.ReflTransGen Builds initial reg

variable {reg next : Registry} {type : TypeHandle} {info : TypeInfo}

/-! ### Keeping members -/

/-- Nothing changes without a step. -/
theorem Keeps.refl (reg : Registry) : Keeps reg reg :=
  fun _ info h => ⟨info, h, .refl info⟩

/-- Members that are kept by each of two steps are kept by both. -/
theorem Keeps.trans {a b c : Registry} (h : Keeps a b) (h' : Keeps b c) : Keeps a c := by
  intro type info hinfo
  obtain ⟨between, hbetween, hfirst⟩ := h type info hinfo
  obtain ⟨later, hlater, hsecond⟩ := h' type between hbetween
  exact ⟨later, hlater, hfirst.trans hsecond⟩

/-- A method stays where it is. -/
theorem Keeps.methodAt {ref : MethodRef} {method : MethodInfo} (h : Keeps reg next)
    (hmethod : reg.methodAt ref = some method) : next.methodAt ref = some method := by
  obtain ⟨info, hinfo, hindex⟩ := Option.bind_eq_some_iff.mp hmethod
  obtain ⟨later, hlater, hagrees⟩ := h _ _ hinfo
  simp [Registry.methodAt, hlater, hagrees.methods, hindex]

/-! ### What a step can do -/

/-- All array types that are known are published. -/
def ArraysPublished (reg : Registry) : Prop :=
  ∀ element array, reg.arrays.lookup element = some array →
    ∃ name, reg.get array = some (arrayInfo array element name)

/-- A look-up after a publication. -/
theorem get_publish (reg : Registry) (info : TypeInfo) (type : TypeHandle) :
    (reg.publish info).get type = if type = info.handle then some info else reg.get type := by
  by_cases h : type = info.handle
  · subst h
    rw [if_pos rfl, get_publish_self]
  · rw [if_neg h, get_publish_of_ne reg info type h]

/-- A known array type does not have the handle of a type that is not published. -/
theorem ArraysPublished.ne_of_unpublished {element array : TypeHandle} (h : ArraysPublished reg)
    (hnew : reg.get type = none) (hknown : reg.arrays.lookup element = some array) :
    array ≠ type := by
  rintro rfl
  obtain ⟨name, hname⟩ := h element array hknown
  simp [hnew] at hname

/-- Array types stay published when another type is published for the first time. -/
theorem ArraysPublished.publish (h : ArraysPublished reg) (hnew : reg.get info.handle = none) :
    ArraysPublished (reg.publish info) := by
  intro element array hfound
  obtain ⟨name, hname⟩ := h element array hfound
  exact ⟨name, (get_publish_of_ne reg info array (h.ne_of_unpublished hnew hfound)).trans hname⟩

/-- Where a type that is published after a step comes from. -/
inductive Origin (reg : Registry) (type : TypeHandle) (info : TypeInfo) : Prop
  | kept {old : TypeInfo} : reg.get type = some old → old.Agrees info → Origin reg type info
  | array (element : TypeHandle) (name : String) :
      (arrayInfo type element name).Agrees info → Origin reg type info
  | built (b : Blueprint) : reg.get type = none → b.Orderly reg → (b.build type reg).Agrees info →
      Origin reg type info

/-- An origin is that of all descriptors that agree. -/
theorem Origin.agrees {later : TypeInfo} (h : Origin reg type info) (hagrees : info.Agrees later) :
    Origin reg type later := by
  cases h with
  | kept hold h => exact .kept hold (h.trans hagrees)
  | array element name h => exact .array element name (h.trans hagrees)
  | built b hnew horderly h => exact .built b hnew horderly (h.trans hagrees)

/-- What happens between two registries: all members are kept, array types stay published, and each
published type has an origin. -/
structure Grows (reg next : Registry) : Prop where
  keeps : Keeps reg next
  arrays : ArraysPublished next
  origin : ∀ type info, next.get type = some info → Origin reg type info

/-- Two registries with the same types and members. -/
structure Alike (reg next : Registry) : Prop where
  keeps : Keeps reg next
  arrays : ArraysPublished next
  back : ∀ type info, next.get type = some info → ∃ old, reg.get type = some old ∧ old.Agrees info

/-- Registries with the same entries are alike. -/
theorem alike_of_types_eq (harrays : ArraysPublished reg) (htypes : next.types = reg.types)
    (heq : next.arrays = reg.arrays) : Alike reg next := by
  have hget : ∀ type, next.get type = reg.get type := fun type => by rw [get, get, htypes]
  refine ⟨fun type info h => ⟨info, (hget type).trans h, .refl info⟩, ?_, ?_⟩
  · intro element array h
    rw [heq] at h
    rw [hget]
    exact harrays element array h
  · intro type info h
    rw [hget] at h
    exact ⟨info, h, .refl info⟩

/-- Nothing has been published between registries that are alike. -/
theorem Alike.grows (h : Alike reg next) : Grows reg next := by
  refine ⟨h.keeps, h.arrays, fun type info hinfo => ?_⟩
  obtain ⟨old, hold, hagrees⟩ := h.back type info hinfo
  exact .kept hold hagrees

/-- A publication under a new handle keeps all other types. -/
theorem keeps_publish (hnew : reg.get info.handle = none) : Keeps reg (reg.publish info) := by
  intro type old hold
  have hne : type ≠ info.handle := by
    rintro rfl
    simp [hnew] at hold
  exact ⟨old, by rw [get_publish, if_neg hne, hold], .refl old⟩

/-- A request for an array type is answered with a known one, or publishes a new one. -/
theorem grows_arrayOf (harrays : ArraysPublished reg) (element : TypeHandle)
    (hfresh : reg.get reg.fresh.1 = none) : Grows reg (reg.arrayOf element).2 := by
  unfold arrayOf
  cases hknown : reg.arrays.lookup element with
  | some array => exact (alike_of_types_eq harrays rfl rfl).grows
  | none =>
      let array := reg.fresh.1
      let made := arrayInfo array element (reg.nameOf element)
      let between : Registry :=
        { reg.fresh.2 with arrays := (element, array) :: reg.fresh.2.arrays }
      show Grows reg (between.publish made)
      have hget : ∀ type, (between.publish made).get type =
          if type = array then some made else reg.get type := get_publish between made
      have hkeeps : Keeps between (between.publish made) := keeps_publish hfresh
      refine ⟨hkeeps, ?_, ?_⟩
      · intro other found hfound
        have hlookup : ((element, array) :: reg.arrays).lookup other = some found := hfound
        rw [List.lookup_cons] at hlookup
        split at hlookup
        · next hother =>
            obtain rfl : other = element := by simpa using hother
            obtain rfl : array = found := Option.some.inj hlookup
            exact ⟨reg.nameOf other, by rw [hget, if_pos rfl]⟩
        · obtain ⟨name, hname⟩ := harrays other found hlookup
          have hne : found ≠ array := by
            rintro rfl
            exact absurd hname (by simp [array, hfresh])
          exact ⟨name, by rw [hget, if_neg hne, hname]⟩
      · intro type info hinfo
        rw [hget] at hinfo
        split at hinfo
        · next htype =>
            obtain rfl : made = info := Option.some.inj hinfo
            exact .array element (reg.nameOf element) (htype ▸ .refl made)
        · exact .kept hinfo (.refl info)

/-- Naming the array type of a new element changes no members. -/
theorem alike_nameArraysOf (harrays : ArraysPublished reg) (element : TypeHandle) (name : String) :
    Alike reg (reg.nameArraysOf element name) := by
  unfold nameArraysOf
  cases hknown : reg.arrays.lookup element with
  | none => exact alike_of_types_eq harrays rfl rfl
  | some array =>
      obtain ⟨before, hbefore⟩ := harrays element array hknown
      let named := arrayInfo array element name
      have hget : ∀ type, (reg.publish named).get type =
          if type = array then some named else reg.get type := get_publish reg named
      have hagrees : (arrayInfo array element before).Agrees named := ⟨rfl, rfl, rfl, rfl⟩
      refine ⟨fun type info hinfo => ?_, fun other found hfound => ?_, fun type info hinfo => ?_⟩
      · by_cases htype : type = array
        · subst htype
          obtain rfl := Option.some.inj (hbefore.symm.trans hinfo)
          exact ⟨named, by rw [hget, if_pos rfl], hagrees⟩
        · exact ⟨info, by rw [hget, if_neg htype, hinfo], .refl info⟩
      · by_cases htype : found = array
        · subst htype
          obtain ⟨old, hold⟩ := harrays other found hfound
          have hsame := Option.some.inj (hbefore.symm.trans hold)
          have helement : element = other := by
            simpa [arrayInfo] using congrArg TypeInfo.element hsame
          exact ⟨name, by rw [hget, if_pos rfl, ← helement]⟩
        · obtain ⟨old, hold⟩ := harrays other found hfound
          exact ⟨old, by rw [hget, if_neg htype, hold]⟩
      · rw [hget] at hinfo
        split at hinfo
        · next htype =>
            obtain rfl : named = info := Option.some.inj hinfo
            exact ⟨_, htype ▸ hbefore, hagrees⟩
        · exact ⟨info, hinfo, .refl info⟩

/-- A description that is settled publishes the type that was built from it. -/
theorem grows_settle (harrays : ArraysPublished reg) {native : NativeType} {b : Blueprint}
    (helement : b.element = none) (hnew : reg.get type = none) (horderly : b.Orderly reg) :
    Grows reg (reg.settle native type b).2 := by
  let between : Registry :=
    { reg with
      pending := reg.pending.filter (·.1 != native), natives := (native, type) :: reg.natives }
  let made := b.build type reg
  have hsettle : (reg.settle native type b).2 =
      (between.publish made).nameArraysOf type made.name := by
    simp only [settle, helement]
    rfl
  have hget : ∀ other, (between.publish made).get other =
      if other = type then some made else reg.get other := get_publish between made
  have hbetween : ArraysPublished between := harrays
  have hpublished : ArraysPublished (between.publish made) := hbetween.publish hnew
  have hkeeps : Keeps between (between.publish made) := keeps_publish hnew
  have halike := alike_nameArraysOf hpublished type made.name
  rw [hsettle]
  refine ⟨hkeeps.trans halike.keeps, halike.arrays, fun other info hinfo => ?_⟩
  obtain ⟨old, hold, hagrees⟩ := halike.back other info hinfo
  rw [hget] at hold
  split at hold
  · next hother =>
      obtain rfl : made = old := Option.some.inj hold
      subst hother
      exact .built b hnew horderly hagrees
  · exact .kept hold hagrees

/-- What one step can do. -/
theorem Builds.grows (harrays : ArraysPublished reg) (h : Builds reg next) : Grows reg next := by
  cases h with
  | reserve native =>
      have halike : Alike reg (reg.reserve native).2 := alike_of_types_eq harrays rfl rfl
      exact halike.grows
  | arrayOf element hfresh => exact grows_arrayOf harrays element hfresh
  | settle helement hnew horderly => exact grows_settle harrays helement hnew horderly
  | @settleArray native type element b helement hfresh =>
      have hgrows := grows_arrayOf harrays element hfresh
      have htypes : (reg.settle native type b).2.types = (reg.arrayOf element).2.types := by
        unfold Registry.settle
        rw [helement]
      have harrays' : (reg.settle native type b).2.arrays = (reg.arrayOf element).2.arrays := by
        unfold Registry.settle
        rw [helement]
      have halike := alike_of_types_eq hgrows.arrays htypes harrays'
      refine ⟨hgrows.keeps.trans halike.keeps, halike.arrays, fun other info hinfo => ?_⟩
      obtain ⟨old, hold, hagrees⟩ := halike.back other info hinfo
      exact (hgrows.origin other old hold).agrees hagrees

/-- The array types of an assembled registry are published. -/
theorem Assembled.arraysPublished (h : Assembled reg) : ArraysPublished reg := by
  induction h with
  | refl =>
      intro element array hfound
      simp [show initial.arrays = [] from rfl] at hfound
  | tail _ hstep ih => exact (hstep.grows ih).arrays

/-- The steps from an assembled registry on keep all members. -/
theorem Assembled.keeps (h : Assembled reg) (hsteps : Relation.ReflTransGen Builds reg next) :
    Keeps reg next := by
  induction hsteps with
  | refl => exact .refl reg
  | tail hsteps hstep ih =>
      exact ih.trans (hstep.grows (Assembled.arraysPublished (h.trans hsteps))).keeps

/-! ### One type at a time -/

/-- Reserves a handle for a native type and settles what it says about itself. -/
def declare (reg : Registry) (native : NativeType) (b : Blueprint) : TypeHandle × Registry :=
  (reg.reserve native).2.settle native (reg.reserve native).1 b

/-- A type that is declared is built in two steps. -/
theorem builds_declare {native : NativeType} {b : Blueprint} (helement : b.element = none)
    (hnew : reg.get (reg.reserve native).1 = none) (horderly : b.Orderly (reg.reserve native).2) :
    Relation.ReflTransGen Builds reg (declare reg native b).2 :=
  .tail (.single (.reserve native)) (.settle helement hnew horderly)

end Registry

end Introspect
