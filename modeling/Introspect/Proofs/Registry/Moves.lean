import Introspect.Proofs.Registry.Handles
import Introspect.Proofs.Registry.Root

/-!
# `Introspect.Proofs.Registry.Moves`: registration step by step

While types are registered, one of four things happens at a time: a handle is reserved for a native
type that is not known, an array type is asked for, or the description that was begun last ends,
with a type of its own or with an array type. `Moves` is one such step, and `Reached` are the
registries that any number of them lead to. A request is a row of steps that ends with the same
descriptions under way as before (`moved_request`), so a registry at rest, between requests, is
reached and has no description under way (`AtRest.reached`, `AtRest.pending_eq`).

`Ledger` is what every reached registry keeps while handles are left: a reserved handle is that of
no type yet, no native type is described twice, and the array types that are known are those that
are published. `Reached.ledger` proves it, with one lemma for each kind of change to a registry.
-/

set_option autoImplicit false

namespace Introspect.Registry

variable {reg next : Registry} {native : NativeType} {type element array : TypeHandle}
  {info : TypeInfo} {b : Blueprint}

/-! ### The changes that a step is made of -/

/-- A native type is known from now on, and no longer under description. -/
def close (reg : Registry) (native : NativeType) (type : TypeHandle) : Registry :=
  { reg with
    pending := reg.pending.filter (·.1 != native), natives := (native, type) :: reg.natives }

/-- A fresh handle belongs to the array type of an element. -/
def withArray (reg : Registry) (element : TypeHandle) : Registry :=
  { reg with issued := reg.issued + 1, arrays := (element, reg.fresh.1) :: reg.arrays }

/-- A description that does not stand for an array type is published under its handle, and the array
type of that handle gets its name. -/
theorem settle_described (h : b.element = none) :
    reg.settle native type b =
      (type, ((reg.close native type).publish (b.build type reg)).nameArraysOf type b.name) := by
  unfold settle
  rw [h]
  rfl

/-- A description that stands for an array type ends with that type. -/
theorem settle_array (h : b.element = some element) :
    reg.settle native type b =
      ((reg.arrayOf element).1, (reg.arrayOf element).2.close native (reg.arrayOf element).1) := by
  unfold settle
  rw [h]
  rfl

/-- An array type that is known is asked for. -/
theorem arrayOf_of_known (h : reg.arrays.lookup element = some array) :
    reg.arrayOf element = (array, reg) := by
  unfold arrayOf
  rw [h]

/-- An array type that is not known is published under a fresh handle. -/
theorem arrayOf_of_unknown (h : reg.arrays.lookup element = none) :
    reg.arrayOf element = (reg.fresh.1, (reg.withArray element).publish
      (arrayInfo reg.fresh.1 element (reg.nameOf element))) := by
  unfold arrayOf
  rw [h]
  rfl

/-- The array type of an element is published again, with the element's name. -/
theorem nameArraysOf_of_known (h : reg.arrays.lookup element = some array) (name : String) :
    reg.nameArraysOf element name = reg.publish (arrayInfo array element name) := by
  unfold nameArraysOf
  rw [h]

/-- An element without an array type changes nothing. -/
theorem nameArraysOf_of_unknown (h : reg.arrays.lookup element = none) (name : String) :
    reg.nameArraysOf element name = reg := by
  unfold nameArraysOf
  rw [h]

/-- Naming an array type leaves open which descriptions are under way. -/
theorem pending_nameArraysOf (reg : Registry) (element : TypeHandle) (name : String) :
    (reg.nameArraysOf element name).pending = reg.pending := by
  unfold nameArraysOf
  split <;> rfl

/-- So does a request for an array type. -/
theorem pending_arrayOf (reg : Registry) (element : TypeHandle) :
    (reg.arrayOf element).2.pending = reg.pending := by
  unfold arrayOf
  split <;> rfl

/-- A description that ends is no longer under way. -/
theorem pending_settle (reg : Registry) (native : NativeType) (type : TypeHandle) (b : Blueprint) :
    (reg.settle native type b).2.pending = reg.pending.filter (·.1 != native) := by
  cases h : b.element with
  | none =>
      rw [settle_described h]
      exact pending_nameArraysOf _ _ _
  | some element =>
      rw [settle_array h]
      show (reg.arrayOf element).2.pending.filter _ = _
      rw [pending_arrayOf]

/-- A native type that is registered is known. -/
theorem known_of_natives (h : reg.natives.lookup native = some type) :
    reg.known native = some type := Option.or_eq_some_iff.mpr (.inl h)

/-- A native type that is not known is not under description. -/
theorem lookup_pending_of_unknown (h : reg.known native = none) :
    reg.pending.lookup native = none := (Option.or_eq_none_iff.mp h).2

/-- A native type that is not known is not among the known ones. -/
theorem lookup_natives_of_unknown (h : reg.known native = none) :
    reg.natives.lookup native = none := (Option.or_eq_none_iff.mp h).1

/-- What is not found is in no entry. -/
theorem ne_of_lookup_eq_none {α β : Type} [BEq α] [LawfulBEq α] {entries : List (α × β)} {key : α}
    (h : entries.lookup key = none) {entry : α × β} (hentry : entry ∈ entries) : entry.1 ≠ key := by
  rintro rfl
  simpa using List.lookup_eq_none_iff.mp h entry hentry

/-- The description that was begun last ends, and those that were under way before it still are. -/
theorem pending_settle_of_unknown (hunknown : reg.known native = none)
    (hpending : next.pending = (native, type) :: reg.pending) (b : Blueprint) :
    (next.settle native type b).2.pending = reg.pending := by
  have hothers : reg.pending.filter (·.1 != native) = reg.pending := by
    refine List.filter_eq_self.mpr fun entry hentry => ?_
    simpa using ne_of_lookup_eq_none (lookup_pending_of_unknown hunknown) hentry
  rw [pending_settle, hpending, List.filter_cons_of_neg (by simp), hothers]

/-! ### Steps -/

/-- A step of registration. -/
inductive Moves (reg : Registry) : Registry → Prop
  /-- the description of a native type begins -/
  | reserve {native : NativeType} : reg.known native = none → Moves reg (reg.reserve native).2
  /-- an array type is asked for -/
  | arrayOf (element : TypeHandle) : Moves reg (reg.arrayOf element).2
  /-- the description that was begun last ends with a type of its own -/
  | settle {native : NativeType} {type : TypeHandle} {rest : List (NativeType × TypeHandle)}
      {b : Blueprint} : reg.pending = (native, type) :: rest → b.element = none →
      Moves reg (reg.settle native type b).2
  /-- the description that was begun last stands for an array type -/
  | settleArray {native : NativeType} {type element : TypeHandle}
      {rest : List (NativeType × TypeHandle)} {b : Blueprint} :
      reg.pending = (native, type) :: rest → b.element = some element →
      Moves reg (reg.settle native type b).2

/-- Any number of steps, with the same descriptions under way in the end. -/
def Moved (reg next : Registry) : Prop :=
  Relation.ReflTransGen Moves reg next ∧ next.pending = reg.pending

/-- A registry that registration can lead to, also in the middle of a request. -/
def Reached (reg : Registry) : Prop := Relation.ReflTransGen Moves initial reg

/-- The end of a description is a step. -/
theorem moves_settle {rest : List (NativeType × TypeHandle)}
    (hpending : reg.pending = (native, type) :: rest) (b : Blueprint) :
    Moves reg (reg.settle native type b).2 := by
  cases h : b.element with
  | none => exact .settle hpending h
  | some element => exact .settleArray hpending h

/-- Requests are made of steps, and each description that they begin is at its end. -/
theorem traced_moved : Traced Moved where
  refl _ := ⟨.refl, rfl⟩
  trans h h' := ⟨h.1.trans h'.1, h'.2.trans h.2⟩
  arrayOf reg element := ⟨.single (.arrayOf element), pending_arrayOf reg element⟩
  described {reg next native} b hunknown h := by
    -- The description begun here is on top again when it ends, whatever ran in between.
    have hpending : next.pending = (native, (reg.reserve native).1) :: reg.pending := h.2
    exact ⟨.tail (.head (.reserve hunknown) h.1) (moves_settle hpending b),
      pending_settle_of_unknown hunknown hpending b⟩

/-- A request is a row of steps. -/
theorem moved_request (family : Family) (native : NativeType) (reg : Registry) :
    Moved reg (request family native reg).2 :=
  traced_moved.request family native reg

/-- A registry between requests: at the start, after a request for the type of a native type, and
after a request for an array type. -/
inductive AtRest (family : Family) : Registry → Prop
  | initial : AtRest family .initial
  | request {reg : Registry} (native : NativeType) : AtRest family reg →
      AtRest family (request family native reg).2
  | arrayOf {reg : Registry} (element : TypeHandle) : AtRest family reg →
      AtRest family (reg.arrayOf element).2

/-- Any number of requests lead from rest to rest. -/
theorem AtRest.requestAll {family : Family} (h : AtRest family reg) (natives : List NativeType) :
    AtRest family (requestAll family natives reg) := by
  induction natives generalizing reg with
  | nil => exact h
  | cons native rest ih => exact ih (h.request native)

/-- At rest, a registry has been reached from the start. -/
theorem AtRest.moved {family : Family} (h : AtRest family reg) : Moved Registry.initial reg := by
  induction h with
  | initial => exact traced_moved.refl _
  | request native _ ih => exact traced_moved.trans ih (moved_request family native _)
  | arrayOf element _ ih => exact traced_moved.trans ih (traced_moved.arrayOf _ element)

/-- At rest, a registry is one that registration leads to. -/
theorem AtRest.reached {family : Family} (h : AtRest family reg) : Reached reg := h.moved.1

/-- At rest, nothing is under description. -/
theorem AtRest.pending_eq {family : Family} (h : AtRest family reg) : reg.pending = [] := h.moved.2

/-! ### The ledger -/

/-- What every registry keeps while types are registered and handles are left. -/
structure Ledger (reg : Registry) : Prop where
  /-- the handle of a published type has been given out -/
  published : ∀ type info, reg.get type = some info → reg.Given type
  /-- so has a reserved handle, which is that of no type yet -/
  reserved : ∀ entry ∈ reg.pending, reg.Given entry.2 ∧ reg.get entry.2 = none
  /-- no handle is reserved twice -/
  distinct : (reg.pending.map Prod.snd).Nodup
  /-- no native type is described twice -/
  once : (reg.pending.map Prod.fst).Nodup
  /-- a native type that is under description is not known otherwise -/
  unknown : ∀ entry ∈ reg.pending, reg.natives.lookup entry.1 = none
  /-- the array types that are known are published -/
  arrays : reg.ArraysPublished
  /-- a published array type is known as that of its element -/
  elements : ∀ array info element, reg.get array = some info → info.element = some element →
    reg.arrays.lookup element = some array

/-- While handles are left, a fresh one is that of no type. -/
theorem Ledger.get_fresh (h : reg.Ledger) (hleft : reg.issued < UInt64.size) :
    reg.get reg.fresh.1 = none := by
  cases hinfo : reg.get reg.fresh.1 with
  | none => rfl
  | some info => exact absurd (h.published _ info hinfo) (not_given_fresh hleft)

/-- The built-in types have the first handles. -/
theorem ledger_initial : initial.Ledger where
  published type info hinfo := by
    have hbuiltins : initial.Every fun type _ => initial.Given type := by
      refine every_initial fun info hinfo => ?_
      have hhandles : ∀ info ∈ builtins, info.handle ∈
          (List.range 7).map fun index => TypeHandle.ofIndex (index + 1) := by decide
      obtain ⟨index, hindex, heq⟩ := List.mem_map.mp (hhandles info hinfo)
      have hlt := List.mem_range.mp hindex
      exact ⟨index + 1, Nat.succ_pos _, hlt, heq.symm⟩
    exact hbuiltins.get hinfo
  reserved _ hentry := nomatch hentry
  distinct := .nil
  once := .nil
  unknown _ hentry := nomatch hentry
  arrays _ _ hfound := nomatch hfound
  elements array info element hinfo helement := by
    have hbuiltins : initial.Every fun _ info => info.element = none :=
      every_initial fun info hinfo => by
        have hnone : ∀ info ∈ builtins, info.element = none := by decide
        exact hnone info hinfo
    simp [hbuiltins.get hinfo] at helement

/-- A handle is reserved for a native type that is not known. -/
theorem Ledger.reserve (h : reg.Ledger) (hunknown : reg.known native = none)
    (hleft : reg.issued < UInt64.size) : (reg.reserve native).2.Ledger := by
  have hmono : ∀ {type}, reg.Given type → (reg.reserve native).2.Given type :=
    fun hgiven => hgiven.mono (Nat.le_succ _)
  have hfresh : ∀ {type}, reg.Given type → type ≠ reg.fresh.1 := by
    rintro type hgiven rfl
    exact not_given_fresh hleft hgiven
  refine ⟨fun type info hinfo => hmono (h.published type info hinfo), ?reserved, ?distinct, ?once,
    ?unknown, h.arrays, h.elements⟩
  case reserved =>
    intro entry hentry
    rcases List.mem_cons.mp hentry with rfl | hold
    · exact ⟨given_fresh (Nat.le_refl _), h.get_fresh hleft⟩
    · exact ⟨hmono (h.reserved entry hold).1, (h.reserved entry hold).2⟩
  case distinct =>
    refine List.nodup_cons.mpr ⟨fun hmem => ?_, h.distinct⟩
    obtain ⟨entry, hentry, heq⟩ := List.mem_map.mp hmem
    exact hfresh (h.reserved entry hentry).1 heq
  case once =>
    refine List.nodup_cons.mpr ⟨fun hmem => ?_, h.once⟩
    obtain ⟨entry, hentry, heq⟩ := List.mem_map.mp hmem
    exact ne_of_lookup_eq_none (lookup_pending_of_unknown hunknown) hentry heq
  case unknown =>
    intro entry hentry
    rcases List.mem_cons.mp hentry with rfl | hold
    · have hnatives : reg.natives.lookup native = none := lookup_natives_of_unknown hunknown
      exact hnatives
    · exact h.unknown entry hold

/-- A description ends. -/
theorem Ledger.close (h : reg.Ledger) (native : NativeType) (type : TypeHandle) :
    (reg.close native type).Ledger := by
  have hsublist : (reg.close native type).pending.Sublist reg.pending := List.filter_sublist
  refine ⟨h.published, fun entry hentry => h.reserved entry (hsublist.subset hentry),
    h.distinct.sublist (hsublist.map _), h.once.sublist (hsublist.map _), fun entry hentry => ?_,
    h.arrays, h.elements⟩
  obtain ⟨hold, hne⟩ := List.mem_filter.mp hentry
  have hbeq : (entry.1 == native) = false := by simpa using hne
  show ((native, type) :: reg.natives).lookup entry.1 = none
  rw [List.lookup_cons, hbeq]
  exact h.unknown entry hold

/-- A type that is no array type is published under a handle that is not reserved any more. -/
theorem Ledger.publish (h : reg.Ledger) (hgiven : reg.Given info.handle)
    (hnew : reg.get info.handle = none) (hfree : ∀ entry ∈ reg.pending, entry.2 ≠ info.handle)
    (helement : info.element = none) : (reg.publish info).Ledger := by
  have hget := get_publish reg info
  refine ⟨fun type other hother => ?published, fun entry hentry => ?reserved, h.distinct, h.once,
    h.unknown, h.arrays.publish hnew, fun array other element hother hsome => ?elements⟩
  case published =>
    rw [hget] at hother
    split at hother
    · next htype => exact htype ▸ hgiven
    · exact h.published type other hother
  case reserved =>
    refine ⟨(h.reserved entry hentry).1, ?_⟩
    rw [hget, if_neg (hfree entry hentry), (h.reserved entry hentry).2]
  case elements =>
    rw [hget] at hother
    split at hother
    · obtain rfl := Option.some.inj hother
      simp [helement] at hsome
    · exact h.elements array other element hother hsome

/-- The array type of an element gets its name. -/
theorem Ledger.nameArraysOf (h : reg.Ledger) (element : TypeHandle) (name : String) :
    (reg.nameArraysOf element name).Ledger := by
  have harrays := (alike_nameArraysOf h.arrays element name).arrays
  cases hknown : reg.arrays.lookup element with
  | none => rwa [nameArraysOf_of_unknown hknown]
  | some array =>
      obtain ⟨before, hbefore⟩ := h.arrays element array hknown
      rw [nameArraysOf_of_known hknown] at harrays ⊢
      have hget : ∀ type, (reg.publish (arrayInfo array element name)).get type =
          if type = array then some (arrayInfo array element name) else reg.get type :=
        get_publish reg _
      refine ⟨fun type info hinfo => ?published, fun entry hentry => ?reserved, h.distinct, h.once,
        h.unknown, harrays, fun found info other hinfo hsome => ?elements⟩
      case published =>
        rw [hget] at hinfo
        split at hinfo
        · next htype => exact htype ▸ h.published array _ hbefore
        · exact h.published type info hinfo
      case reserved =>
        obtain ⟨hgiven, hvacant⟩ := h.reserved entry hentry
        have hne : array ≠ entry.2 := h.arrays.ne_of_unpublished hvacant hknown
        exact ⟨hgiven, by rw [hget, if_neg hne.symm, hvacant]⟩
      case elements =>
        rw [hget] at hinfo
        split at hinfo
        · next htype =>
            obtain rfl := Option.some.inj hinfo
            obtain rfl : element = other := Option.some.inj hsome
            exact htype ▸ hknown
        · exact h.elements found info other hinfo hsome

/-- An array type is asked for. -/
theorem Ledger.arrayOf (h : reg.Ledger) (element : TypeHandle)
    (hleft : (reg.arrayOf element).2.issued ≤ UInt64.size) : (reg.arrayOf element).2.Ledger := by
  cases hknown : reg.arrays.lookup element with
  | some array => rwa [arrayOf_of_known hknown]
  | none =>
      have hissued : reg.issued < UInt64.size := by
        rw [arrayOf_of_unknown hknown] at hleft
        exact hleft
      have hnew : reg.get reg.fresh.1 = none := h.get_fresh hissued
      have harrays := (grows_arrayOf h.arrays element hnew).arrays
      rw [arrayOf_of_unknown hknown] at harrays ⊢
      let made := arrayInfo reg.fresh.1 element (reg.nameOf element)
      have hget : ∀ type, ((reg.withArray element).publish made).get type =
          if type = reg.fresh.1 then some made else reg.get type := get_publish _ made
      have hmono : ∀ {type}, reg.Given type → ((reg.withArray element).publish made).Given type :=
        fun hgiven => hgiven.mono (Nat.le_succ _)
      refine ⟨fun type info hinfo => ?published, fun entry hentry => ?reserved, h.distinct, h.once,
        h.unknown, harrays, fun found info other hinfo hsome => ?elements⟩
      case published =>
        rw [hget] at hinfo
        split at hinfo
        · next htype =>
            rw [htype]
            exact given_fresh (Nat.le_refl _)
        · exact hmono (h.published type info hinfo)
      case reserved =>
        obtain ⟨hgiven, hvacant⟩ := h.reserved entry hentry
        have hne : entry.2 ≠ reg.fresh.1 := fun heq => not_given_fresh hissued (heq ▸ hgiven)
        exact ⟨hmono hgiven, by rw [hget, if_neg hne, hvacant]⟩
      case elements =>
        show ((element, reg.fresh.1) :: reg.arrays).lookup other = some found
        rw [hget] at hinfo
        split at hinfo
        · next htype =>
            obtain rfl := Option.some.inj hinfo
            obtain rfl : element = other := Option.some.inj hsome
            rw [List.lookup_cons_self, htype]
        · have hold := h.elements found info other hinfo hsome
          have hne : (other == element) = false := by
            rw [beq_eq_false_iff_ne]
            rintro rfl
            simp [hknown] at hold
          rwa [List.lookup_cons, hne]

/-- A step keeps the ledger while handles are left. -/
theorem Moves.ledger (h : Moves reg next) (hreg : reg.Ledger)
    (hleft : next.issued ≤ UInt64.size) : next.Ledger := by
  cases h with
  | reserve hunknown => exact hreg.reserve hunknown hleft
  | arrayOf element => exact hreg.arrayOf element hleft
  | @settleArray native type element rest b hpending helement =>
      rw [settle_array helement] at hleft ⊢
      exact (hreg.arrayOf element hleft).close native _
  | @settle native type rest b hpending helement =>
      have hentry : (native, type) ∈ reg.pending := by simp [hpending]
      obtain ⟨hgiven, hvacant⟩ := hreg.reserved _ hentry
      rw [settle_described helement]
      have hclosed := hreg.close native type
      suffices hfree : ∀ entry ∈ (reg.close native type).pending, entry.2 ≠ type by
        have hpublished : ((reg.close native type).publish (b.build type reg)).Ledger :=
          hclosed.publish hgiven hvacant hfree helement
        exact hpublished.nameArraysOf _ _
      intro entry hother
      -- Another description under way has another handle.
      have hdistinct := hreg.distinct
      rw [hpending, List.map_cons, List.nodup_cons] at hdistinct
      rw [close, hpending, List.filter_cons_of_neg (by simp)] at hother
      intro heq
      exact hdistinct.1 (List.mem_map.mpr ⟨entry, (List.mem_filter.mp hother).1, heq⟩)

/-- A step takes no handle back. -/
theorem Moves.issued_le (h : Moves reg next) : reg.issued ≤ next.issued := by
  cases h with
  | reserve => exact Nat.le_succ _
  | arrayOf element => exact issued_le_arrayOf reg element
  | settle => exact issued_le_settle reg _ _ _
  | settleArray => exact issued_le_settle reg _ _ _

/-- Nor do any number of steps. -/
theorem Moved.issued_le (h : Moved reg next) : reg.issued ≤ next.issued := by
  obtain ⟨hsteps, -⟩ := h
  induction hsteps with
  | refl => exact Nat.le_refl _
  | tail _ hmove ih => exact Nat.le_trans ih hmove.issued_le

/-- What holds at the start, and is kept by each step while handles are left, holds of every
registry that registration leads to. -/
theorem Reached.induction {P : Registry → Prop} (h : Reached reg) (hleft : reg.issued ≤ UInt64.size)
    (hinitial : P initial)
    (hstep : ∀ {reg next : Registry}, Reached reg → reg.Ledger → P reg → Moves reg next →
      next.issued ≤ UInt64.size → P next) : reg.Ledger ∧ P reg := by
  induction h with
  | refl => exact ⟨ledger_initial, hinitial⟩
  | tail hreached hmove ih =>
      obtain ⟨hledger, hp⟩ := ih (Nat.le_trans hmove.issued_le hleft)
      exact ⟨hmove.ledger hledger hleft, hstep hreached hledger hp hmove hleft⟩

/-- The ledger is kept in every registry that registration leads to, while handles are left. -/
theorem Reached.ledger (h : Reached reg) (hleft : reg.issued ≤ UInt64.size) : reg.Ledger :=
  (h.induction (P := fun _ => True) hleft trivial fun _ _ _ _ _ => trivial).1

/-! ### Properties of what is published -/

/-- Registries with the same entries have the same descriptors. -/
theorem get_of_types_eq (h : next.types = reg.types) (type : TypeHandle) :
    next.get type = reg.get type := by
  rw [get, get, h]

/-- Registries with the same entries keep each other's types. -/
theorem keeps_of_types_eq (h : next.types = reg.types) : Keeps reg next := fun type info hinfo =>
  ⟨info, (get_of_types_eq h type).trans hinfo, .refl info⟩

/-- Methods get the same slots from the same descriptors. -/
theorem assignSlots_of_types_eq (h : next.types = reg.types) (type : TypeHandle) (index : Nat)
    (methods : List MethodInfo) (table : List MethodRef) :
    Blueprint.assignSlots next type index methods table =
      Blueprint.assignSlots reg type index methods table := by
  have hsignature : ∀ name params,
      Blueprint.hasSignature next name params = Blueprint.hasSignature reg name params := by
    intro name params
    funext slot
    simp only [Blueprint.hasSignature, get_of_types_eq h]
  induction methods generalizing index table with
  | nil => rfl
  | cons method rest ih => simp only [Blueprint.assignSlots, hsignature, ih]

/-- A description is built alike from the same descriptors. -/
theorem build_of_types_eq (h : next.types = reg.types) (b : Blueprint) (type : TypeHandle) :
    b.build type next = b.build type reg := by
  have hget : next.get = reg.get := funext (get_of_types_eq h)
  simp only [Blueprint.build, Blueprint.baseTable, hget, assignSlots_of_types_eq h]

/-- The property is about the published types. It is kept when an array type is published, for the
first time or with another name, and when the type of a description is published. -/
structure Carried (P : Registry → Prop) : Prop where
  of_types_eq : ∀ {reg next : Registry}, P reg → next.types = reg.types → P next
  publishArray : ∀ {reg : Registry} {array element : TypeHandle} (name : String),
    (∀ info, reg.get array = some info → ∃ old, info = arrayInfo array element old) → P reg →
      P (reg.publish (arrayInfo array element name))
  publishBuilt : ∀ {reg : Registry} {type : TypeHandle} {b : Blueprint}, reg.get type = none →
    b.element = none → P reg → P (reg.publish (b.build type reg))

namespace Carried

variable {P : Registry → Prop}

/-- A request for an array type keeps the property while handles are left. -/
theorem arrayOf (h : Carried P) (hledger : reg.Ledger) (hreg : P reg) (element : TypeHandle)
    (hleft : (reg.arrayOf element).2.issued ≤ UInt64.size) : P (reg.arrayOf element).2 := by
  cases hknown : reg.arrays.lookup element with
  | some array => rwa [arrayOf_of_known hknown]
  | none =>
      rw [arrayOf_of_unknown hknown] at hleft ⊢
      have hwith : P (reg.withArray element) := h.of_types_eq hreg rfl
      refine h.publishArray _ (fun info hinfo => ?_) hwith
      have hnew : (reg.withArray element).get reg.fresh.1 = none := hledger.get_fresh hleft
      simp [hnew] at hinfo

/-- A step keeps the property while handles are left. -/
theorem moves (h : Carried P) (hledger : reg.Ledger) (hreg : P reg) (hmove : Moves reg next)
    (hleft : next.issued ≤ UInt64.size) : P next := by
  cases hmove with
  | reserve => exact h.of_types_eq hreg rfl
  | arrayOf element => exact h.arrayOf hledger hreg element hleft
  | @settleArray native type element rest b hpending helement =>
      rw [settle_array helement] at hleft ⊢
      exact h.of_types_eq (h.arrayOf hledger hreg element hleft) rfl
  | @settle native type rest b hpending helement =>
      have hentry : (native, type) ∈ reg.pending := by simp [hpending]
      have hvacant := (hledger.reserved _ hentry).2
      -- Closing comes first here: it changes no descriptor.
      have hclosed : P (reg.close native type) := h.of_types_eq hreg rfl
      have hbuilt : P ((reg.close native type).publish (b.build type reg)) := by
        have htypes : (reg.close native type).types = reg.types := rfl
        rw [← build_of_types_eq htypes]
        exact h.publishBuilt hvacant helement hclosed
      rw [settle_described helement]
      dsimp only
      cases hknown : reg.arrays.lookup type with
      | none => rwa [nameArraysOf_of_unknown (by exact hknown)]
      | some array =>
          rw [nameArraysOf_of_known (by exact hknown)]
          refine h.publishArray _ (fun info hinfo => ?_) hbuilt
          obtain ⟨old, hold⟩ := hledger.arrays type array hknown
          rw [get_publish_of_ne _ _ _ (hledger.arrays.ne_of_unpublished hvacant hknown)] at hinfo
          exact ⟨old, Option.some.inj (hinfo.symm.trans hold)⟩

/-- The property holds of every registry that registration leads to, while handles are left. -/
theorem reached (h : Carried P) (hinitial : P initial) (hreached : Reached reg)
    (hleft : reg.issued ≤ UInt64.size) : P reg :=
  (hreached.induction hleft hinitial fun _ hledger hreg hmove hleft =>
    h.moves hledger hreg hmove hleft).2

end Carried

/-- All published types keep their members when an array type is published. -/
theorem keeps_publishArray (name : String)
    (hsame : ∀ info, reg.get array = some info → ∃ old, info = arrayInfo array element old) :
    Keeps reg (reg.publish (arrayInfo array element name)) := by
  intro type info hinfo
  by_cases htype : type = array
  · subst htype
    obtain ⟨old, rfl⟩ := hsame info hinfo
    exact ⟨_, get_publish_self reg _, rfl, rfl, rfl, rfl⟩
  · exact ⟨info, by rw [get_publish_of_ne reg _ type htype, hinfo], .refl info⟩

/-! ### The order of publication -/

/-- In a row of publications, the newest first, the latest one of `type` came after the latest one
of `base`. -/
def isNewer (base type : TypeHandle) : List (TypeHandle × TypeInfo) → Bool
  | [] => false
  | (handle, _) :: older =>
    if handle = base then false
    else if handle = type then (older.lookup base).isSome
    else isNewer base type older

/-- The descriptor of `type` was published when that of `base` was there already. -/
def PublishedBefore (reg : Registry) (base type : TypeHandle) : Prop :=
  isNewer base type reg.types = true

instance (reg : Registry) (base type : TypeHandle) : Decidable (reg.PublishedBefore base type) :=
  inferInstanceAs (Decidable (_ = true))

/-- A type that was published before another one is published. -/
theorem PublishedBefore.isSome {base : TypeHandle} (h : reg.PublishedBefore base type) :
    (reg.get base).isSome = true := by
  have hfound : ∀ types : List (TypeHandle × TypeInfo), isNewer base type types = true →
      (types.lookup base).isSome = true := by
    intro types
    induction types with
    | nil => exact fun h => nomatch h
    | cons entry older ih =>
        obtain ⟨handle, info⟩ := entry
        intro h
        rw [isNewer] at h
        by_cases hbase : handle = base
        · rw [if_pos hbase] at h
          cases h
        · have hne : (base == handle) = false := by simpa using Ne.symm hbase
          rw [if_neg hbase] at h
          rw [List.lookup_cons, hne]
          split at h
          · exact h
          · exact ih h
  exact hfound reg.types h

/-- A publication leaves the order of other types alone. -/
theorem publishedBefore_publish_of_ne {base : TypeHandle} (hbase : info.handle ≠ base)
    (htype : info.handle ≠ type) :
    (reg.publish info).PublishedBefore base type ↔ reg.PublishedBefore base type := by
  show isNewer base type ((info.handle, info) :: reg.types) = true ↔ _
  rw [isNewer, if_neg hbase, if_neg htype]
  rfl

/-- A type that is published comes after all the others. -/
theorem publishedBefore_publish_self {base : TypeHandle} (hbase : info.handle ≠ base) :
    (reg.publish info).PublishedBefore base info.handle ↔ (reg.get base).isSome = true := by
  show isNewer base info.handle ((info.handle, info) :: reg.types) = true ↔ _
  rw [isNewer, if_neg hbase, if_pos rfl]
  rfl

/-- A type that is published comes before none. -/
theorem not_publishedBefore_publish (type : TypeHandle) :
    ¬ (reg.publish info).PublishedBefore info.handle type := by
  show ¬ isNewer info.handle type ((info.handle, info) :: reg.types) = true
  rw [isNewer, if_pos rfl]
  exact Bool.false_ne_true

end Introspect.Registry
