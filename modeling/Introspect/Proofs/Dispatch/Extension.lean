import Introspect.Proofs.Dispatch.Tables
import Introspect.Proofs.Registry.Moves
import Introspect.Sample.Family

/-!
# `Introspect.Proofs.Dispatch.Extension`: dispatch tables extend those of the bases

A type starts from the dispatch table that its base has when the type is built, and every slot of
that table keeps its signature (`Blueprint.Extends`). Nothing is assumed about the methods here: one
type may have two of the same signature.

Descriptions run inside one another, so a type may be built before its base is published. Then it
starts from nothing, and its table has its own methods only. `extended_atRest` is the main result:
between requests, for every family of descriptions and every order of requests, the table of a type
extends that of its base if the base was published first, and has no method of the base otherwise.
`early_child_misses_slots` is an instance of the second kind.
-/

set_option autoImplicit false

namespace Introspect

namespace Blueprint

variable {reg : Registry} {type : TypeHandle} {method : MethodInfo} {methods rest : List MethodInfo}
  {table : List MethodRef} {index slot : Nat} {entry : MethodRef}
  {out : List MethodInfo × List MethodRef}

/-! ### Slots that keep their signatures -/

/-- What comes out when the methods from a position on are given their slots: each method is kept,
but for its slot; each slot of the table has its old entry or a method that matches it; and there
are no other entries than old ones and methods of the type. -/
structure Extends (reg : Registry) (type : TypeHandle) (index : Nat) (methods : List MethodInfo)
    (table : List MethodRef) (out : List MethodInfo × List MethodRef) : Prop where
  kept : ∀ {i : Nat} {method : MethodInfo}, methods[i]? = some method →
    ∃ slot, out.1[i]? = some { method with slot }
  slots : ∀ {s : Nat} {old : MethodRef}, table[s]? = some old → out.2[s]? = some old ∨
    ∃ (i : Nat) (method : MethodInfo), methods[i]? = some method ∧
      out.2[s]? = some ⟨type, index + i⟩ ∧ Matches reg method old
  entries : ∀ entry ∈ out.2, entry ∈ table ∨
    ∃ (i : Nat) (method : MethodInfo), methods[i]? = some method ∧ entry = ⟨type, index + i⟩

/-- Without methods the table stays as it is. -/
theorem extends_nil (reg : Registry) (type : TypeHandle) (index : Nat) (table : List MethodRef) :
    Extends reg type index [] table ([], table) where
  kept h := by simp at h
  slots h := .inl h
  entries _ h := .inl h

/-- A method that is not virtual takes no slot. -/
theorem Extends.skip (h : Extends reg type (index + 1) rest table out) :
    Extends reg type index (method :: rest) table (method :: out.1, out.2) where
  kept {i found} hfound := by
    cases i with
    | zero => exact ⟨found.slot, by simpa using hfound⟩
    | succ i => exact h.kept hfound
  slots hold := by
    refine (h.slots hold).imp_right fun ⟨i, found, hfound, hentry, hmatches⟩ => ?_
    exact ⟨i + 1, found, hfound, hentry.trans (congrArg some (ref_succ type index i)), hmatches⟩
  entries entry hentry := by
    refine (h.entries entry hentry).imp_right fun ⟨i, found, hfound, heq⟩ => ?_
    exact ⟨i + 1, found, hfound, heq.trans (ref_succ type index i)⟩

/-- A virtual method takes a slot whose method it matches, or a new one. -/
theorem Extends.place (hnew : reg.get type = none)
    (h : Extends reg type (index + 1) rest
      (fill table (slotIn reg method table) ⟨type, index⟩) out) :
    Extends reg type index (method :: rest) table
      ({ method with slot := some (slotIn reg method table) } :: out.1, out.2) := by
  have hslot := slotIn_le reg method table
  have hfill := getElem?_fill hslot ⟨type, index⟩
  refine ⟨?kept, ?slots, ?entries⟩
  case kept =>
    intro i found hfound
    cases i with
    | zero =>
        obtain rfl : method = found := by simpa using hfound
        exact ⟨_, rfl⟩
    | succ i => exact h.kept hfound
  case slots =>
    intro s old hold
    by_cases hs : s = slotIn reg method table
    · -- No later method matches this one, whose type is not published.
      refine .inr ⟨0, method, rfl, ?_, matches_of_slotIn (hs ▸ hold)⟩
      rcases h.slots (s := s) (by rw [hfill, if_pos hs]) with hkept | ⟨i, found, -, -, hmatches⟩
      · exact hkept
      · exact absurd rfl (hmatches.declaring_ne hnew)
    · refine (h.slots (by rw [hfill, if_neg hs, hold])).imp_right ?_
      rintro ⟨i, found, hfound, hentry, hmatches⟩
      exact ⟨i + 1, found, hfound, hentry.trans (congrArg some (ref_succ type index i)), hmatches⟩
  case entries =>
    intro entry hentry
    rcases h.entries entry hentry with hold | ⟨i, found, hfound, heq⟩
    · obtain ⟨s, hs⟩ := List.getElem?_of_mem hold
      rw [hfill] at hs
      split at hs
      · exact .inr ⟨0, method, rfl, (Option.some.inj hs).symm⟩
      · exact .inl (List.mem_of_getElem? hs)
    · exact .inr ⟨i + 1, found, hfound, heq.trans (ref_succ type index i)⟩

/-- What comes out when a type that is not published gives its methods their slots. -/
theorem extends_assignSlots (hnew : reg.get type = none) (methods : List MethodInfo) (index : Nat)
    (table : List MethodRef) :
    Extends reg type index methods table (assignSlots reg type index methods table) := by
  induction methods generalizing index table with
  | nil => exact extends_nil reg type index table
  | cons method rest ih =>
      cases hvirtual : method.dispatches with
      | true =>
          have hplaced := Extends.place hnew
            (ih (index + 1) (fill table (slotIn reg method table) ⟨type, index⟩))
          rw [assignSlots_of_virtual hvirtual]
          exact hplaced
      | false =>
          rw [assignSlots_of_direct hvirtual]
          exact (ih (index + 1) table).skip

end Blueprint

namespace Registry

variable {reg next : Registry} {type base : TypeHandle} {info baseInfo : TypeInfo}
  {table : List MethodRef} {b : Blueprint} {family : Family}

/-! ### The tables of all types -/

/-- A table that inherits the slots of a base is at least as long. -/
theorem Inherits.length_le (h : reg.Inherits table base) (hbase : reg.get base = some baseInfo) :
    baseInfo.dispatchTable.length ≤ table.length := by
  obtain ⟨found, hfound, hslots⟩ := h
  obtain rfl := Option.some.inj (hfound.symm.trans hbase)
  by_contra hshort
  have hlt : table.length < found.dispatchTable.length := Nat.lt_of_not_le hshort
  obtain ⟨new, -, -, hnew, -⟩ := hslots (List.getElem?_eq_getElem hlt)
  exact absurd (List.getElem?_eq_some_iff.mp hnew).1 (Nat.lt_irrefl _)

/-- The dispatch table of a type against that of its base: its entries are methods of published
types; if the base was published first, its slots keep their signatures; and if they do not, all
entries are methods of the type itself. -/
structure Extended (reg : Registry) (type : TypeHandle) (info : TypeInfo) : Prop where
  entries : ∀ entry ∈ info.dispatchTable, (reg.methodAt entry).isSome = true
  newer : ∀ base, info.base = some base → info.element = none → reg.PublishedBefore base type →
    reg.Inherits info.dispatchTable base
  apart : ∀ base, info.base = some base → info.element = none →
    reg.Inherits info.dispatchTable base ∨ ∀ entry ∈ info.dispatchTable, entry.declaring = type

/-- The table of a type stays as it is when another type is published. -/
theorem Extended.publish {other : TypeInfo} (h : reg.Extended type info)
    (hkeeps : Keeps reg (reg.publish other)) (hne : other.handle ≠ type) :
    (reg.publish other).Extended type info := by
  refine ⟨fun entry hentry => ?entries, fun base hbase helement hbefore => ?newer,
    fun base hbase helement => ?apart⟩
  case entries =>
    obtain ⟨method, hmethod⟩ := Option.isSome_iff_exists.mp (h.entries entry hentry)
    rw [hkeeps.methodAt hmethod]
    rfl
  case newer =>
    by_cases hother : other.handle = base
    · subst hother
      exact absurd hbefore (not_publishedBefore_publish type)
    · have hbefore' := (publishedBefore_publish_of_ne hother hne).mp hbefore
      exact (h.newer base hbase helement hbefore').mono hkeeps
  case apart => exact (h.apart base hbase helement).imp_left fun hinherits => hinherits.mono hkeeps

/-- The methods of a description that is built get their slots in the table of its base. -/
theorem extends_build (hnew : reg.get type = none) (b : Blueprint) :
    Blueprint.Extends reg type 0 (describedMethods b) (Blueprint.baseTable reg (builtBase b))
      ((b.build type reg).methods, (b.build type reg).dispatchTable) :=
  Blueprint.extends_assignSlots hnew (describedMethods b) 0 _

/-- The table of a type that was built last, against that of its base. -/
theorem extended_publish_build (hnew : reg.get type = none) (b : Blueprint)
    (hreg : ∀ other info, reg.get other = some info → reg.Extended other info) :
    (reg.publish (b.build type reg)).Extended type (b.build type reg) := by
  let built := b.build type reg
  have hextends := extends_build hnew b
  have hkeeps : Keeps reg (reg.publish built) := keeps_publish hnew
  have hown : ∀ i, (reg.publish built).methodAt ⟨type, i⟩ = built.methods[i]? := by
    intro i
    have hget : (reg.publish built).get type = some built := get_publish_self reg built
    simp [methodAt, hget]
  have hmade : ∀ {i : Nat} {method : MethodInfo}, (describedMethods b)[i]? = some method →
      ∃ slot, (reg.publish built).methodAt ⟨type, 0 + i⟩ = some { method with slot } := by
    intro i method hmethod
    obtain ⟨slot, hslot⟩ := hextends.kept hmethod
    exact ⟨slot, by rw [Nat.zero_add, hown, ← hslot]⟩
  have hentries : ∀ {s : Nat} {old : MethodRef},
      (Blueprint.baseTable reg (builtBase b))[s]? = some old →
        ∃ method, reg.methodAt old = some method := by
    intro s old hold
    obtain ⟨base, baseInfo, -, hbaseInfo, hslot⟩ := baseTable_eq_some hold
    exact Option.isSome_iff_exists.mp
      ((hreg base baseInfo hbaseInfo).entries old (List.mem_of_getElem? hslot))
  -- The table inherits from a base that is published.
  have hinherits : ∀ base, built.base = some base → (reg.get base).isSome = true →
      (reg.publish built).Inherits built.dispatchTable base := by
    intro base hbase hpublished
    obtain ⟨baseInfo, hbaseInfo⟩ := Option.isSome_iff_exists.mp hpublished
    obtain ⟨later, hlater, hagrees⟩ := hkeeps _ _ hbaseInfo
    refine ⟨later, hlater, fun {s entry} hentry => ?_⟩
    rw [hagrees.table] at hentry
    have hbuiltBase : builtBase b = some base := hbase
    have hold : (Blueprint.baseTable reg (builtBase b))[s]? = some entry := by
      simpa [Blueprint.baseTable, hbuiltBase, hbaseInfo] using hentry
    obtain ⟨method, hmethod⟩ := hentries hold
    rcases hextends.slots hold with hkept | ⟨i, found, hfound, hplaced, old, hoMethod, hsame⟩
    · have hthere := hkeeps.methodAt hmethod
      exact ⟨entry, method, method, hkept, hthere, hthere, rfl, rfl⟩
    · obtain ⟨slot, hslot⟩ := hmade hfound
      exact ⟨_, old, _, hplaced, hkeeps.methodAt hoMethod, hslot, hsame.symm⟩
  refine ⟨fun entry hentry => ?entries, fun base hbase _ hbefore => ?newer,
    fun base hbase _ => ?apart⟩
  case entries =>
    rcases hextends.entries entry hentry with hold | ⟨i, found, hfound, rfl⟩
    · obtain ⟨s, hs⟩ := List.getElem?_of_mem hold
      obtain ⟨method, hmethod⟩ := hentries hs
      rw [hkeeps.methodAt hmethod]
      rfl
    · obtain ⟨slot, hslot⟩ := hmade hfound
      rw [hslot]
      rfl
  case newer =>
    refine hinherits base hbase ?_
    by_cases hself : built.handle = base
    · exact absurd (hself ▸ hbefore) (not_publishedBefore_publish type)
    · exact (publishedBefore_publish_self hself).mp hbefore
  case apart =>
    cases hpublished : reg.get base with
    | some baseInfo => exact .inl (hinherits base hbase (by simp [hpublished]))
    | none =>
        right
        intro entry hentry
        rcases hextends.entries entry hentry with hold | ⟨i, found, -, rfl⟩
        · have hbuiltBase : builtBase b = some base := hbase
          simp [Blueprint.baseTable, hbuiltBase, hpublished] at hold
        · rfl

/-- Registries with the same entries have the same tables. -/
theorem Extended.of_types_eq (h : reg.Extended type info) (htypes : next.types = reg.types) :
    next.Extended type info := by
  have hkeeps := keeps_of_types_eq htypes
  refine ⟨fun entry hentry => ?_, fun base hbase helement hbefore => ?_,
    fun base hbase helement => (h.apart base hbase helement).imp_left (·.mono hkeeps)⟩
  · obtain ⟨method, hmethod⟩ := Option.isSome_iff_exists.mp (h.entries entry hentry)
    rw [hkeeps.methodAt hmethod]
    rfl
  · unfold PublishedBefore at hbefore
    rw [htypes] at hbefore
    exact (h.newer base hbase helement hbefore).mono hkeeps

/-- All tables are extended from step to step. -/
theorem carried_extended :
    Carried fun reg => ∀ type info, reg.get type = some info → reg.Extended type info where
  of_types_eq h htypes type info hinfo :=
    (h type info ((get_of_types_eq htypes type).symm.trans hinfo)).of_types_eq htypes
  publishArray {reg array element} name hsame h := by
    intro type info hinfo
    by_cases htype : type = array
    · subst htype
      obtain rfl : arrayInfo type element name = info :=
        Option.some.inj ((get_publish_self reg (arrayInfo type element name)).symm.trans hinfo)
      exact ⟨fun _ hentry => absurd hentry List.not_mem_nil,
        fun _ _ hnone => (nomatch hnone), fun _ _ hnone => nomatch hnone⟩
    · rw [get_publish_of_ne _ _ _ htype] at hinfo
      exact (h type info hinfo).publish (keeps_publishArray name hsame) (Ne.symm htype)
  publishBuilt {reg built b} hnew helement h := by
    intro type info hinfo
    by_cases htype : type = built
    · subst htype
      obtain rfl : b.build type reg = info :=
        Option.some.inj ((get_publish_self reg (b.build type reg)).symm.trans hinfo)
      exact extended_publish_build hnew b h
    · rw [get_publish_of_ne _ _ _ htype] at hinfo
      exact (h type info hinfo).publish (keeps_publish hnew) (Ne.symm htype)

/-- The built-in types have empty tables. -/
theorem tables_initial : initial.Every fun _ info => info.dispatchTable = [] := by
  refine every_initial fun info hinfo => ?_
  have hnone : ∀ info ∈ builtins, info.dispatchTable = [] := by decide
  exact hnone info hinfo

/-- Empty tables extend each other. -/
theorem extended_initial (hinfo : initial.get type = some info) : initial.Extended type info := by
  have htable := tables_initial.get hinfo
  refine ⟨fun entry hentry => ?_, fun base _ _ hbefore => ?_, fun base _ _ => .inr ?_⟩
  · rw [htable] at hentry
    exact absurd hentry List.not_mem_nil
  · obtain ⟨baseInfo, hbaseInfo⟩ := Option.isSome_iff_exists.mp hbefore.isSome
    exact ⟨baseInfo, hbaseInfo, fun hentry => by simp [tables_initial.get hbaseInfo] at hentry⟩
  · intro entry hentry
    rw [htable] at hentry
    exact absurd hentry List.not_mem_nil

/-- The dispatch table of every type between requests, against that of its base, for every family of
descriptions and every order of requests.

* If the base was published first, the table is at least as long as that of the base, and in every
  slot of the base it has a method of the same name and parameter types.
* The other types either keep the slots of their base as well, or have no method of another type in
  their table. -/
theorem extended_atRest (h : AtRest family reg) (hleft : reg.issued ≤ UInt64.size)
    (hinfo : reg.get type = some info) (helement : info.element = none)
    (hbase : info.base = some base) :
    (reg.PublishedBefore base type → reg.Inherits info.dispatchTable base ∧
      ∀ baseInfo, reg.get base = some baseInfo →
        baseInfo.dispatchTable.length ≤ info.dispatchTable.length) ∧
    (reg.Inherits info.dispatchTable base ∨
      ∀ entry ∈ info.dispatchTable, entry.declaring = type) := by
  have hextended := carried_extended.reached (fun _ _ => extended_initial) h.reached hleft type info
    hinfo
  refine ⟨fun hbefore => ?_, hextended.apart base hbase helement⟩
  have hinherits := hextended.newer base hbase helement hbefore
  exact ⟨hinherits, fun baseInfo hbaseInfo => hinherits.length_le hbaseInfo⟩

/-- Types of birds: songbirds derive from birds, and override one of their two methods. -/
def birds : Family :=
  let call (native name : String) : MethodInfo :=
    (MethodInfo.reading native name [] .string (pure (.string native))).asVirtual
  [(.described "Bird",
    pure (((Blueprint.reference "Bird").withMethod (call "Bird" "Fly")).withMethod
      (call "Bird" "Sing"))),
  (.described "Songbird", do
    let bird ← Description.typeOf (.described "Bird")
    return ((Blueprint.reference "Songbird").extending "Bird" bird).withMethod
      (call "Songbird" "Sing"))]

/-- The registry after songbirds were asked for, and birds through them. -/
def aviary : Registry := (request birds (.described "Songbird") .initial).2

/-- Songbirds keep the slots of birds, and sing in the second one. -/
theorem extended_atRest_aviary :
    ∃ songbird bird info,
      AtRest birds aviary ∧ aviary.issued ≤ UInt64.size ∧ aviary.get songbird = some info ∧
      info.element = none ∧ info.base = some bird ∧ aviary.PublishedBefore bird songbird ∧
      aviary.Inherits info.dispatchTable bird ∧
      info.dispatchTable = [⟨bird, 0⟩, ⟨songbird, 0⟩] := by
  have hrest : AtRest birds aviary := .request _ .initial
  have hleft : aviary.issued ≤ UInt64.size := by decide
  obtain ⟨info, hinfo, helement, hbase, htable⟩ : ∃ info,
      aviary.get (.ofIndex 8) = some info ∧ info.element = none ∧
        info.base = some (.ofIndex 9) ∧
        info.dispatchTable = [⟨.ofIndex 9, 0⟩, ⟨.ofIndex 8, 0⟩] := ⟨_, rfl, rfl, rfl, rfl⟩
  have hbefore : aviary.PublishedBefore (.ofIndex 9) (.ofIndex 8) := by decide
  exact ⟨.ofIndex 8, .ofIndex 9, info, hrest, hleft, hinfo, helement, hbase, hbefore,
    ((extended_atRest hrest hleft hinfo helement hbase).1 hbefore).1, htable⟩

/-- Among the sample types, a child is described while its parent still is. Its table has one slot
and that of its parent two, and the method in the first slot has another name than the parent's. -/
theorem early_child_misses_slots :
    ∃ child parent info parentInfo old new first who,
      AtRest Sample.family Sample.registry ∧
      Sample.registry.natives.lookup (.described "Child") = some child ∧
      Sample.registry.get child = some info ∧ info.base = some parent ∧
      Sample.registry.get parent = some parentInfo ∧
      info.dispatchTable.length < parentInfo.dispatchTable.length ∧
      parentInfo.dispatchTable[0]? = some old ∧ info.dispatchTable[0]? = some new ∧
      Sample.registry.methodAt old = some first ∧ Sample.registry.methodAt new = some who ∧
      ¬ who.SameSignature first := by
  have hfound : ((Sample.registry.natives.lookup (.described "Child")).bind fun child =>
      (Sample.registry.get child).bind fun info => info.base.bind fun parent =>
      (Sample.registry.get parent).bind fun parentInfo =>
      (parentInfo.dispatchTable[0]?).bind fun old => (info.dispatchTable[0]?).bind fun new =>
      (Sample.registry.methodAt old).bind fun first => (Sample.registry.methodAt new).map fun who =>
        (info.dispatchTable.length, parentInfo.dispatchTable.length, first.name, who.name)) =
      some (1, 2, "First", "Who") := by
    decide +kernel
  simp only [Option.bind_eq_some_iff, Option.map_eq_some_iff, Prod.mk.injEq] at hfound
  obtain ⟨child, hchild, info, hinfo, parent, hparent, parentInfo, hparentInfo, old, hold, new,
    hnew, first, hfirst, who, hwho, hshort, hlong, hname, hname'⟩ := hfound
  refine ⟨child, parent, info, parentInfo, old, new, first, who, AtRest.initial.requestAll _,
    hchild, hinfo, hparent, hparentInfo, by omega, hold, hnew, hfirst, hwho, fun hsame => ?_⟩
  have hnames : who.name = first.name := hsame.1
  rw [hname, hname'] at hnames
  simp at hnames

end Registry

end Introspect
