import Introspect.Proofs.Registry.Mentions

/-!
# `Introspect.Proofs.Registry.Standing`: handles that are given out before their types

While types are described, requests are answered with handles of types that are not published yet.
Such a handle is good when its type is published under it in the end. A description that stands for
an array type ends with the handle of that type instead, and its own handle is lost.

`Stands` are the handles that are published or will be, and `Lasting` the answers that later
requests get again. `Later` says that both stay so between two registries, and has one lemma for
each kind of change. `Intact` is the invariant: all descriptors mention only handles that stand, and
each known native type is what its description says, and would say again (`Told`).
`Intact.settle` is its main step, the end of a description.
-/

set_option autoImplicit false

namespace Introspect

namespace Registry

variable {family : Family} {reg next : Registry} {native : NativeType}
  {type element array handle : TypeHandle} {info : TypeInfo} {b : Blueprint}

/-! ### Look-ups in lists of entries -/

section Lookup

variable {α β : Type} [BEq α] [LawfulBEq α] {key other : α} {entry : β} {entries : List (α × β)}

/-- An entry in front is found under its key only. -/
theorem lookup_cons_of_ne (h : key ≠ other) :
    ((other, entry) :: entries).lookup key = entries.lookup key := by
  have hbeq : (key == other) = false := by simpa using h
  rw [List.lookup_cons, hbeq]

/-- Entries under one key can be taken out without another one missing. -/
theorem lookup_filter_of_ne (h : key ≠ other) :
    (entries.filter (·.1 != other)).lookup key = entries.lookup key := by
  induction entries with
  | nil => rfl
  | cons first rest ih =>
      obtain ⟨found, entry⟩ := first
      by_cases hfound : found = other
      · subst hfound
        rw [List.filter_cons_of_neg (by simp), lookup_cons_of_ne h, ih]
      · rw [List.filter_cons_of_pos (by simpa using hfound)]
        simp only [List.lookup_cons, ih]

end Lookup

/-! ### Handles and answers that last -/

/-- The handle is that of a published type, or it is reserved for one that does not stand for an
array type. -/
def Stands (family : Family) (reg : Registry) (handle : TypeHandle) : Prop :=
  (reg.get handle).isSome = true ∨
    ∃ native, reg.pending.lookup native = some handle ∧ family.Plain native

/-- A native type that is known keeps its handle: it is described already, or does not stand for an
array type. -/
def Sure (family : Family) (reg : Registry) (native : NativeType) : Prop :=
  (reg.natives.lookup native).isSome = true ∨ family.Plain native

/-- Requests for the native type are answered with this handle from now on. -/
structure Lasting (family : Family) (reg : Registry) (native : NativeType) (type : TypeHandle) :
    Prop where
  known : reg.known native = some type
  sure : reg.Sure family native

/-- What stays between two registries. -/
structure Later (family : Family) (reg next : Registry) : Prop where
  stands : ∀ handle, reg.Stands family handle → next.Stands family handle
  lasting : ∀ native type, reg.Lasting family native type → next.Lasting family native type
  natives : ∀ native type, reg.natives.lookup native = some type →
    next.natives.lookup native = some type
  arrays : ∀ element array, reg.arrays.lookup element = some array →
    next.arrays.lookup element = some array
  /-- all types but array types keep their descriptors -/
  types : ∀ type info, reg.get type = some info → info.element = none → next.get type = some info
  published : ∀ type, (reg.get type).isSome = true → (next.get type).isSome = true

/-- Without a change everything stays. -/
theorem Later.refl (family : Family) (reg : Registry) : Later family reg reg :=
  ⟨fun _ h => h, fun _ _ h => h, fun _ _ h => h, fun _ _ h => h, fun _ _ h _ => h, fun _ h => h⟩

/-- What stays in each of two stretches stays in both. -/
theorem Later.trans {last : Registry} (h : Later family reg next) (h' : Later family next last) :
    Later family reg last where
  stands handle hstands := h'.stands handle (h.stands handle hstands)
  lasting native type hlasting := h'.lasting native type (h.lasting native type hlasting)
  natives native type hfound := h'.natives native type (h.natives native type hfound)
  arrays element array hfound := h'.arrays element array (h.arrays element array hfound)
  types type info hinfo hnone := h'.types type info (h.types type info hinfo hnone) hnone
  published type hinfo := h'.published type (h.published type hinfo)

/-- A handle is reserved for a native type that is not known. -/
theorem later_reserve (hunknown : reg.known native = none) :
    Later family reg (reg.reserve native).2 := by
  -- The new entry stands in front of all others, but none of them has its key.
  have hpending : ∀ other type, reg.pending.lookup other = some type →
      (reg.reserve native).2.pending.lookup other = some type := by
    intro other type hfound
    have hne : other ≠ native := by
      rintro rfl
      simp [lookup_pending_of_unknown hunknown] at hfound
    exact (lookup_cons_of_ne hne).trans hfound
  refine ⟨fun handle hstands => ?stands, fun other type hlasting => ?lasting, fun _ _ h => h,
    fun _ _ h => h, fun _ _ h _ => h, fun _ h => h⟩
  case stands =>
    refine hstands.imp_right ?_
    rintro ⟨other, hfound, hplain⟩
    exact ⟨other, hpending other handle hfound, hplain⟩
  case lasting =>
    refine ⟨?_, hlasting.sure⟩
    rcases Option.or_eq_some_iff.mp hlasting.known with hfound | ⟨hnone, hfound⟩
    · exact known_of_natives hfound
    · exact Option.or_eq_some_iff.mpr (.inr ⟨hnone, hpending other type hfound⟩)

/-- A descriptor is published that takes the place of none, or of that of an array type. -/
theorem later_publish (hold : ∀ old, reg.get info.handle = some old → old.element.isSome = true) :
    Later family reg (reg.publish info) := by
  have hpublished : ∀ type, (reg.get type).isSome = true →
      ((reg.publish info).get type).isSome = true := by
    intro type hsome
    rw [get_publish]
    split
    · rfl
    · exact hsome
  refine ⟨fun handle hstands => hstands.imp_left (hpublished handle),
    fun _ _ h => ⟨h.known, h.sure⟩, fun _ _ h => h, fun _ _ h => h, fun type old hinfo hnone => ?_,
    hpublished⟩
  have hne : type ≠ info.handle := by
    rintro rfl
    simpa [hnone] using hold old hinfo
  rw [get_publish_of_ne reg info type hne, hinfo]

/-- A fresh handle belongs to an array type that is not known yet. -/
theorem later_withArray (hunknown : reg.arrays.lookup element = none) :
    Later family reg (reg.withArray element) := by
  refine ⟨fun _ h => h, fun _ _ h => ⟨h.known, h.sure⟩, fun _ _ h => h,
    fun other array hfound => ?_, fun _ _ h _ => h, fun _ h => h⟩
  have hne : other ≠ element := by
    rintro rfl
    simp [hunknown] at hfound
  exact (lookup_cons_of_ne hne).trans hfound

/-- A native type is known from now on, under the handle that was reserved for it unless it stands
for an array type. -/
theorem later_close (hnew : reg.natives.lookup native = none)
    (hpublished : (reg.get type).isSome = true)
    (hplain : family.Plain native → reg.pending.lookup native = some type) :
    Later family reg (reg.close native type) := by
  have hnatives : ∀ other handle, reg.natives.lookup other = some handle →
      (reg.close native type).natives.lookup other = some handle := by
    intro other handle hfound
    have hne : other ≠ native := by
      rintro rfl
      simp [hnew] at hfound
    exact (lookup_cons_of_ne hne).trans hfound
  refine ⟨fun handle hstands => ?stands, fun other handle hlasting => ?lasting, hnatives,
    fun _ _ h => h, fun _ _ h _ => h, fun _ h => h⟩
  case stands =>
    rcases hstands with hinfo | ⟨other, hfound, hother⟩
    · exact .inl hinfo
    · by_cases hne : other = native
      · -- The handle was reserved for the type that is published now.
        subst hne
        obtain rfl := Option.some.inj ((hplain hother).symm.trans hfound)
        exact .inl hpublished
      · exact .inr ⟨other, (lookup_filter_of_ne hne).trans hfound, hother⟩
  case lasting =>
    by_cases hne : other = native
    · -- An answer under way lasts for a plain type only, which keeps its handle.
      subst hne
      have hself : (reg.close other type).natives.lookup other = some type := List.lookup_cons_self
      rcases hlasting.sure with hknown | hother
      · simp [hnew] at hknown
      · have hfound : handle = type := by
          have hknown := hlasting.known
          rw [Registry.known, hnew, hplain hother, Option.none_or] at hknown
          exact (Option.some.inj hknown).symm
        subst hfound
        exact ⟨known_of_natives hself, .inl (by simp [hself])⟩
    · have hpending : (reg.close native type).pending.lookup other = reg.pending.lookup other :=
        lookup_filter_of_ne hne
      have hother : (reg.close native type).natives.lookup other = reg.natives.lookup other :=
        lookup_cons_of_ne hne
      refine ⟨?_, hlasting.sure.imp_left fun h => by rwa [hother]⟩
      rw [Registry.known, hpending, hother]
      exact hlasting.known

/-- An array type that was asked for is known. -/
theorem lookup_arrayOf (reg : Registry) (element : TypeHandle) :
    (reg.arrayOf element).2.arrays.lookup element = some (reg.arrayOf element).1 := by
  cases hknown : reg.arrays.lookup element with
  | some array =>
      rw [arrayOf_of_known hknown]
      exact hknown
  | none =>
      rw [arrayOf_of_unknown hknown]
      exact List.lookup_cons_self

/-- A request for an array type makes no native type known. -/
theorem natives_arrayOf (reg : Registry) (element : TypeHandle) :
    (reg.arrayOf element).2.natives = reg.natives := by
  unfold arrayOf
  split <;> rfl

/-- Nor does the name of one. -/
theorem natives_nameArraysOf (reg : Registry) (element : TypeHandle) (name : String) :
    (reg.nameArraysOf element name).natives = reg.natives := by
  unfold nameArraysOf
  split <;> rfl

/-- An array type is asked for while handles are left. -/
theorem later_arrayOf (hledger : reg.Ledger) (element : TypeHandle)
    (hleft : (reg.arrayOf element).2.issued ≤ UInt64.size) :
    Later family reg (reg.arrayOf element).2 := by
  cases hknown : reg.arrays.lookup element with
  | some array =>
      rw [arrayOf_of_known hknown]
      exact .refl family reg
  | none =>
      rw [arrayOf_of_unknown hknown] at hleft ⊢
      refine (later_withArray hknown).trans (later_publish fun old hold => ?_)
      -- Nothing lies under a fresh handle.
      have hnew : (reg.withArray element).get reg.fresh.1 = none := hledger.get_fresh hleft
      exact absurd (hnew.symm.trans hold) (by simp)

/-- The array type of an element gets its name. -/
theorem later_nameArraysOf (harrays : reg.ArraysPublished) (element : TypeHandle) (name : String) :
    Later family reg (reg.nameArraysOf element name) := by
  cases hknown : reg.arrays.lookup element with
  | none =>
      rw [nameArraysOf_of_unknown hknown]
      exact .refl family reg
  | some array =>
      rw [nameArraysOf_of_known hknown]
      refine later_publish fun old hold => ?_
      -- What is replaced is the descriptor of the same array type under another name.
      obtain ⟨before, hbefore⟩ := harrays element array hknown
      obtain rfl := Option.some.inj (hbefore.symm.trans hold)
      rfl

end Registry

/-! ### What descriptions said -/

/-- A description ends like this again, without a change to the registry: the native types that it
asks for are known, and so are the array types. -/
inductive Description.Replays (family : Family) (reg : Registry) {α : Type} :
    Description α → α → Prop
  | done (a : α) : Replays family reg (done a) a
  | request {native : NativeType} {type : TypeHandle} {next : TypeHandle → Description α} {a : α} :
      reg.Lasting family native type → (next type).Replays family reg a →
      Replays family reg (request native next) a
  | arrayOf {element array : TypeHandle} {next : TypeHandle → Description α} {a : α} :
      reg.arrays.lookup element = some array → (next array).Replays family reg a →
      Replays family reg (arrayOf element next) a

namespace Registry

variable {family : Family} {reg next : Registry} {native : NativeType}
  {type element array handle : TypeHandle} {info : TypeInfo} {b : Blueprint}
  {description : Description Blueprint}

/-- What can be run again can be run again later. -/
theorem replays_mono {α : Type} {description : Description α} {a : α}
    (h : description.Replays family reg a) (hlater : Later family reg next) :
    description.Replays family next a := by
  induction h with
  | done a => exact .done a
  | request hlasting _ ih => exact .request (hlater.lasting _ _ hlasting) ih
  | arrayOf hknown _ ih => exact .arrayOf (hlater.arrays _ _ hknown) ih

/-- What is true of all results of a description is true of this one. -/
theorem replays_all {α : Type} {description : Description α} {a : α} {p : α → Prop}
    (h : description.Replays family reg a) (hall : description.All p) : p a := by
  induction h with
  | done a => exact hall
  | request _ _ ih => exact ih (hall _)
  | arrayOf _ _ ih => exact ih (hall _)

/-- The type is what a description says: it is published as the description was built, or it is the
array type that the description stands for. -/
def Says (reg : Registry) (type : TypeHandle) (b : Blueprint) : Prop :=
  match b.element with
  | some element => reg.arrays.lookup element = some type
  | none => ∃ earlier, reg.get type = some (b.build type earlier)

/-- What was said stays said. -/
theorem Says.mono (h : reg.Says type b) (hlater : Later family reg next) : next.Says type b := by
  unfold Says at h ⊢
  split at h
  · exact hlater.arrays _ _ h
  · next hnone =>
      obtain ⟨earlier, hbuilt⟩ := h
      exact ⟨earlier, hlater.types _ _ hbuilt hnone⟩

/-- The type of a native type is what its description says, and would say again. -/
def Told (family : Family) (reg : Registry) (native : NativeType) (type : TypeHandle) : Prop :=
  ∃ description b, family.describe native = some description ∧
    description.Replays family reg b ∧ reg.Says type b

/-- What a native type was described as stays. -/
theorem Told.mono (h : reg.Told family native type) (hlater : Later family reg next) :
    next.Told family native type := by
  obtain ⟨description, b, hdescribed, hreplays, hsays⟩ := h
  exact ⟨description, b, hdescribed, replays_mono hreplays hlater, hsays.mono hlater⟩

/-! ### Registries without loose ends -/

/-- What is under description, other than lists, is described by the family. -/
def Covered (reg : Registry) (family : Family) : Prop :=
  ∀ entry ∈ reg.pending, entry.1.isList = true ∨ (family.lookup entry.1).isSome = true

/-- So it is as long as the same descriptions are under way. -/
theorem Covered.of_pending_eq (h : reg.Covered family) (hpending : next.pending = reg.pending) :
    next.Covered family := by
  rwa [Covered, hpending]

/-- It stays so when the description of another native type of the family begins. -/
theorem Covered.reserve (h : reg.Covered family)
    (hnative : native.isList = true ∨ (family.lookup native).isSome = true) :
    (reg.reserve native).2.Covered family := by
  intro entry hentry
  rcases List.mem_cons.mp hentry with rfl | hold
  · exact hnative
  · exact h entry hold

/-- What holds while types are described in turn: descriptors mention only types that are published
or will be, and each known native type is what its description says. -/
structure Intact (family : Family) (reg : Registry) : Prop where
  reached : Reached reg
  covered : reg.Covered family
  /-- the native types that are known from the start -/
  builtin : ∀ native type, initial.natives.lookup native = some type →
    reg.natives.lookup native = some type
  /-- the built-in types -/
  roots : ∀ info ∈ builtins, (reg.get info.handle).isSome = true
  mentions : ∀ type info, reg.get type = some info → ∀ handle ∈ info.handles,
    reg.Stands family handle
  natives : ∀ native type, reg.natives.lookup native = some type → (reg.get type).isSome = true ∧
    (initial.natives.lookup native = some type ∨ reg.Told family native type)
  origin : ∀ type info, reg.get type = some info → (∃ root ∈ builtins, root.handle = type) ∨
    info.element.isSome = true ∨ ∃ native, reg.natives.lookup native = some type

/-- The root type is published. -/
theorem Intact.object (h : Intact family reg) : reg.Stands family .object :=
  .inl (h.roots _ (List.mem_cons_self))

/-- An answer that lasts is a handle that stands. -/
theorem Intact.stands (h : Intact family reg) (hlasting : reg.Lasting family native type) :
    reg.Stands family type := by
  rcases Option.or_eq_some_iff.mp hlasting.known with hfound | ⟨hnone, hfound⟩
  · exact .inl (h.natives native type hfound).1
  · rcases hlasting.sure with hsome | hplain
    · simp [hnone] at hsome
    · exact .inr ⟨native, hfound, hplain⟩

/-- A known array type stands. -/
theorem Intact.stands_array (h : Intact family reg) (hleft : reg.issued ≤ UInt64.size)
    (hknown : reg.arrays.lookup element = some array) : reg.Stands family array := by
  obtain ⟨name, hname⟩ := (h.reached.ledger hleft).arrays element array hknown
  exact .inl (by simp [hname])

/-- The registry is intact at the start. -/
theorem intact_initial (family : Family) : Intact family initial where
  reached := .refl
  covered _ hentry := nomatch hentry
  builtin _ _ h := h
  roots := by decide
  mentions type info hinfo handle hhandle := by
    -- The built-in types mention their base only, and that is the root type.
    have hhandles : initial.Every fun _ info => info.handles ⊆ [.object] :=
      every_initial fun info hinfo => by
        have hall : ∀ info ∈ builtins, info.handles ⊆ [.object] := by decide
        exact hall info hinfo
    obtain rfl := List.mem_singleton.mp (hhandles.get hinfo hhandle)
    exact .inl (by decide)
  natives native type hfound := by
    obtain ⟨front, back, hnatives, -⟩ := List.lookup_eq_some_iff.mp hfound
    have hall : ∀ entry ∈ initial.natives, (initial.get entry.2).isSome = true := by decide
    exact ⟨hall (native, type) (by simp [hnatives]), .inl hfound⟩
  origin type info hinfo := by
    have hbuiltins : initial.Every fun type _ => ∃ root ∈ builtins, root.handle = type :=
      every_initial fun info hinfo => ⟨info, hinfo, rfl⟩
    exact .inl (hbuiltins.get hinfo)

/-- A registry stays intact when everything stays, and what is new is in order. -/
theorem Intact.extend (h : Intact family reg) (hlater : Later family reg next)
    (hreached : Reached next)
    (hcovered : next.Covered family)
    (htypes : ∀ type info, next.get type = some info → reg.get type = some info ∨
      (∀ handle ∈ info.handles, next.Stands family handle) ∧
        (info.element.isSome = true ∨ ∃ native, next.natives.lookup native = some type))
    (hnatives : ∀ native type, next.natives.lookup native = some type →
      reg.natives.lookup native = some type ∨
        (next.get type).isSome = true ∧ next.Told family native type) : Intact family next where
  reached := hreached
  covered := hcovered
  builtin native type hfound := hlater.natives native type (h.builtin native type hfound)
  roots info hinfo := hlater.published info.handle (h.roots info hinfo)
  mentions type info hinfo handle hhandle := by
    rcases htypes type info hinfo with hold | ⟨hstands, -⟩
    · exact hlater.stands handle (h.mentions type info hold handle hhandle)
    · exact hstands handle hhandle
  natives native type hfound := by
    rcases hnatives native type hfound with hold | ⟨hpublished, htold⟩
    · obtain ⟨hpublished, hsaid⟩ := h.natives native type hold
      exact ⟨hlater.published type hpublished, hsaid.imp_right (·.mono hlater)⟩
    · exact ⟨hpublished, .inr htold⟩
  origin type info hinfo := by
    rcases htypes type info hinfo with hold | ⟨-, hnew⟩
    · refine (h.origin type info hold).imp_right fun hsome => hsome.imp_right ?_
      exact fun ⟨native, hfound⟩ => ⟨native, hlater.natives native type hfound⟩
    · exact .inr hnew

/-- The description of a native type begins. -/
theorem Intact.reserve (h : Intact family reg) (hunknown : reg.known native = none)
    (hnative : native.isList = true ∨ (family.lookup native).isSome = true) :
    Intact family (reg.reserve native).2 := by
  exact h.extend (later_reserve hunknown) (.tail h.reached (.reserve hunknown))
    (h.covered.reserve hnative) (fun _ _ hinfo => .inl hinfo) fun _ _ hfound => .inl hfound

/-- An array type is asked for whose element stands. -/
theorem Intact.arrayOf (h : Intact family reg) (helement : reg.Stands family element)
    (hleft : (reg.arrayOf element).2.issued ≤ UInt64.size) :
    Intact family (reg.arrayOf element).2 := by
  have hledger := h.reached.ledger (Nat.le_trans (issued_le_arrayOf reg element) hleft)
  have hlater : Later family reg (reg.arrayOf element).2 := later_arrayOf hledger element hleft
  refine h.extend hlater (.tail h.reached (.arrayOf element))
    (h.covered.of_pending_eq (pending_arrayOf reg element)) (fun type info hinfo => ?_)
    fun native type hfound => .inl ?_
  · cases hknown : reg.arrays.lookup element with
    | some array =>
        rw [arrayOf_of_known hknown] at hinfo
        exact .inl hinfo
    | none =>
        have hmade := arrayOf_of_unknown hknown
        by_cases htype : type = reg.fresh.1
        · subst htype
          have hinfo' : (reg.arrayOf element).2.get reg.fresh.1 =
              some (arrayInfo reg.fresh.1 element (reg.nameOf element)) := by
            rw [hmade]
            exact get_publish_self (reg.withArray element) _
          obtain rfl := Option.some.inj (hinfo'.symm.trans hinfo)
          refine .inr ⟨fun handle hhandle => ?_, .inl rfl⟩
          rw [handles_arrayInfo] at hhandle
          rcases List.mem_pair.mp hhandle with rfl | rfl
          · exact hlater.stands _ h.object
          · exact hlater.stands _ helement
        · rw [hmade] at hinfo
          exact .inl ((get_publish_of_ne (reg.withArray element) _ type htype).symm.trans hinfo)
  · rwa [natives_arrayOf] at hfound

/-! ### The end of a description -/

/-- A request has been answered: the registry is still intact, and later requests for the same
native type are answered alike. -/
structure Answered (family : Family) (native : NativeType) (reg : Registry)
    (answer : TypeHandle × Registry) : Prop where
  intact : Intact family answer.2
  later : Later family reg answer.2
  lasting : answer.2.Lasting family native answer.1

/-- The answer is a handle that stands. -/
theorem Answered.stands {answer : TypeHandle × Registry}
    (h : Answered family native reg answer) : answer.2.Stands family answer.1 :=
  h.intact.stands h.lasting

/-- A description ends in a registry where the type is published that it speaks of. -/
theorem Intact.close (h : Intact family reg) (hlater : Later family reg next)
    (hpending : next.pending = reg.pending) (hnatives : next.natives = reg.natives)
    (hreached : Reached (next.close native type)) (hnew : reg.natives.lookup native = none)
    (hplain : family.Plain native → reg.pending.lookup native = some type)
    (hpublished : (next.get type).isSome = true) (htold : next.Told family native type)
    (htypes : ∀ other info, next.get other = some info → reg.get other = some info ∨
      (∀ handle ∈ info.handles, next.Stands family handle) ∧
        (info.element.isSome = true ∨ other = type)) :
    Answered family native reg (type, next.close native type) := by
  have hclose : Later family next (next.close native type) :=
    later_close (hnatives ▸ hnew) hpublished (hpending ▸ hplain)
  have hself : (next.close native type).natives.lookup native = some type := List.lookup_cons_self
  refine ⟨h.extend (hlater.trans hclose) hreached (fun entry hentry => ?_)
    (fun other info hinfo => ?_) fun other found hfound => ?_, hlater.trans hclose,
    known_of_natives hself, .inl (by simp [hself])⟩
  · exact h.covered entry (hpending ▸ List.mem_of_mem_filter hentry)
  · refine (htypes other info hinfo).imp_right fun ⟨hstands, hnew⟩ => ?_
    refine ⟨fun handle hhandle => hclose.stands handle (hstands handle hhandle), ?_⟩
    exact hnew.imp_right fun (heq : other = type) => ⟨native, heq ▸ hself⟩
  · -- Only one native type is known that was not known before.
    by_cases hne : other = native
    · subst hne
      obtain rfl := Option.some.inj (hself.symm.trans hfound)
      exact .inr ⟨hpublished, htold.mono hclose⟩
    · refine .inl ?_
      rw [← hnatives]
      exact (lookup_cons_of_ne hne).symm.trans hfound

/-- A description that stands for an array type ends. -/
theorem Intact.settle_array {rest : List (NativeType × TypeHandle)} (h : Intact family reg)
    (hpending : reg.pending = (native, type) :: rest) (helement : b.element = some element)
    (hdescribed : family.describe native = some description)
    (hreplays : description.Replays family reg b) (hstands : reg.Stands family element)
    (hleft : (reg.settle native type b).2.issued ≤ UInt64.size) :
    Answered family native reg (reg.settle native type b) := by
  have hreached : Reached (reg.settle native type b).2 := .tail h.reached (moves_settle hpending b)
  have hnew : reg.natives.lookup native = none :=
    (h.reached.ledger (Nat.le_trans (issued_le_settle reg native type b) hleft)).unknown
      (native, type) (by simp [hpending])
  -- The handle that was reserved is lost, so it must not be one that stands.
  have hplain : ¬ family.Plain native := by
    rintro ⟨found, hfound, hall⟩
    obtain rfl := Option.some.inj (hdescribed.symm.trans hfound)
    simp [replays_all hreplays hall] at helement
  rw [Registry.settle_array helement] at hreached hleft ⊢
  -- The array type is asked for first, and then the description is closed with its handle.
  have hafter := h.arrayOf hstands hleft
  have hlater : Later family reg (reg.arrayOf element).2 :=
    later_arrayOf (h.reached.ledger (Nat.le_trans (issued_le_arrayOf reg element) hleft)) element
      hleft
  have hknown := lookup_arrayOf reg element
  have hpublished : ((reg.arrayOf element).2.get (reg.arrayOf element).1).isSome = true := by
    obtain ⟨name, hname⟩ := (hafter.reached.ledger hleft).arrays _ _ hknown
    simp [hname]
  have htold : (reg.arrayOf element).2.Told family native (reg.arrayOf element).1 :=
    ⟨description, b, hdescribed, replays_mono hreplays hlater,
      by simpa only [Says, helement] using hknown⟩
  have hclosed := hafter.close (.refl family _) rfl rfl hreached
    (by rwa [natives_arrayOf]) (absurd · hplain) hpublished htold fun _ _ hinfo => .inl hinfo
  exact ⟨hclosed.intact, hlater.trans hclosed.later, hclosed.lasting⟩

/-- A type is published, and its array type gets its name. -/
def named (reg : Registry) (info : TypeInfo) : Registry :=
  (reg.publish info).nameArraysOf info.handle info.name

/-- A description that does not stand for an array type is over once its type is published. -/
theorem settle_named (h : b.element = none) :
    reg.settle native type b = (type, (reg.named (b.build type reg)).close native type) := by
  rw [settle_described h]
  cases hknown : reg.arrays.lookup type with
  | none =>
      have hnamed : reg.named (b.build type reg) = reg.publish (b.build type reg) :=
        nameArraysOf_of_unknown (by exact hknown) _
      rw [hnamed, nameArraysOf_of_unknown (by exact hknown)]
      rfl
  | some array =>
      have hnamed : reg.named (b.build type reg) =
          (reg.publish (b.build type reg)).publish (arrayInfo array type b.name) :=
        nameArraysOf_of_known (by exact hknown) _
      rw [hnamed, nameArraysOf_of_known (by exact hknown)]
      rfl

/-- What is found after a type was published under a handle of no type. -/
theorem get_named (hledger : reg.Ledger) (hvacant : reg.get info.handle = none)
    (other : TypeHandle) :
    (reg.named info).get other =
      if other = info.handle then some info
      else if reg.arrays.lookup info.handle = some other then
        some (arrayInfo other info.handle info.name)
      else reg.get other := by
  unfold named
  cases hknown : reg.arrays.lookup info.handle with
  | none =>
      rw [nameArraysOf_of_unknown (by exact hknown), get_publish]
      simp
  | some array =>
      have hne : array ≠ info.handle := hledger.arrays.ne_of_unpublished hvacant hknown
      rw [nameArraysOf_of_known (by exact hknown), get_publish, get_publish]
      by_cases hother : other = array
      · subst hother
        simp [arrayInfo, TypeInfo.bare, hne]
      · simp [arrayInfo, TypeInfo.bare, hother, Ne.symm hother]

/-- A type is published under a handle of no type. -/
theorem later_named (hledger : reg.Ledger) (hvacant : reg.get info.handle = none) :
    Later family reg (reg.named info) := by
  have harrays : (reg.publish info).ArraysPublished := hledger.arrays.publish hvacant
  refine (later_publish fun old hold => ?_).trans (later_nameArraysOf harrays _ _)
  simp [hvacant] at hold

/-- A description ends with a type of its own, which is published. -/
theorem Intact.settle_named {rest : List (NativeType × TypeHandle)} (h : Intact family reg)
    (hpending : reg.pending = (native, type) :: rest) (helement : b.element = none)
    (hdescribed : family.describe native = some description)
    (hreplays : description.Replays family reg b)
    (hstands : ∀ handle ∈ b.handles, reg.Stands family handle)
    (hleft : (reg.settle native type b).2.issued ≤ UInt64.size) :
    Answered family native reg (reg.settle native type b) := by
  have hreached : Reached (reg.settle native type b).2 := .tail h.reached (moves_settle hpending b)
  have hledger := h.reached.ledger (Nat.le_trans (issued_le_settle reg native type b) hleft)
  have hentry : (native, type) ∈ reg.pending := by simp [hpending]
  have hvacant : reg.get type = none := (hledger.reserved _ hentry).2
  rw [Registry.settle_named helement] at hreached ⊢
  have hget : ∀ other, (reg.named (b.build type reg)).get other =
      if other = type then some (b.build type reg)
      else if reg.arrays.lookup type = some other then some (arrayInfo other type b.name)
      else reg.get other := get_named hledger hvacant
  have hself : (reg.named (b.build type reg)).get type = some (b.build type reg) :=
    (hget type).trans (if_pos rfl)
  have hlater : Later family reg (reg.named (b.build type reg)) := later_named hledger hvacant
  have htype : (reg.named (b.build type reg)).Stands family type := .inl (by simp [hself])
  have htold : (reg.named (b.build type reg)).Told family native type :=
    ⟨description, b, hdescribed, replays_mono hreplays hlater,
      by simpa only [Says, helement] using ⟨reg, hself⟩⟩
  -- The type is published before it is closed, so that its handle stands all the time.
  refine h.close hlater (pending_nameArraysOf _ _ _) (natives_nameArraysOf _ _ _) hreached
    (hledger.unknown _ hentry) (fun _ => ?_) (by simp [hself]) htold fun other info hinfo => ?_
  · rw [hpending, List.lookup_cons_self]
  · rw [hget] at hinfo
    split at hinfo
    · next hother =>
        subst hother
        obtain rfl := Option.some.inj hinfo
        refine .inr ⟨fun handle hhandle => ?_, .inr rfl⟩
        rcases handles_build hvacant helement hhandle with hold | rfl | rfl | hinherited
        · exact hlater.stands handle (hstands handle hold)
        · exact htype
        · exact hlater.stands _ h.object
        · -- The type that declares a method of the base is mentioned there already.
          obtain ⟨base, baseInfo, -, hbaseInfo, hdeclared⟩ := hinherited
          exact hlater.stands handle (h.mentions base baseInfo hbaseInfo handle
            (List.mem_append_right _ hdeclared))
    · split at hinfo
      · obtain rfl := Option.some.inj hinfo
        refine .inr ⟨fun handle hhandle => ?_, .inl rfl⟩
        rw [handles_arrayInfo] at hhandle
        rcases List.mem_pair.mp hhandle with rfl | rfl
        · exact hlater.stands _ h.object
        · exact htype
      · exact .inl hinfo

/-- A description ends that mentions handles that stand only. -/
theorem Intact.settle {rest : List (NativeType × TypeHandle)} (h : Intact family reg)
    (hpending : reg.pending = (native, type) :: rest)
    (hdescribed : family.describe native = some description)
    (hreplays : description.Replays family reg b)
    (hstands : ∀ handle ∈ b.handles, reg.Stands family handle)
    (hleft : (reg.settle native type b).2.issued ≤ UInt64.size) :
    Answered family native reg (reg.settle native type b) := by
  cases helement : b.element with
  | none => exact h.settle_named hpending helement hdescribed hreplays hstands hleft
  | some element =>
      have hmentioned : element ∈ b.handles := by simp [Blueprint.handles, helement]
      exact h.settle_array hpending helement hdescribed hreplays (hstands element hmentioned) hleft

end Registry

end Introspect
