import Introspect.Proofs.Dispatch.Extension

/-!
# `Introspect.Proofs.Dispatch.Linked`: slots and methods point at each other

A virtual method knows its slot, and the table of its type knows the method in the slot. Nothing is
assumed about signatures here: a type may declare one several times, and the table that it starts
from may hold one several times.

A later method searches the table for its signature and takes over the first slot that has it. It
cannot take the slot of an earlier method of the same type: the methods of a type are found once it
is published, which is after its table is made. `getElem?_assignSlots` states this as what the loop
preserves. `Linked` collects what comes out, with `linked_assignSlots` by induction on the methods,
and `build_linksSlots` is the main result, about the descriptor of every type that is built.
-/

set_option autoImplicit false

namespace Introspect.Blueprint

variable {reg : Registry} {type : TypeHandle} {method : MethodInfo} {rest methods : List MethodInfo}
  {table : List MethodRef} {index : Nat} {out : List MethodInfo × List MethodRef}

/-! ### Slots of the type itself -/

/-- A method does not take a slot that has a method of a type that is not published. -/
theorem slotIn_ne (hnew : reg.get type = none) {s : Nat} {entry : MethodRef}
    (hentry : table[s]? = some entry) (hown : entry.declaring = type) :
    s ≠ slotIn reg method table := by
  intro hs
  subst hs
  exact (matches_of_slotIn hentry).declaring_ne hnew hown

/-- What the loop preserves: a slot that has a method of the type keeps it to the end. -/
theorem getElem?_assignSlots (hnew : reg.get type = none) (methods : List MethodInfo) (index : Nat)
    {s : Nat} {entry : MethodRef} (hentry : table[s]? = some entry)
    (hown : entry.declaring = type) :
    (assignSlots reg type index methods table).2[s]? = some entry := by
  induction methods generalizing index table with
  | nil => exact hentry
  | cons method rest ih =>
      cases hvirtual : method.dispatches with
      | true =>
          have hfill : (fill table (slotIn reg method table) ⟨type, index⟩)[s]? = some entry := by
            rw [getElem?_fill (slotIn_le reg method table), if_neg (slotIn_ne hnew hentry hown)]
            exact hentry
          rw [assignSlots_of_virtual hvirtual]
          exact ih (index + 1) hfill
      | false =>
          rw [assignSlots_of_direct hvirtual]
          exact ih (index + 1) hentry

/-! ### All methods from a position on -/

/-- What comes out when the methods from a position on are given their slots, for methods and a
table in which signatures may occur any number of times. -/
structure Linked (type : TypeHandle) (index : Nat) (methods : List MethodInfo)
    (table : List MethodRef) (out : List MethodInfo × List MethodRef) : Prop where
  /-- there are as many methods as before -/
  length : out.1.length = methods.length
  /-- a method that is not virtual stays as it is -/
  untouched : ∀ (i : Nat) (method : MethodInfo), methods[i]? = some method →
    method.dispatches = false → out.1[i]? = some method
  /-- a virtual method stays as it is but for its slot, and the slot leads back to it -/
  linked : ∀ (i : Nat) (method : MethodInfo), methods[i]? = some method →
    method.dispatches = true →
    ∃ slot, out.1[i]? = some { method with slot := some slot } ∧
      out.2[slot]? = some ⟨type, index + i⟩
  /-- a slot of the table that no virtual method takes keeps its entry -/
  kept : ∀ (s : Nat) (entry : MethodRef), table[s]? = some entry →
    (∀ (i : Nat) (made : MethodInfo), out.1[i]? = some made → made.dispatches = true →
      made.slot ≠ some s) →
    out.2[s]? = some entry
  /-- an entry is one of the table, or that of a virtual method with this slot -/
  entries : ∀ (s : Nat) (entry : MethodRef), out.2[s]? = some entry → table[s]? = some entry ∨
    ∃ (i : Nat) (made : MethodInfo), out.1[i]? = some made ∧ made.dispatches = true ∧
      made.slot = some s ∧ entry = ⟨type, index + i⟩

/-- Without methods the table stays as it is. -/
theorem linked_nil (type : TypeHandle) (index : Nat) (table : List MethodRef) :
    Linked type index [] table ([], table) where
  length := rfl
  untouched _ _ h := by simp at h
  linked _ _ h := by simp at h
  kept _ _ h _ := h
  entries _ _ h := .inl h

/-- A method that is not virtual comes first, and takes no slot. -/
theorem Linked.skip (h : Linked type (index + 1) rest table out)
    (hdirect : method.dispatches = false) :
    Linked type index (method :: rest) table (method :: out.1, out.2) := by
  refine ⟨congrArg (· + 1) h.length, ?untouched, ?linked, ?kept, ?entries⟩
  case untouched =>
    intro i found hfound hnot
    cases i with
    | zero => exact hfound
    | succ i => exact h.untouched i found hfound hnot
  case linked =>
    intro i found hfound hvirtual
    cases i with
    | zero =>
        obtain rfl : method = found := by simpa using hfound
        exact absurd (hdirect.symm.trans hvirtual) Bool.false_ne_true
    | succ i =>
        obtain ⟨slot, hmade, hplaced⟩ := h.linked i found hfound hvirtual
        exact ⟨slot, hmade, by rwa [ref_succ] at hplaced⟩
  case kept =>
    intro s entry hentry hfree
    exact h.kept s entry hentry fun i made hmade => hfree (i + 1) made hmade
  case entries =>
    intro s entry hentry
    rcases h.entries s entry hentry with hold | ⟨i, made, hmade, hvirtual, hslot, heq⟩
    · exact .inl hold
    · exact .inr ⟨i + 1, made, hmade, hvirtual, hslot, heq.trans (ref_succ type index i)⟩

/-- A virtual method comes first and takes a slot, which it keeps. -/
theorem Linked.place
    (h : Linked type (index + 1) rest (fill table (slotIn reg method table) ⟨type, index⟩) out)
    (hvirtual : method.dispatches = true)
    (hplaced : out.2[slotIn reg method table]? = some ⟨type, index⟩) :
    Linked type index (method :: rest) table
      ({ method with slot := some (slotIn reg method table) } :: out.1, out.2) := by
  have hfill := getElem?_fill (slotIn_le reg method table) ⟨type, index⟩
  refine ⟨congrArg (· + 1) h.length, ?untouched, ?linked, ?kept, ?entries⟩
  case untouched =>
    intro i found hfound hnot
    cases i with
    | zero =>
        obtain rfl : method = found := by simpa using hfound
        exact absurd (hnot.symm.trans hvirtual) Bool.false_ne_true
    | succ i => exact h.untouched i found hfound hnot
  case linked =>
    intro i found hfound hfoundVirtual
    cases i with
    | zero =>
        obtain rfl : method = found := by simpa using hfound
        exact ⟨slotIn reg method table, rfl, hplaced⟩
    | succ i =>
        obtain ⟨slot, hmade, hback⟩ := h.linked i found hfound hfoundVirtual
        exact ⟨slot, hmade, by rwa [ref_succ] at hback⟩
  case kept =>
    intro s entry hentry hfree
    -- The first method takes its slot, so a free slot is another one.
    have hs : s ≠ slotIn reg method table := by
      intro heq
      exact hfree 0 _ rfl hvirtual (congrArg some heq.symm)
    have hold : (fill table (slotIn reg method table) ⟨type, index⟩)[s]? = some entry := by
      rw [hfill, if_neg hs]
      exact hentry
    exact h.kept s entry hold fun i made hmade => hfree (i + 1) made hmade
  case entries =>
    intro s entry hentry
    rcases h.entries s entry hentry with hold | ⟨i, made, hmade, hmadeVirtual, hslot, heq⟩
    · rw [hfill] at hold
      by_cases hs : s = slotIn reg method table
      · rw [if_pos hs] at hold
        exact .inr ⟨0, _, rfl, hvirtual, congrArg some hs.symm, (Option.some.inj hold).symm⟩
      · rw [if_neg hs] at hold
        exact .inl hold
    · exact .inr ⟨i + 1, made, hmade, hmadeVirtual, hslot, heq.trans (ref_succ type index i)⟩

/-- What comes out when a type that is not published gives its methods their slots. -/
theorem linked_assignSlots (hnew : reg.get type = none) (methods : List MethodInfo) (index : Nat)
    (table : List MethodRef) :
    Linked type index methods table (assignSlots reg type index methods table) := by
  induction methods generalizing index table with
  | nil => exact linked_nil type index table
  | cons method rest ih =>
      cases hvirtual : method.dispatches with
      | true =>
          have hfilled : (fill table (slotIn reg method table) ⟨type, index⟩)[
              slotIn reg method table]? = some ⟨type, index⟩ := by
            rw [getElem?_fill (slotIn_le reg method table), if_pos rfl]
          have hplaced := getElem?_assignSlots hnew rest (index + 1) hfilled rfl
          have hplace := (ih (index + 1) _).place hvirtual hplaced
          rw [assignSlots_of_virtual hvirtual]
          exact hplace
      | false =>
          have hskip := (ih (index + 1) table).skip hvirtual
          rw [assignSlots_of_direct hvirtual]
          exact hskip

/-- A method that comes out was there before, virtual or not as it was. -/
theorem Linked.described (h : Linked type index methods table out) {i : Nat} {made : MethodInfo}
    (hmade : out.1[i]? = some made) :
    ∃ method, methods[i]? = some method ∧ made.dispatches = method.dispatches := by
  have hlt : i < methods.length := by
    have hout := (List.getElem?_eq_some_iff.mp hmade).1
    have hlength := h.length
    omega
  have hmethod : methods[i]? = some methods[i] := List.getElem?_eq_getElem hlt
  refine ⟨methods[i], hmethod, ?_⟩
  cases hvirtual : methods[i].dispatches with
  | true =>
      obtain ⟨slot, hslot, -⟩ := h.linked i _ hmethod hvirtual
      obtain rfl := Option.some.inj (hmade.symm.trans hslot)
      exact hvirtual
  | false =>
      obtain rfl := Option.some.inj (hmade.symm.trans (h.untouched i _ hmethod hvirtual))
      exact hvirtual

/-- A virtual method has a slot, and the table leads from the slot to the method. -/
theorem Linked.slot (h : Linked type index methods table out) {i : Nat} {made : MethodInfo}
    (hmade : out.1[i]? = some made) (hvirtual : made.dispatches = true) :
    ∃ slot, made.slot = some slot ∧ out.2[slot]? = some ⟨type, index + i⟩ := by
  obtain ⟨method, hmethod, hsame⟩ := h.described hmade
  obtain ⟨slot, hslot, hback⟩ := h.linked i method hmethod (hsame.symm.trans hvirtual)
  obtain rfl := Option.some.inj (hmade.symm.trans hslot)
  exact ⟨slot, rfl, hback⟩

/-- Virtual methods in one slot are one method. -/
theorem Linked.unique (h : Linked type index methods table out) {i j : Nat}
    {made other : MethodInfo} (hmade : out.1[i]? = some made) (hother : out.1[j]? = some other)
    (hvirtual : made.dispatches = true) (hotherVirtual : other.dispatches = true)
    (hslots : made.slot = other.slot) : i = j := by
  obtain ⟨slot, hslot, hback⟩ := h.slot hmade hvirtual
  obtain ⟨slot', hslot', hback'⟩ := h.slot hother hotherVirtual
  have hsame : slot = slot' := Option.some.inj (hslot.symm.trans (hslots.trans hslot'))
  rw [hsame, hback'] at hback
  have hindex := congrArg MethodRef.index (Option.some.inj hback)
  have hpositions : index + j = index + i := hindex
  omega

/-! ### Types that are built -/

/-- The slots of a type that was built from a description in a registry, and the methods in them. -/
structure LinksSlots (reg : Registry) (b : Blueprint) (type : TypeHandle) (built : TypeInfo) :
    Prop where
  /-- there is one method for each described one -/
  length : built.methods.length = b.methods.length
  /-- every virtual method has a slot, and the table leads from the slot to the method -/
  slot : ∀ (i : Nat) (made : MethodInfo), built.methods[i]? = some made →
    made.dispatches = true →
    ∃ slot, made.slot = some slot ∧ built.dispatchTable[slot]? = some ⟨type, i⟩ ∧
      (reg.publish built).methodAt ⟨type, i⟩ = some made
  /-- different virtual methods have different slots -/
  apart : ∀ (i j : Nat) (made other : MethodInfo), built.methods[i]? = some made →
    built.methods[j]? = some other → made.dispatches = true → other.dispatches = true → i ≠ j →
    made.slot ≠ other.slot
  /-- a slot of the base that no virtual method takes has the entry of the base -/
  inherited : ∀ (base : TypeHandle) (info : TypeInfo), Registry.builtBase b = some base →
    reg.get base = some info → ∀ (s : Nat) (entry : MethodRef),
    info.dispatchTable[s]? = some entry →
    (∀ (i : Nat) (made : MethodInfo), built.methods[i]? = some made → made.dispatches = true →
      made.slot ≠ some s) →
    built.dispatchTable[s]? = some entry
  /-- an entry is that of a virtual method with this slot, or one of the base -/
  entries : ∀ (s : Nat) (entry : MethodRef), built.dispatchTable[s]? = some entry →
    (∃ (i : Nat) (made : MethodInfo), built.methods[i]? = some made ∧ made.dispatches = true ∧
      made.slot = some s ∧ entry = ⟨type, i⟩) ∨
    ∃ base info, Registry.builtBase b = some base ∧ reg.get base = some info ∧
      info.dispatchTable[s]? = some entry
  /-- a method that is not virtual is the described one, with the slot that it brought along -/
  untouched : ∀ (i : Nat) (method : MethodInfo),
    (Registry.describedMethods b)[i]? = some method → method.dispatches = false →
    built.methods[i]? = some method
  /-- a virtual method is the described one but for its slot -/
  virtual : ∀ (i : Nat) (method : MethodInfo),
    (Registry.describedMethods b)[i]? = some method → method.dispatches = true →
    ∃ slot, built.methods[i]? = some { method with slot := some slot }

/-- Slots and methods point at each other, in every type that is built.

The type may have any methods, the same name and parameters any number of times included, and any
base that is published, or none. It is not published itself while it is built: its handle is a
reserved one (`Registry.Ledger.reserved`). -/
theorem build_linksSlots (b : Blueprint) (type : TypeHandle) (reg : Registry)
    (hnew : reg.get type = none) : LinksSlots reg b type (b.build type reg) := by
  have hlinked : Linked type 0 (Registry.describedMethods b)
      (baseTable reg (Registry.builtBase b))
      ((b.build type reg).methods, (b.build type reg).dispatchTable) :=
    linked_assignSlots hnew (Registry.describedMethods b) 0 _
  refine ⟨?length, ?slot, ?apart, ?inherited, ?entries, hlinked.untouched, ?virtual⟩
  case length =>
    have hdescribed : (Registry.describedMethods b).length = b.methods.length := List.length_map _
    exact hlinked.length.trans hdescribed
  case slot =>
    intro i made hmade hvirtual
    obtain ⟨slot, hslot, hback⟩ := hlinked.slot hmade hvirtual
    rw [Nat.zero_add] at hback
    refine ⟨slot, hslot, hback, ?_⟩
    have hget : (reg.publish (b.build type reg)).get type = some (b.build type reg) :=
      Registry.get_publish_self reg (b.build type reg)
    simp [Registry.methodAt, hget, hmade]
  case apart =>
    intro i j made other hmade hother hvirtual hotherVirtual hne hslots
    exact hne (hlinked.unique hmade hother hvirtual hotherVirtual hslots)
  case inherited =>
    intro base info hbase hinfo s entry hentry hfree
    have htable : baseTable reg (Registry.builtBase b) = info.dispatchTable := by
      simp [baseTable, hbase, hinfo]
    rw [htable] at hlinked
    exact hlinked.kept s entry hentry hfree
  case entries =>
    intro s entry hentry
    rcases hlinked.entries s entry hentry with hold | ⟨i, made, hmade, hvirtual, hslot, heq⟩
    · exact .inr (Registry.baseTable_eq_some hold)
    · rw [Nat.zero_add] at heq
      exact .inl ⟨i, made, hmade, hvirtual, hslot, heq⟩
  case virtual =>
    intro i method hmethod hvirtual
    obtain ⟨slot, hmade, -⟩ := hlinked.linked i method hmethod hvirtual
    exact ⟨slot, hmade⟩

/-- A finch is a bird that declares singing twice, with a static method in between. -/
def finch : Blueprint :=
  let sing (answer : String) : MethodInfo :=
    (MethodInfo.reading "Finch" "Sing" [] .string (pure (.string answer))).asVirtual
  let count : MethodInfo := .static "Count" [] .int32 (pure (.int32 0))
  ((((Blueprint.reference "Finch").extending "Bird" (.ofIndex 9)).withMethod
    (sing "first")).withMethod count).withMethod (sing "second")

/-- The first singing method takes over the slot of the bird, the second one has a new slot, and the
bird's other slot still has the bird's method. -/
theorem build_linksSlots_finch :
    Registry.aviary.get (.ofIndex 10) = none ∧
      LinksSlots Registry.aviary finch (.ofIndex 10) (finch.build (.ofIndex 10) Registry.aviary) ∧
      (finch.build (.ofIndex 10) Registry.aviary).methods.map (·.slot) =
        [some 1, none, some 2] ∧
      (finch.build (.ofIndex 10) Registry.aviary).dispatchTable =
        [⟨.ofIndex 9, 0⟩, ⟨.ofIndex 10, 0⟩, ⟨.ofIndex 10, 2⟩] := by
  have hnew : Registry.aviary.get (.ofIndex 10) = none := rfl
  exact ⟨hnew, build_linksSlots finch (.ofIndex 10) Registry.aviary hnew, rfl, rfl⟩

end Introspect.Blueprint
