import Introspect.Proofs.Registry.Assembly

/-!
# `Introspect.Proofs.Dispatch.Slots`: the slots of one type's methods

`assignSlots` goes through the methods of a type that is not published yet, and through the table of
its base. Each virtual method takes the slot of the method that it overrides, or a new one.

`Assigned` says what comes out, for a table of pairwise different signatures: a virtual method is in
the slot that it was given and in no other; every slot of the table is still there, with its old
entry or with a method of the same signature; and an entry is gone when there is such a method.
`assigned` proves it by induction on the methods, with one lemma for each kind of method. The method
that comes first leaves the signatures in the table pairwise different, since a method of an
unpublished type has none there.
-/

set_option autoImplicit false

namespace Introspect.Blueprint

variable {reg : Registry} {type : TypeHandle} {method : MethodInfo} {methods rest : List MethodInfo}
  {table : List MethodRef} {index slot : Nat} {entry old : MethodRef}

/-- The method in a slot has the signature of another method. -/
def Matches (reg : Registry) (method : MethodInfo) (slot : MethodRef) : Prop :=
  ∃ found, reg.methodAt slot = some found ∧ found.SameSignature method

/-- The test for a signature finds the methods of that signature. -/
theorem hasSignature_iff :
    hasSignature reg method.name method.paramTypes entry = true ↔ Matches reg method entry := by
  unfold hasSignature Matches MethodInfo.SameSignature
  rw [show (reg.get entry.declaring).bind (·.methods[entry.index]?) = reg.methodAt entry from rfl]
  cases reg.methodAt entry with
  | none => simp
  | some found => simp

/-- A method that matches is that of a published type. -/
theorem Matches.declaring_ne (h : Matches reg method entry) (hnew : reg.get type = none) :
    entry.declaring ≠ type := by
  obtain ⟨found, hfound, -⟩ := h
  rintro rfl
  simp [Registry.methodAt, hnew] at hfound

/-! ### Filling one slot -/

/-- The slot that a method takes. -/
def slotIn (reg : Registry) (method : MethodInfo) (table : List MethodRef) : Nat :=
  (table.findIdx? (hasSignature reg method.name method.paramTypes)).getD table.length

/-- A table with an entry in a slot, which is one of the table or the next one. -/
def fill (table : List MethodRef) (slot : Nat) (entry : MethodRef) : List MethodRef :=
  if slot < table.length then table.set slot entry else table ++ [entry]

/-- A filled slot has its entry, and the other slots are as before. -/
theorem getElem?_fill (h : slot ≤ table.length) (entry : MethodRef) (s : Nat) :
    (fill table slot entry)[s]? = if s = slot then some entry else table[s]? := by
  unfold fill
  split
  · next hlt =>
      rw [List.getElem?_set]
      by_cases hs : s = slot
      · subst hs
        simp [hlt]
      · simp [hs, Ne.symm hs]
  · next hge =>
      have hslot : slot = table.length := by omega
      subst hslot
      rw [List.getElem?_append]
      by_cases hs : s = table.length
      · subst hs
        simp
      · by_cases hlt : s < table.length
        · simp [hs, hlt]
        · have hout : s - table.length ≠ 0 := by omega
          simp [hs, hlt, hout]

/-- A method takes a slot whose method it matches, or the slot after the last one when it matches no
method of the table. -/
theorem slotIn_cases (reg : Registry) (method : MethodInfo) (table : List MethodRef) :
    (∃ entry, table[slotIn reg method table]? = some entry ∧ Matches reg method entry) ∨
      (slotIn reg method table = table.length ∧
        ∀ (s : Nat) (entry : MethodRef), table[s]? = some entry →
          ¬ Matches reg method entry) := by
  unfold slotIn
  cases hfind : table.findIdx? (hasSignature reg method.name method.paramTypes) with
  | none =>
      refine .inr ⟨rfl, fun s entry hentry hmatches => ?_⟩
      have hfalse := List.findIdx?_eq_none_iff.mp hfind entry (List.mem_of_getElem? hentry)
      rw [hasSignature_iff.mpr hmatches] at hfalse
      contradiction
  | some slot =>
      obtain ⟨hlt, hmatches, -⟩ := List.findIdx?_eq_some_iff_getElem.mp hfind
      exact .inl ⟨table[slot], List.getElem?_eq_getElem hlt, hasSignature_iff.mp hmatches⟩

/-- A method takes no slot beyond the next one. -/
theorem slotIn_le (reg : Registry) (method : MethodInfo) (table : List MethodRef) :
    slotIn reg method table ≤ table.length := by
  rcases slotIn_cases reg method table with ⟨entry, hentry, -⟩ | ⟨heq, -⟩
  · exact Nat.le_of_lt (List.getElem?_eq_some_iff.mp hentry).1
  · exact Nat.le_of_eq heq

/-- What is in the slot that a method takes has the signature of that method. -/
theorem matches_of_slotIn (h : table[slotIn reg method table]? = some old) :
    Matches reg method old := by
  rcases slotIn_cases reg method table with ⟨other, hother, hmatches⟩ | ⟨hend, -⟩
  · obtain rfl := Option.some.inj (hother.symm.trans h)
    exact hmatches
  · rw [hend, List.getElem?_eq_none (Nat.le_refl _)] at h
    cases h

/-- A virtual method takes its slot, and the others get theirs in the table with that slot
filled. -/
theorem assignSlots_of_virtual (hvirtual : method.dispatches = true) :
    assignSlots reg type index (method :: rest) table =
      ({ method with slot := some (slotIn reg method table) } ::
          (assignSlots reg type (index + 1) rest
            (fill table (slotIn reg method table) ⟨type, index⟩)).1,
        (assignSlots reg type (index + 1) rest
          (fill table (slotIn reg method table) ⟨type, index⟩)).2) := by
  simp only [assignSlots, hvirtual, if_true]
  rfl

/-- A method that is not virtual stays as it is, and so does the table. -/
theorem assignSlots_of_direct (hdirect : method.dispatches = false) :
    assignSlots reg type index (method :: rest) table =
      (method :: (assignSlots reg type (index + 1) rest table).1,
        (assignSlots reg type (index + 1) rest table).2) := by
  simp only [assignSlots, hdirect, Bool.false_eq_true, if_false]

/-! ### Filling the slots of all methods -/

/-- No two methods of a table match the same method. -/
def Distinct (reg : Registry) (table : List MethodRef) : Prop :=
  ∀ {s s' : Nat} {entry entry' : MethodRef} {method : MethodInfo}, table[s]? = some entry →
    table[s']? = some entry' → Matches reg method entry → Matches reg method entry' → s = s'

/-- The table has no method of the type from a position on. -/
def Before (type : TypeHandle) (index : Nat) (table : List MethodRef) : Prop :=
  ∀ {s : Nat} {entry : MethodRef}, table[s]? = some entry → entry.declaring = type →
    entry.index < index

/-- What comes out when the methods from a position on are given their slots. -/
structure Assigned (reg : Registry) (type : TypeHandle) (index : Nat) (methods : List MethodInfo)
    (table : List MethodRef) (out : List MethodInfo × List MethodRef) : Prop where
  /-- each method is kept, but for its slot -/
  kept : ∀ {i : Nat} {method : MethodInfo}, methods[i]? = some method →
    ∃ slot, out.1[i]? = some { method with slot }
  /-- there are no other methods -/
  back : ∀ {i : Nat} {made : MethodInfo}, out.1[i]? = some made →
    ∃ method, methods[i]? = some method ∧ made = { method with slot := made.slot }
  /-- a virtual method is in the slot that it was given, and in no other -/
  placed : ∀ {i : Nat} {made : MethodInfo}, out.1[i]? = some made → made.dispatches = true →
    ∃ slot, made.slot = some slot ∧ ∀ s : Nat, out.2[s]? = some ⟨type, index + i⟩ ↔ s = slot
  /-- an entry is an old one or a virtual method, which matches the old one -/
  entry : ∀ {s : Nat} {new : MethodRef}, out.2[s]? = some new → table[s]? = some new ∨
    ∃ (i : Nat) (method : MethodInfo), methods[i]? = some method ∧ method.dispatches = true ∧
      new = ⟨type, index + i⟩ ∧ ∀ old, table[s]? = some old → Matches reg method old
  /-- no slot is lost -/
  slots : ∀ {s : Nat} {old : MethodRef}, table[s]? = some old → ∃ new, out.2[s]? = some new
  /-- a method that is matched by a virtual one is gone -/
  overridden : ∀ {s i : Nat} {old : MethodRef} {method : MethodInfo}, table[s]? = some old →
    methods[i]? = some method → method.dispatches = true → Matches reg method old →
    out.2[s]? ≠ some old

/-- Without methods the table stays as it is. -/
theorem assigned_nil (reg : Registry) (type : TypeHandle) (index : Nat) (table : List MethodRef) :
    Assigned reg type index [] table ([], table) where
  kept h := by simp at h
  back h := by simp at h
  placed h := by simp at h
  entry h := .inl h
  slots {s old} h := ⟨old, h⟩
  overridden _ h := by simp at h

/-- Positions behind the first method are counted from the next index. -/
theorem ref_succ (type : TypeHandle) (index i : Nat) :
    MethodRef.mk type (index + 1 + i) = ⟨type, index + (i + 1)⟩ :=
  congrArg (MethodRef.mk type) (by omega)

/-- A method that is not virtual takes no slot. -/
theorem Assigned.skip {out : List MethodInfo × List MethodRef}
    (h : Assigned reg type (index + 1) rest table out) (hdirect : method.dispatches = false) :
    Assigned reg type index (method :: rest) table (method :: out.1, out.2) where
  kept {i found} hfound := by
    cases i with
    | zero => exact ⟨found.slot, by simpa using hfound⟩
    | succ i => exact h.kept hfound
  back {i made} hmade := by
    cases i with
    | zero => exact ⟨made, by simpa using hmade, rfl⟩
    | succ i => exact h.back hmade
  placed {i made} hmade hvirtual := by
    cases i with
    | zero =>
        obtain rfl : method = made := by simpa using hmade
        simp [hdirect] at hvirtual
    | succ i =>
        obtain ⟨slot, hslot, hplaced⟩ := h.placed hmade hvirtual
        exact ⟨slot, hslot, by rwa [ref_succ] at hplaced⟩
  entry {s new} hnew := by
    rcases h.entry hnew with hold | ⟨i, found, hfound, hvirtual, heq, hmatches⟩
    · exact .inl hold
    · exact .inr ⟨i + 1, found, hfound, hvirtual, heq.trans (ref_succ type index i), hmatches⟩
  slots hold := h.slots hold
  overridden {s i old found} hold hfound hvirtual hmatches := by
    cases i with
    | zero =>
        obtain rfl : method = found := by simpa using hfound
        simp [hdirect] at hvirtual
    | succ i => exact h.overridden hold hfound hvirtual hmatches

/-- A slot that was filled with a method of the type stays with that method. -/
theorem Assigned.filled {out : List MethodInfo × List MethodRef}
    (h : Assigned reg type (index + 1) rest (fill table slot ⟨type, index⟩) out)
    (hnew : reg.get type = none) (hslot : slot ≤ table.length) :
    out.2[slot]? = some ⟨type, index⟩ := by
  have hfilled : (fill table slot ⟨type, index⟩)[slot]? = some ⟨type, index⟩ := by
    rw [getElem?_fill hslot, if_pos rfl]
  obtain ⟨entry, hentry⟩ := h.slots hfilled
  rcases h.entry hentry with hold | ⟨i, found, -, -, -, hmatches⟩
  · rw [hentry, ← hold, hfilled]
  · exact absurd rfl ((hmatches _ hfilled).declaring_ne hnew)

/-- A slot that was filled with a method of the type is the only one with that method. -/
theorem Assigned.filled_iff {out : List MethodInfo × List MethodRef} {s : Nat}
    (h : Assigned reg type (index + 1) rest (fill table slot ⟨type, index⟩) out)
    (hnew : reg.get type = none) (hslot : slot ≤ table.length)
    (hbefore : Before type index table) : out.2[s]? = some ⟨type, index⟩ ↔ s = slot := by
  constructor
  · intro hs
    rcases h.entry hs with hold | ⟨i, found, -, -, heq, -⟩
    · rw [getElem?_fill hslot] at hold
      split at hold
      · next heq => exact heq
      · exact absurd (hbefore hold rfl) (Nat.lt_irrefl index)
    · have hindex := congrArg MethodRef.index heq
      simp only at hindex
      omega
  · rintro rfl
    exact h.filled hnew hslot

/-- An entry behind the filling of a slot is an old one, the filling, or a later method, which
matches the old one. -/
theorem Assigned.entry_filled {out : List MethodInfo × List MethodRef} {s : Nat} {new : MethodRef}
    (h : Assigned reg type (index + 1) rest (fill table slot ⟨type, index⟩) out)
    (hnew : reg.get type = none) (hslot : slot ≤ table.length) (hentry : out.2[s]? = some new) :
    table[s]? = some new ∨ (s = slot ∧ new = ⟨type, index⟩) ∨
      ∃ (i : Nat) (found : MethodInfo), rest[i]? = some found ∧ found.dispatches = true ∧
        new = ⟨type, index + (i + 1)⟩ ∧ ∀ old, table[s]? = some old → Matches reg found old := by
  have hfill := getElem?_fill hslot ⟨type, index⟩ s
  rcases h.entry hentry with hold | ⟨i, found, hfound, hvirtual, heq, hmatches⟩
  · rw [hfill] at hold
    split at hold
    · next hs => exact .inr (.inl ⟨hs, (Option.some.inj hold).symm⟩)
    · exact .inl hold
  · refine .inr (.inr ⟨i, found, hfound, hvirtual, heq.trans (ref_succ type index i), ?_⟩)
    intro old hold
    by_cases hs : s = slot
    · -- A later method matches no method of the type, so it is not in the slot of this one.
      have hown := hmatches ⟨type, index⟩ (by rw [hfill, if_pos hs])
      exact absurd rfl (hown.declaring_ne hnew)
    · exact hmatches old (by rw [hfill, if_neg hs, hold])

/-- A virtual method takes its slot, and no later method takes it away. -/
theorem Assigned.place {out : List MethodInfo × List MethodRef} (hnew : reg.get type = none)
    (hbefore : Before type index table) (hdistinct : Distinct reg table)
    (h : Assigned reg type (index + 1) rest
      (fill table (slotIn reg method table) ⟨type, index⟩) out)
    (hvirtual : method.dispatches = true) :
    Assigned reg type index (method :: rest) table
      ({ method with slot := some (slotIn reg method table) } :: out.1, out.2) := by
  have hslot := slotIn_le reg method table
  have hfill := getElem?_fill hslot ⟨type, index⟩
  refine ⟨?kept, ?back, ?placed, ?entry, ?slots, ?overridden⟩
  case kept =>
    intro i found hfound
    cases i with
    | zero =>
        obtain rfl : method = found := by simpa using hfound
        exact ⟨_, rfl⟩
    | succ i => exact h.kept hfound
  case back =>
    intro i made hmade
    cases i with
    | zero =>
        obtain rfl : { method with slot := some (slotIn reg method table) } = made := by
          simpa using hmade
        exact ⟨method, rfl, rfl⟩
    | succ i => exact h.back hmade
  case placed =>
    intro i made hmade hmadeVirtual
    cases i with
    | zero =>
        obtain rfl : { method with slot := some (slotIn reg method table) } = made := by
          simpa using hmade
        exact ⟨_, rfl, fun s => h.filled_iff hnew hslot hbefore⟩
    | succ i =>
        obtain ⟨slot, hgiven, hplaced⟩ := h.placed hmade hmadeVirtual
        exact ⟨slot, hgiven, by rwa [ref_succ] at hplaced⟩
  case entry =>
    intro s new hentry
    rcases h.entry_filled hnew hslot hentry with
      hold | ⟨rfl, rfl⟩ | ⟨i, found, hfound, hfoundVirtual, heq, hmatches⟩
    · exact .inl hold
    · exact .inr ⟨0, method, rfl, hvirtual, rfl, fun old hold => matches_of_slotIn hold⟩
    · exact .inr ⟨i + 1, found, hfound, hfoundVirtual, heq, hmatches⟩
  case slots =>
    intro s old hold
    by_cases hs : s = slotIn reg method table
    · exact ⟨_, hs ▸ h.filled hnew hslot⟩
    · exact h.slots (by rw [hfill, if_neg hs, hold])
  case overridden =>
    intro s i old found hold hfound hfoundVirtual hmatches
    by_cases hs : s = slotIn reg method table
    · rw [hs, h.filled hnew hslot]
      intro heq
      exact hmatches.declaring_ne hnew (congrArg MethodRef.declaring (Option.some.inj heq)).symm
    · cases i with
      | zero =>
          obtain rfl : method = found := by simpa using hfound
          rcases slotIn_cases reg method table with ⟨other, hother, hmatches'⟩ | ⟨-, hnone⟩
          · exact absurd (hdistinct hold hother hmatches hmatches') hs
          · exact absurd hmatches (hnone s old hold)
      | succ i => exact h.overridden (by rw [hfill, if_neg hs, hold]) hfound hfoundVirtual hmatches

/-- A table that was filled with a method of the type holds no later one. -/
theorem Before.fill (hbefore : Before type index table) (hslot : slot ≤ table.length) :
    Before type (index + 1) (fill table slot ⟨type, index⟩) := by
  intro s entry hentry hdeclaring
  rw [getElem?_fill hslot] at hentry
  split at hentry
  · obtain rfl : ⟨type, index⟩ = entry := Option.some.inj hentry
    exact Nat.lt_succ_self index
  · exact Nat.lt_succ_of_lt (hbefore hentry hdeclaring)

/-- A method of a type that is not published matches none. -/
theorem Distinct.fill (hdistinct : Distinct reg table) (hnew : reg.get type = none)
    (hslot : slot ≤ table.length) : Distinct reg (fill table slot ⟨type, index⟩) := by
  have hold : ∀ {s : Nat} {entry : MethodRef} {method : MethodInfo},
      (Blueprint.fill table slot ⟨type, index⟩)[s]? = some entry → Matches reg method entry →
      table[s]? = some entry := by
    intro s entry method hentry hmatches
    rw [getElem?_fill hslot] at hentry
    split at hentry
    · obtain rfl : ⟨type, index⟩ = entry := Option.some.inj hentry
      exact absurd rfl (hmatches.declaring_ne hnew)
    · exact hentry
  intro s s' entry entry' method hentry hentry' hmatches hmatches'
  exact hdistinct (hold hentry hmatches) (hold hentry' hmatches') hmatches hmatches'

/-- What comes out when a type that is not published gives its methods their slots. -/
theorem assigned (hnew : reg.get type = none) (methods : List MethodInfo)
    (hbefore : Before type index table) (hdistinct : Distinct reg table) :
    Assigned reg type index methods table (assignSlots reg type index methods table) := by
  induction methods generalizing index table with
  | nil => exact assigned_nil reg type index table
  | cons method rest ih =>
      cases hvirtual : method.dispatches with
      | true =>
          have hslot := slotIn_le reg method table
          have hrest := ih (hbefore.fill hslot) (hdistinct.fill hnew hslot)
          have hplace := Assigned.place hnew hbefore hdistinct hrest hvirtual
          rw [assignSlots_of_virtual hvirtual]
          exact hplace
      | false =>
          have hskip := Assigned.skip (ih (fun hentry hdeclaring =>
            Nat.lt_succ_of_lt (hbefore hentry hdeclaring)) hdistinct) hvirtual
          rw [assignSlots_of_direct hvirtual]
          exact hskip

/-- An entry of the new table is a virtual method, which matches what was there before, or an old
entry that no virtual method matches. -/
theorem Assigned.entry_cases {out : List MethodInfo × List MethodRef} {s : Nat}
    (h : Assigned reg type index methods table out) (hentry : out.2[s]? = some entry) :
    (∃ (i : Nat) (made : MethodInfo), entry = ⟨type, index + i⟩ ∧ out.1[i]? = some made ∧
        made.dispatches = true ∧ ∀ old, table[s]? = some old → Matches reg made old) ∨
      (table[s]? = some entry ∧ ∀ (i : Nat) (made : MethodInfo), out.1[i]? = some made →
        made.dispatches = true → ¬ Matches reg made entry) := by
  rcases h.entry hentry with hold | ⟨i, found, hfound, hvirtual, heq, hmatches⟩
  · refine .inr ⟨hold, fun i made hmade hvirtual hmatches => ?_⟩
    obtain ⟨found, hfound, heq⟩ := h.back hmade
    rw [heq] at hvirtual hmatches
    exact h.overridden hold hfound hvirtual hmatches hentry
  · obtain ⟨slot, hmade⟩ := h.kept hfound
    exact .inl ⟨i, _, heq, hmade, hvirtual, hmatches⟩

end Introspect.Blueprint
