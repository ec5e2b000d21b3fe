import Introspect.Proofs.World.Locking

/-!
# `Introspect.Proofs.World.Holds`: a lock and the list of its holds

A lock table says twice who has an object: the lock itself says how many, and the list of holds says
who. `LockTable.Consistent` says that the two agree on every object (`LockState.Agrees`). Taking a
lock that can be granted keeps that (`Consistent.take`), and so does the end of a guard whose hold
is on the list (`Consistent.release`).

In a consistent table the outcome of a request can be read off the list. `Hold.excludes` says which
holds stand in the way of which requests. A request is refused as reentrant when a hold of the
thread itself does (`acquire_reentrant_iff`), and the lock is unavailable when only holds of other
threads do (`Consistent.acquire_unavailable_iff`). Otherwise the lock is taken
(`Consistent.acquire_ok_iff`).
-/

set_option autoImplicit false

namespace Introspect

/-- Whether a hold stands in the way of a request. Only a read goes along with a read. -/
def Hold.excludes : Hold → Hold → Bool
  | .shared, .shared => false
  | _, _ => true

/-- Every hold stands in the way of a write. -/
theorem Hold.excludes_exclusive (mode : Hold) : mode.excludes .exclusive = true := by
  cases mode <;> rfl

/-- Only a write stands in the way of a read. -/
theorem Hold.excludes_shared_iff {mode : Hold} :
    mode.excludes .shared = true ↔ mode = .exclusive := by
  cases mode <;> simp [excludes]

/-- The lock of an object says what the modes of its holds are. -/
def LockState.Agrees : LockState → List Hold → Prop
  | .free, modes => modes = []
  | .shared others, modes => modes = List.replicate (others + 1) .shared
  | .exclusive, modes => modes = [.exclusive]

namespace LockState.Agrees

variable {state next : LockState} {modes : List Hold} {mode wanted : Hold}

/-- The order of the holds does not matter, since all are alike. -/
theorem perm {other : List Hold} (h : state.Agrees modes) (hperm : modes.Perm other) :
    state.Agrees other := by
  cases state with
  | free =>
      obtain rfl : modes = [] := h
      exact hperm.symm.eq_nil
  | shared others =>
      obtain rfl : modes = List.replicate (others + 1) .shared := h
      exact List.perm_replicate.mp hperm.symm
  | exclusive =>
      obtain rfl : modes = [.exclusive] := h
      exact List.perm_singleton.mp hperm.symm

/-- A lock that is granted counts the new hold. -/
theorem grant (h : state.Agrees modes) (hgrant : LockTable.grant state wanted = some next) :
    next.Agrees (wanted :: modes) := by
  cases state <;> cases wanted <;> simp [LockTable.grant] at hgrant <;> subst hgrant
  case free.shared => exact congrArg (Hold.shared :: ·) h
  case free.exclusive => exact congrArg (Hold.exclusive :: ·) h
  case shared.shared => exact congrArg (Hold.shared :: ·) h

/-- A lock forgets a hold that ends. -/
theorem drop (h : state.Agrees (mode :: modes)) : (LockTable.drop state).Agrees modes := by
  cases state with
  | free => exact absurd h (by simp [Agrees])
  | shared others =>
      have htail : modes = List.replicate others .shared := by
        have hcons : mode :: modes = .shared :: List.replicate others .shared := h
        exact (List.cons.inj hcons).2
      cases others with
      | zero => exact htail
      | succ others => exact htail
  | exclusive =>
      have hcons : mode :: modes = [.exclusive] := h
      exact (List.cons.inj hcons).2

/-- A lock cannot be granted exactly when one of its holds stands in the way. -/
theorem grant_eq_none_iff (h : state.Agrees modes) :
    LockTable.grant state wanted = none ↔ ∃ mode ∈ modes, mode.excludes wanted = true := by
  cases state with
  | free =>
      obtain rfl : modes = [] := h
      cases wanted <;> simp [LockTable.grant]
  | shared others =>
      obtain rfl : modes = List.replicate (others + 1) .shared := h
      cases wanted <;> simp [LockTable.grant, Hold.excludes, List.mem_replicate]
  | exclusive =>
      obtain rfl : modes = [.exclusive] := h
      cases wanted <;> simp [LockTable.grant, Hold.excludes]

/-- An object has no hold, shared holds only, or one exclusive hold. -/
theorem modes_cases (h : state.Agrees modes) :
    modes = [] ∨ (∀ mode ∈ modes, mode = .shared) ∨ modes = [.exclusive] := by
  cases state with
  | free => exact .inl h
  | shared others =>
      obtain rfl : modes = List.replicate (others + 1) .shared := h
      exact .inr (.inl fun mode hmode => List.eq_of_mem_replicate hmode)
  | exclusive => exact .inr (.inr h)

end LockState.Agrees

/-- The modes of the holds on an object, of all threads. -/
def modesOn (holds : List (ThreadId × Nat × Hold)) (object : Nat) : List Hold :=
  (holds.filter (·.2.1 = object)).map (·.2.2)

section
variable {holds : List (ThreadId × Nat × Hold)} {thread : ThreadId} {object other : Nat}
variable {mode : Hold}

theorem mem_modesOn_iff :
    mode ∈ modesOn holds object ↔ ∃ thread, (thread, object, mode) ∈ holds := by
  simp [modesOn]

theorem modesOn_cons_self :
    modesOn ((thread, object, mode) :: holds) object = mode :: modesOn holds object := by
  simp [modesOn]

theorem modesOn_cons_of_ne (h : other ≠ object) :
    modesOn ((thread, object, mode) :: holds) other = modesOn holds other := by
  simp [modesOn, h.symm]

end

namespace LockTable

variable {table next : LockTable} {thread : ThreadId} {object : Nat} {mode held wanted : Hold}

/-- The lock of every object and the list of holds agree. -/
def Consistent (table : LockTable) : Prop :=
  ∀ object, (table.state object).Agrees (modesOn table.holds object)

/-- The table after a lock was granted: the lock and the list of holds know it. -/
def take (table : LockTable) (thread : ThreadId) (object : Nat) (mode : Hold)
    (state : LockState) : LockTable :=
  { table.setState object state with holds := (thread, object, mode) :: table.holds }

/-- A thread holds an object when the list says so. -/
theorem mem_held_iff :
    (object, mode) ∈ table.held thread ↔ (thread, object, mode) ∈ table.holds := by
  simp [LockTable.held, List.mem_filterMap]

/-! ### What a request comes to -/

/-- What a thread's own hold has against a request is a hold on the list that excludes it. -/
theorem mem_holds_of_conflict (h : conflict (table.holdOf thread object) wanted = some held) :
    (thread, object, held) ∈ table.holds ∧ held.excludes wanted = true := by
  rw [← mem_held_iff]
  unfold holdOf at h
  split at h
  · next hexclusive =>
      obtain rfl : Hold.exclusive = held := by cases wanted <;> simpa [conflict] using h
      exact ⟨hexclusive, by cases wanted <;> rfl⟩
  · split at h
    · next hshared =>
        cases wanted with
        | shared => simp [conflict] at h
        | exclusive =>
            obtain rfl : Hold.shared = held := by simpa [conflict] using h
            exact ⟨hshared, rfl⟩
    · cases wanted <;> simp [conflict] at h

/-- A request passes the own list exactly when no hold of the thread excludes it. -/
theorem conflict_eq_none_iff : conflict (table.holdOf thread object) wanted = none ↔
    ∀ mode, mode.excludes wanted = true → (thread, object, mode) ∉ table.holds := by
  constructor
  case mp =>
    intro hnone mode hexcludes hmode
    rw [← mem_held_iff] at hmode
    unfold holdOf at hnone
    split at hnone
    · cases wanted <;> simp [conflict] at hnone
    · next hexclusive =>
        -- The thread's hold is a shared one, and the request a write.
        cases mode with
        | exclusive => exact hexclusive hmode
        | shared =>
            cases wanted with
            | shared => exact absurd hexcludes (by decide)
            | exclusive => simp [hmode, conflict] at hnone
  case mpr =>
    intro hnone
    cases hconflict : conflict (table.holdOf thread object) wanted with
    | none => rfl
    | some held =>
        obtain ⟨hheld, hexcludes⟩ := mem_holds_of_conflict hconflict
        exact absurd hheld (hnone held hexcludes)

theorem acquire_reentrant_iff : table.acquire thread object wanted = .error (.reentrant held) ↔
    conflict (table.holdOf thread object) wanted = some held := by
  unfold acquire
  split
  · next hconflict => simp [hconflict]
  · next hconflict =>
      rw [hconflict]
      split <;> simp

theorem acquire_unavailable_iff : table.acquire thread object wanted = .error .unavailable ↔
    conflict (table.holdOf thread object) wanted = none ∧
      grant (table.state object) wanted = none := by
  unfold acquire
  split
  · next hconflict => simp [hconflict]
  · next hconflict =>
      rw [hconflict]
      split
      · next hgrant => simp [hgrant]
      · next hgrant => simp [hgrant]

theorem acquire_ok_iff : table.acquire thread object wanted = .ok next ↔
    conflict (table.holdOf thread object) wanted = none ∧
      ∃ state, grant (table.state object) wanted = some state ∧
        next = table.take thread object wanted state := by
  unfold acquire
  split
  · next hconflict => simp [hconflict]
  · next hconflict =>
      rw [hconflict]
      split
      · next hgrant => simp [hgrant]
      · next state hgrant => simp [hgrant, take, setState, eq_comm]

/-! ### Tables whose two sides agree -/

theorem Consistent.empty : Consistent .empty := fun _ => rfl

/-- A lock that is granted keeps both sides in step. -/
theorem Consistent.take {state : LockState} (h : table.Consistent)
    (hgrant : grant (table.state object) wanted = some state) :
    (table.take thread object wanted state).Consistent := by
  intro other
  by_cases hother : other = object
  · subst hother
    have hmodes : modesOn (table.take thread other wanted state).holds other
        = wanted :: modesOn table.holds other := modesOn_cons_self
    have hstate : (table.take thread other wanted state).state other = state :=
      state_setState_self table other state
    rw [hmodes, hstate]
    exact (h other).grant hgrant
  · have hmodes : modesOn (table.take thread object wanted state).holds other
        = modesOn table.holds other := modesOn_cons_of_ne hother
    have hstate : (table.take thread object wanted state).state other = table.state other :=
      state_setState_of_ne table hother state
    rw [hmodes, hstate]
    exact h other

/-- The end of a guard keeps both sides in step. -/
theorem Consistent.release (h : table.Consistent) (hheld : (thread, object, mode) ∈ table.holds) :
    (table.release thread object mode).Consistent := by
  intro other
  have hmodes : (modesOn table.holds other).Perm
      (modesOn ((thread, object, mode) :: table.holds.erase (thread, object, mode)) other) :=
    ((List.perm_cons_erase hheld).filter _).map _
  have hagrees := (h other).perm hmodes
  by_cases hother : other = object
  · subst hother
    rw [modesOn_cons_self] at hagrees
    have hstate : (table.release thread other mode).state other = drop (table.state other) :=
      state_setState_self table other _
    rw [hstate]
    exact hagrees.drop
  · rw [modesOn_cons_of_ne hother] at hagrees
    have hstate : (table.release thread object mode).state other = table.state other :=
      state_setState_of_ne table hother _
    rw [hstate]
    exact hagrees

/-- A lock cannot be granted exactly when some hold stands in the way. -/
theorem Consistent.grant_eq_none_iff (h : table.Consistent) :
    grant (table.state object) wanted = none ↔
      ∃ thread mode, mode.excludes wanted = true ∧ (thread, object, mode) ∈ table.holds := by
  rw [(h object).grant_eq_none_iff]
  simp only [mem_modesOn_iff]
  constructor
  case mp =>
    rintro ⟨mode, ⟨thread, hheld⟩, hexcludes⟩
    exact ⟨thread, mode, hexcludes, hheld⟩
  case mpr =>
    rintro ⟨thread, mode, hexcludes, hheld⟩
    exact ⟨mode, ⟨thread, hheld⟩, hexcludes⟩

/-- The lock is unavailable when holds stand in the way, and none of them is the thread's own. -/
theorem Consistent.acquire_unavailable_iff (h : table.Consistent) :
    table.acquire thread object wanted = .error .unavailable ↔
      (∀ mode, mode.excludes wanted = true → (thread, object, mode) ∉ table.holds) ∧
        ∃ other mode, mode.excludes wanted = true ∧ (other, object, mode) ∈ table.holds := by
  rw [LockTable.acquire_unavailable_iff, conflict_eq_none_iff, h.grant_eq_none_iff]

/-- The lock is taken when no hold stands in the way. -/
theorem Consistent.acquire_ok_iff (h : table.Consistent) :
    (∃ next, table.acquire thread object wanted = .ok next) ↔
      ∀ other mode, mode.excludes wanted = true → (other, object, mode) ∉ table.holds := by
  constructor
  case mp =>
    rintro ⟨next, hnext⟩ other mode hexcludes hmode
    obtain ⟨-, state, hgrant, -⟩ := LockTable.acquire_ok_iff.mp hnext
    have hnone := h.grant_eq_none_iff.mpr ⟨other, mode, hexcludes, hmode⟩
    rw [hnone] at hgrant
    cases hgrant
  case mpr =>
    intro hclear
    cases hgrant : grant (table.state object) wanted with
    | none =>
        obtain ⟨other, mode, hexcludes, hmode⟩ := h.grant_eq_none_iff.mp hgrant
        exact absurd hmode (hclear other mode hexcludes)
    | some state =>
        exact ⟨_, LockTable.acquire_ok_iff.mpr
          ⟨conflict_eq_none_iff.mpr (hclear thread), state, hgrant, rfl⟩⟩

end LockTable

end Introspect
