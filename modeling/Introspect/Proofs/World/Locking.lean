import Introspect.World

/-!
# `Introspect.Proofs.World.Locking`: objects that no one holds

`Unlocked` says that no thread holds an object. Such an object can be locked in either mode
(`lock_of_unlocked`), which changes nothing but the lock table (`lock_eq`). A guard that is ended
right away leaves no trace: `undisturbed_unlock` says so. The lock table may then be written down in
another way, with an entry for a free lock, so `Undisturbed` compares what it says and not how.
-/

set_option autoImplicit false

namespace Introspect

namespace LockTable

/-- Taking an entry off a list does not change the others. -/
theorem lookup_filter_ne {α : Type} {object other : Nat} (h : other ≠ object)
    (states : List (Nat × α)) :
    (states.filter (·.1 != object)).lookup other = states.lookup other := by
  induction states with
  | nil => rfl
  | cons entry rest ih =>
      obtain ⟨key, state⟩ := entry
      by_cases hkey : key = object
      · subst hkey
        have hbeq : (other == key) = false := by simpa using h
        simp [List.lookup_cons, hbeq, ih]
      · simp [List.lookup_cons, hkey, ih]

/-- Writing the lock of one object leaves the other locks alone. -/
theorem state_setState_of_ne (table : LockTable) {object other : Nat} (h : other ≠ object)
    (state : LockState) : (table.setState object state).state other = table.state other := by
  have hbeq : (other == object) = false := by simpa using h
  simp [setState, LockTable.state, List.lookup_cons, hbeq, lookup_filter_ne h]

variable {table : LockTable} {thread : ThreadId} {object : Nat}

/-- A free lock that the thread does not hold is granted. -/
theorem acquire_of_free (hheld : table.holdOf thread object = none)
    (hfree : table.state object = .free) (mode : Hold) :
    ∃ next, table.acquire thread object mode = .ok next := by
  unfold acquire
  rw [hheld, hfree]
  cases mode <;> exact ⟨_, rfl⟩

/-- A free lock that was taken and given back is free again, and the holds are as before. -/
theorem release_acquire {next : LockTable} {mode : Hold} (hfree : table.state object = .free)
    (h : table.acquire thread object mode = .ok next) :
    (next.release thread object mode).holds = table.holds ∧
      ∀ other, (next.release thread object mode).state other = table.state other := by
  unfold acquire at h
  rw [hfree] at h
  split at h
  · simp at h
  · obtain ⟨state, hgrant, hdrop⟩ :
        ∃ state, grant .free mode = some state ∧ drop state = .free := by
      cases mode <;> exact ⟨_, rfl, rfl⟩
    simp only [hgrant, Except.ok.injEq] at h
    subst h
    refine ⟨by simp [release, setState], fun other => ?_⟩
    by_cases hother : other = object
    · subst hother
      calc _ = drop ((table.setState other state).state other) := state_setState_self _ _ _
        _ = drop state := by rw [state_setState_self]
        _ = table.state other := by rw [hdrop, hfree]
    · calc _ = (table.setState object state).state other := state_setState_of_ne _ hother _
        _ = table.state other := state_setState_of_ne _ hother _

end LockTable

namespace World

/-- No thread holds the object. -/
def Unlocked (w : World) (object : ObjectRef) : Prop :=
  w.locks.state object.id = .free ∧ ∀ thread, w.locks.holdOf thread object.id = none

/-- Between two worlds nothing has changed, and the same locks are held. -/
structure Undisturbed (before after : World) : Prop where
  same : after = { before with locks := after.locks }
  holds : after.locks.holds = before.locks.holds
  states : ∀ object, after.locks.state object = before.locks.state object

variable {w locked : World} {object : ObjectRef} {mode : Hold}

/-- A lock that was taken changed the lock table only. -/
theorem lock_eq (h : w.lock object mode = .ok locked) :
    w.locks.acquire w.thread object.id mode = .ok locked.locks ∧
      locked = { w with locks := locked.locks } := by
  unfold lock at h
  split at h
  · next locks hlocks =>
      obtain rfl : _ = locked := by simpa using h
      exact ⟨hlocks, rfl⟩
  · simp at h
  · simp at h

/-- An object that no one holds can be locked. -/
theorem lock_of_unlocked (h : w.Unlocked object) (mode : Hold) :
    ∃ locked, w.lock object mode = .ok locked := by
  obtain ⟨next, hnext⟩ := LockTable.acquire_of_free (h.2 w.thread) h.1 mode
  exact ⟨{ w with locks := next }, by simp [lock, hnext]⟩

/-- A guard that is ended right away leaves no trace. -/
theorem undisturbed_unlock (hfree : w.Unlocked object) (h : w.lock object mode = .ok locked) :
    Undisturbed w (locked.unlock object mode) := by
  obtain ⟨hacquire, hlocked⟩ := lock_eq h
  have hthread : locked.thread = w.thread := by rw [hlocked]
  obtain ⟨hholds, hstates⟩ := LockTable.release_acquire hfree.1 hacquire
  refine ⟨?_, ?_, fun other => ?_⟩
  · rw [unlock, hlocked]
  · rw [unlock, hthread]
    exact hholds
  · rw [unlock, hthread]
    exact hstates other

end World

end Introspect
