import Introspect.InvokeError

/-!
# `Introspect.Lock`: locks on objects, held by threads

A lock table has two sides. `state` is the lock of each object: free, shared by some number of
holds, or exclusive. `held` lists, for each thread, the holds that its live guards stand for. The
first side decides whether another thread can get in, the second whether the thread itself already
has.

Taking a lock fails in two ways: the thread itself holds the object in a conflicting mode, or
another thread does and outlasts the wait. Both leave the table as it was, which the type of
`acquire` says.
-/

set_option autoImplicit false

namespace Introspect

/-- Identity of a thread. -/
abbrev ThreadId := Nat

/-- The lock of one object. -/
inductive LockState
  | free
  /-- at least one shared hold: this many besides the first -/
  | shared (others : Nat)
  | exclusive
  deriving DecidableEq

/-- The locks of all objects and the holds of all threads. -/
structure LockTable where
  states : List (Nat × LockState)
  holds : List (ThreadId × Nat × Hold)

/-- Why a lock was not granted. -/
inductive LockRefusal
  /-- the thread itself holds the object in this mode -/
  | reentrant (held : Hold)
  /-- another thread holds the object -/
  | unavailable
  deriving DecidableEq

namespace LockTable

/-- No locks. -/
def empty : LockTable := ⟨[], []⟩

/-- The lock of an object. -/
def state (table : LockTable) (object : Nat) : LockState :=
  (table.states.lookup object).getD .free

/-- Replaces the lock of an object. -/
def setState (table : LockTable) (object : Nat) (state : LockState) : LockTable :=
  { table with states := (object, state) :: table.states.filter (·.1 != object) }

/-- The holds of a thread, the last one first. -/
def held (table : LockTable) (thread : ThreadId) : List (Nat × Hold) :=
  table.holds.filterMap fun (t, hold) => if t = thread then some hold else none

/-- How a thread holds an object; an exclusive hold goes before a shared one. -/
def holdOf (table : LockTable) (thread : ThreadId) (object : Nat) : Option Hold :=
  if (object, Hold.exclusive) ∈ table.held thread then some .exclusive
  else if (object, Hold.shared) ∈ table.held thread then some .shared
  else none

/-- The lock after one more hold, if that hold can be granted at once. -/
def grant : LockState → Hold → Option LockState
  | .free, .shared => some (.shared 0)
  | .shared n, .shared => some (.shared (n + 1))
  | .free, .exclusive => some .exclusive
  | _, _ => none

/-- The lock after one hold less. -/
def drop : LockState → LockState
  | .shared (n + 1) => .shared n
  | _ => .free

/-- Whether a thread's own hold stands in the way of another one. A thread that reads may read
again. -/
def conflict : Option Hold → Hold → Option Hold
  | some .shared, .shared => none
  | held, _ => held

/-- Takes a lock for a thread. Whoever else holds the object outlasts the wait. -/
def acquire (table : LockTable) (thread : ThreadId) (object : Nat) (wanted : Hold) :
    Except LockRefusal LockTable :=
  -- The own holds are checked first: waiting for oneself would never end.
  match conflict (table.holdOf thread object) wanted with
  | some held => .error (.reentrant held)
  | none =>
    -- Only one thread runs at a time here, so nobody releases the lock during the wait.
    match grant (table.state object) wanted with
    | none => .error .unavailable
    | some state =>
      let next := table.setState object state
      .ok { next with holds := (thread, object, wanted) :: next.holds }

/-- Ends a guard: the last hold of that object and mode is taken off the thread's list. -/
def release (table : LockTable) (thread : ThreadId) (object : Nat) (mode : Hold) : LockTable :=
  let next := table.setState object (drop (table.state object))
  { next with holds := next.holds.erase (thread, object, mode) }

/-- A lock is found as it was written. -/
theorem state_setState_self (table : LockTable) (object : Nat) (state : LockState) :
    (table.setState object state).state object = state := by
  simp [setState, LockTable.state]

end LockTable

end Introspect
