import Introspect.Proofs.World.Holds
import Mathlib.Data.List.Perm.Basic

/-!
# `Introspect.Proofs.World.Exclusion`: threads that lock objects

Any number of threads take locks and end their guards, in any order. A thread looks at its own holds
first, and is refused at once if one of them is in the way. Then it waits for the lock, while other
threads go on, until the lock is granted or the limit on waiting is over (`Locking.Step`). The list
of a thread's holds is read by that thread alone, so taking the lock and noting the hold are one
step, and so are the two halves of the end of a guard. A granted lock is noted first on the list,
and the last equal hold is taken off it when a guard ends, whichever guard that is. So the list and
the live guards agree up to their order only.

`Locking.Sound` is the invariant: the locks agree with the list of holds, the list with the live
guards, and no thread waits for a lock that it holds itself. `Sound.step` shows that each step keeps
it. `Reachable.exclusive` reads off what a thread meets in any state that can be reached: objects
have shared holds or one exclusive hold, and the outcome of a request follows from who has a live
guard. `Reachable.lock` and `Reachable.unlock` show that locking and unlocking in a world are steps
of this kind.
-/

set_option autoImplicit false

namespace Introspect

/-- A guard, or the request for one: its thread, its object and its mode. -/
abbrev Guard := ThreadId × Nat × Hold

/-- Threads that lock objects. -/
structure Locking where
  table : LockTable
  /-- the live guards, in the order in which they were granted -/
  live : List Guard
  /-- the requests whose threads wait for a lock -/
  waiting : List Guard

namespace Locking

/-- No guard, and no thread that waits. -/
def initial : Locking := ⟨.empty, [], []⟩

/-- The thread does not wait for a lock. -/
def Running (s : Locking) (thread : ThreadId) : Prop :=
  ∀ request ∈ s.waiting, request.1 ≠ thread

/-- The live guards on an object. -/
def guardsOn (s : Locking) (object : Nat) : List Guard :=
  s.live.filter (·.2.1 = object)

/-- The objects and modes of a thread's live guards. -/
def guardsOf (s : Locking) (thread : ThreadId) : List (Nat × Hold) :=
  s.live.filterMap fun (t, guard) => if t = thread then some guard else none

/-- What one step does. -/
inductive Event
  /-- a request failed because the thread itself has the object in this mode -/
  | refused (request : Guard) (held : Hold)
  /-- a thread waits for a lock from now on -/
  | began (request : Guard)
  /-- a lock was granted -/
  | granted (request : Guard)
  /-- a request failed because the lock was still not available when the limit was over -/
  | expired (request : Guard)
  /-- a guard was ended -/
  | ended (guard : Guard)

/-- The step ends a request without a guard. -/
def Event.Failed : Event → Prop
  | .refused .. | .expired .. => True
  | .began _ | .granted _ | .ended _ => False

/-- One step of one of the threads. -/
inductive Step : Locking → Event → Locking → Prop
  | refused {s : Locking} {thread : ThreadId} {object : Nat} {wanted held : Hold} :
      s.Running thread → LockTable.conflict (s.table.holdOf thread object) wanted = some held →
      Step s (.refused (thread, object, wanted) held) s
  | began {s : Locking} {thread : ThreadId} {object : Nat} {wanted : Hold} :
      s.Running thread → LockTable.conflict (s.table.holdOf thread object) wanted = none →
      Step s (.began (thread, object, wanted))
        { s with waiting := (thread, object, wanted) :: s.waiting }
  -- The lock alone decides here. The own holds are not looked at again.
  | granted {s : Locking} {thread : ThreadId} {object : Nat} {wanted : Hold} {state : LockState} :
      (thread, object, wanted) ∈ s.waiting →
      LockTable.grant (s.table.state object) wanted = some state →
      Step s (.granted (thread, object, wanted))
        ⟨s.table.take thread object wanted state, s.live ++ [(thread, object, wanted)],
          s.waiting.erase (thread, object, wanted)⟩
  | expired {s : Locking} {thread : ThreadId} {object : Nat} {wanted : Hold} :
      (thread, object, wanted) ∈ s.waiting →
      LockTable.grant (s.table.state object) wanted = none →
      Step s (.expired (thread, object, wanted))
        { s with waiting := s.waiting.erase (thread, object, wanted) }
  | ended {s : Locking} {thread : ThreadId} {object : Nat} {mode : Hold} {place : Nat} :
      s.live[place]? = some (thread, object, mode) → s.Running thread →
      Step s (.ended (thread, object, mode))
        ⟨s.table.release thread object mode, s.live.eraseIdx place, s.waiting⟩

/-- What any number of threads can reach. -/
inductive Reachable : Locking → Prop
  | start : Reachable initial
  | step {s s' : Locking} {event : Event} : Reachable s → Step s event s' → Reachable s'

/-! ### The invariant -/

/-- The locks, the lists of holds and the live guards are in step, and a thread that waits for a
lock waits for other threads only. -/
structure Sound (s : Locking) : Prop where
  consistent : s.table.Consistent
  live : s.table.holds.Perm s.live
  /-- each thread waits for one lock at most -/
  single : (s.waiting.map (·.1)).Nodup
  /-- the own holds of a thread that waits are not in its way -/
  clear : ∀ thread object wanted, (thread, object, wanted) ∈ s.waiting →
    ∀ mode, mode.excludes wanted = true → (thread, object, mode) ∉ s.table.holds

/-- When a request leaves the waiting ones, no other request of its thread is left. -/
theorem running_erase {waiting : List Guard} {request other : Guard}
    (hsingle : (waiting.map (·.1)).Nodup) (hrequest : request ∈ waiting)
    (hother : other ∈ waiting.erase request) : other.1 ≠ request.1 := by
  have hperm : (waiting.map (·.1)).Perm (request.1 :: (waiting.erase request).map (·.1)) :=
    (List.perm_cons_erase hrequest).map _
  have hnodup := hperm.nodup_iff.mp hsingle
  intro hsame
  exact (List.nodup_cons.mp hnodup).1 (hsame ▸ List.mem_map_of_mem hother)

theorem nodup_erase {waiting : List Guard} (hsingle : (waiting.map (·.1)).Nodup)
    (request : Guard) : ((waiting.erase request).map (·.1)).Nodup :=
  hsingle.sublist (List.erase_sublist.map _)

variable {s s' : Locking} {event : Event}

theorem Sound.initial : Sound initial :=
  ⟨LockTable.Consistent.empty, .nil, .nil, fun _ _ _ h => nomatch h⟩

/-- Each step keeps the locks, the lists of holds and the live guards in step. -/
theorem Sound.step (hs : s.Sound) (hstep : Step s event s') : s'.Sound := by
  cases hstep with
  | refused => exact hs
  | @began thread object wanted hrunning hconflict =>
      refine ⟨hs.consistent, hs.live, ?single, ?clear⟩
      case single =>
        refine List.nodup_cons.mpr ⟨fun hmem => ?_, hs.single⟩
        obtain ⟨request, hrequest, hthread⟩ := List.mem_map.mp hmem
        exact hrunning request hrequest hthread
      case clear =>
        intro t o m hmem
        cases List.mem_cons.mp hmem with
        | inl hnew =>
            obtain ⟨rfl, rfl, rfl⟩ : t = thread ∧ o = object ∧ m = wanted := by simpa using hnew
            exact LockTable.conflict_eq_none_iff.mp hconflict
        | inr hold => exact hs.clear t o m hold
  | @granted thread object wanted state hwaits hgrant =>
      refine ⟨hs.consistent.take hgrant, ?live, nodup_erase hs.single _, ?clear⟩
      case live =>
        exact (hs.live.cons _).trans (List.perm_append_singleton _ _).symm
      case clear =>
        -- The new hold belongs to the thread that waits no longer.
        intro t o m hmem mode hexcludes hheld
        have hthread : t ≠ thread := running_erase hs.single hwaits hmem
        cases List.mem_cons.mp hheld with
        | inl hnew => exact hthread (congrArg (·.1) hnew)
        | inr hold => exact hs.clear t o m (List.mem_of_mem_erase hmem) mode hexcludes hold
  | expired hwaits hgrant =>
      exact ⟨hs.consistent, hs.live, nodup_erase hs.single _,
        fun t o m hmem => hs.clear t o m (List.mem_of_mem_erase hmem)⟩
  | @ended thread object mode place hlive hrunning =>
      obtain ⟨hplace, hguard⟩ := List.getElem?_eq_some_iff.mp hlive
      have hmem : (thread, object, mode) ∈ s.live := hguard ▸ List.getElem_mem hplace
      refine ⟨hs.consistent.release (hs.live.mem_iff.mpr hmem), ?live, hs.single, ?clear⟩
      case live =>
        have hrest : s.live.Perm ((thread, object, mode) :: s.live.eraseIdx place) :=
          hguard ▸ (List.getElem_cons_eraseIdx_perm hplace).symm
        have herase := (hs.live.trans hrest).erase (thread, object, mode)
        rwa [List.erase_cons_head] at herase
      case clear =>
        intro t o m hwaits mode' hexcludes hheld
        exact hs.clear t o m hwaits mode' hexcludes (List.mem_of_mem_erase hheld)

/-- Every state that can be reached is in step. -/
theorem Reachable.sound (h : s.Reachable) : s.Sound := by
  induction h with
  | start => exact Sound.initial
  | step _ hstep ih => exact ih.step hstep

/-! ### Locks in a world -/

end Locking

namespace World

variable {w : World} {object : ObjectRef} {wanted held : Hold} {limit : Nat}

theorem lock_reentrant_iff :
    w.lock object wanted = .error (.reentrant (w.registry.nameOf object.type) held) ↔
      w.locks.acquire w.thread object.id wanted = .error (.reentrant held) := by
  unfold lock
  split <;> simp [*]

theorem lock_timeout_iff (hlimit : w.waitLimit? = some limit) :
    w.lock object wanted
        = .error (.lockTimeout (w.registry.nameOf object.type) wanted (some limit)) ↔
      w.locks.acquire w.thread object.id wanted = .error .unavailable := by
  unfold lock
  split <;> simp [*]

theorem lock_ok_iff : (∃ locked, w.lock object wanted = .ok locked) ↔
    ∃ next, w.locks.acquire w.thread object.id wanted = .ok next := by
  unfold lock
  split <;> simp [*]

end World

namespace Locking

variable {s s' : Locking} {event : Event}

/-- A request that is granted at once: it begins to wait, and nothing comes between. -/
theorem Reachable.take (h : s.Reachable) (thread : ThreadId) (object : Nat) (wanted : Hold)
    {state : LockState} (hrunning : s.Running thread)
    (hconflict : LockTable.conflict (s.table.holdOf thread object) wanted = none)
    (hgrant : LockTable.grant (s.table.state object) wanted = some state) :
    Reachable ⟨s.table.take thread object wanted state, s.live ++ [(thread, object, wanted)],
      s.waiting⟩ := by
  have hbegan := h.step (Step.began hrunning hconflict)
  have hgranted := hbegan.step (Step.granted List.mem_cons_self hgrant)
  rwa [List.erase_cons_head] at hgranted

/-- A lock that a world grants is a request of this kind. -/
theorem Reachable.lock {w locked : World} {object : ObjectRef} {wanted : Hold} (h : s.Reachable)
    (hlocks : w.locks = s.table) (hrunning : s.Running w.thread)
    (hlock : w.lock object wanted = .ok locked) :
    Reachable ⟨locked.locks, s.live ++ [(w.thread, object.id, wanted)], s.waiting⟩ := by
  obtain ⟨hacquire, -⟩ := World.lock_eq hlock
  obtain ⟨hconflict, state, hgrant, hnext⟩ := LockTable.acquire_ok_iff.mp hacquire
  rw [hlocks] at hconflict hgrant hnext
  rw [hnext]
  exact h.take w.thread object.id wanted hrunning hconflict hgrant

/-- The end of a guard in a world is a step, whichever guard it is. -/
theorem Reachable.unlock {w : World} {object : ObjectRef} {mode : Hold} {place : Nat}
    (h : s.Reachable) (hlocks : w.locks = s.table) (hrunning : s.Running w.thread)
    (hlive : s.live[place]? = some (w.thread, object.id, mode)) :
    Reachable ⟨(w.unlock object mode).locks, s.live.eraseIdx place, s.waiting⟩ := by
  have hended := h.step (Step.ended hlive hrunning)
  rw [← hlocks] at hended
  exact hended

/-! ### What a request comes to -/

namespace Sound

/-- The live guards on an object are none, shared ones, or one exclusive one. -/
theorem guardsOn_cases (hs : s.Sound) (object : Nat) :
    s.guardsOn object = [] ∨ (∀ guard ∈ s.guardsOn object, guard.2.2 = .shared) ∨
      ∃ thread, s.guardsOn object = [(thread, object, .exclusive)] := by
  have hmodes : (modesOn s.table.holds object).Perm ((s.guardsOn object).map (·.2.2)) :=
    (hs.live.filter _).map _
  obtain hnone | hshared | hone := ((hs.consistent object).perm hmodes).modes_cases
  · exact .inl (List.map_eq_nil_iff.mp hnone)
  · exact .inr (.inl fun guard hguard => hshared _ (List.mem_map_of_mem hguard))
  · obtain ⟨⟨thread, held, mode⟩, hon, hmode⟩ := List.map_eq_singleton_iff.mp hone
    obtain rfl : mode = .exclusive := hmode
    have hmem : (thread, held, Hold.exclusive) ∈ s.guardsOn object := hon ▸ List.mem_cons_self
    obtain rfl : held = object := by simpa using (List.mem_filter.mp hmem).2
    exact .inr (.inr ⟨thread, hon⟩)

/-- Beside an exclusive guard there is no other one on the object. -/
theorem thread_eq (hs : s.Sound) {thread other : ThreadId} {object : Nat} {mode : Hold}
    (hexclusive : (thread, object, .exclusive) ∈ s.live) (hother : (other, object, mode) ∈ s.live) :
    other = thread := by
  have hon : (thread, object, Hold.exclusive) ∈ s.guardsOn object := by simp [guardsOn, hexclusive]
  have hon' : (other, object, mode) ∈ s.guardsOn object := by simp [guardsOn, hother]
  obtain hnone | hshared | ⟨only, hone⟩ := hs.guardsOn_cases object
  · rw [hnone] at hon
    cases hon
  · cases hshared _ hon
  · rw [hone, List.mem_singleton] at hon hon'
    exact (congrArg (·.1) hon').trans (congrArg (·.1) hon).symm

/-- The own list of a thread has its live guards. -/
theorem held_perm (hs : s.Sound) (thread : ThreadId) :
    (s.table.held thread).Perm (s.guardsOf thread) :=
  hs.live.filterMap _

variable {thread : ThreadId} {object : Nat} {wanted : Hold}

/-- A request is refused as reentrant when a live guard of its thread is in the way. -/
theorem refused_iff (hs : s.Sound) :
    (∃ held, s.table.acquire thread object wanted = .error (.reentrant held)) ↔
      ∃ mode, mode.excludes wanted = true ∧ (thread, object, mode) ∈ s.live := by
  simp only [LockTable.acquire_reentrant_iff]
  constructor
  case mp =>
    rintro ⟨held, hconflict⟩
    obtain ⟨hheld, hexcludes⟩ := LockTable.mem_holds_of_conflict hconflict
    exact ⟨held, hexcludes, hs.live.mem_iff.mp hheld⟩
  case mpr =>
    rintro ⟨mode, hexcludes, hlive⟩
    cases hconflict : LockTable.conflict (s.table.holdOf thread object) wanted with
    | some held => exact ⟨held, rfl⟩
    | none =>
        have hclear := LockTable.conflict_eq_none_iff.mp hconflict mode hexcludes
        exact absurd (hs.live.mem_iff.mpr hlive) hclear

/-- A request waits in vain when live guards are in the way, none of them its thread's own. -/
theorem unavailable_iff (hs : s.Sound) :
    s.table.acquire thread object wanted = .error .unavailable ↔
      (∀ mode, mode.excludes wanted = true → (thread, object, mode) ∉ s.live) ∧
        ∃ other mode, mode.excludes wanted = true ∧ (other, object, mode) ∈ s.live := by
  simp only [hs.consistent.acquire_unavailable_iff, hs.live.mem_iff]

/-- A request is granted when no live guard is in the way. -/
theorem granted_iff (hs : s.Sound) :
    (∃ next, s.table.acquire thread object wanted = .ok next) ↔
      ∀ other mode, mode.excludes wanted = true → (other, object, mode) ∉ s.live := by
  simp only [hs.consistent.acquire_ok_iff, hs.live.mem_iff]

/-- The lock that a thread waits for is kept from it by other threads, if at all. -/
theorem expires_iff (hs : s.Sound) (hwaits : (thread, object, wanted) ∈ s.waiting) :
    LockTable.grant (s.table.state object) wanted = none ↔
      ∃ other mode, other ≠ thread ∧ mode.excludes wanted = true ∧
        (other, object, mode) ∈ s.live := by
  rw [hs.consistent.grant_eq_none_iff]
  constructor
  case mp =>
    rintro ⟨other, mode, hexcludes, hheld⟩
    refine ⟨other, mode, ?_, hexcludes, hs.live.mem_iff.mp hheld⟩
    rintro rfl
    exact hs.clear other object wanted hwaits mode hexcludes hheld
  case mpr =>
    rintro ⟨other, mode, -, hexcludes, hlive⟩
    exact ⟨other, mode, hexcludes, hs.live.mem_iff.mpr hlive⟩

/-- A read is refused when its thread has the object exclusively. -/
theorem read_refused_iff (hs : s.Sound) :
    s.table.acquire thread object .shared = .error (.reentrant .exclusive) ↔
      (thread, object, .exclusive) ∈ s.live := by
  constructor
  case mp =>
    intro hrefused
    obtain ⟨mode, hexcludes, hlive⟩ := hs.refused_iff.mp ⟨.exclusive, hrefused⟩
    rwa [Hold.excludes_shared_iff.mp hexcludes] at hlive
  case mpr =>
    intro hlive
    obtain ⟨held, hrefused⟩ := hs.refused_iff.mpr ⟨.exclusive, rfl, hlive⟩
    have hconflict := LockTable.acquire_reentrant_iff.mp hrefused
    obtain ⟨-, hexcludes⟩ := LockTable.mem_holds_of_conflict hconflict
    rwa [Hold.excludes_shared_iff.mp hexcludes] at hrefused

/-- A read waits in vain when another thread has the object exclusively. -/
theorem read_unavailable_iff (hs : s.Sound) :
    s.table.acquire thread object .shared = .error .unavailable ↔
      ∃ other, other ≠ thread ∧ (other, object, .exclusive) ∈ s.live := by
  rw [hs.unavailable_iff]
  constructor
  case mp =>
    rintro ⟨hown, other, mode, hexcludes, hlive⟩
    obtain rfl := Hold.excludes_shared_iff.mp hexcludes
    exact ⟨other, fun hsame => hown .exclusive rfl (hsame ▸ hlive), hlive⟩
  case mpr =>
    rintro ⟨other, hother, hlive⟩
    refine ⟨fun mode _ hown => ?_, other, .exclusive, rfl, hlive⟩
    exact hother (hs.thread_eq hlive hown).symm

/-- A read is granted when no thread has the object exclusively. -/
theorem read_granted_iff (hs : s.Sound) :
    (∃ next, s.table.acquire thread object .shared = .ok next) ↔
      ∀ other, (other, object, .exclusive) ∉ s.live := by
  rw [hs.granted_iff]
  simp only [Hold.excludes_shared_iff, forall_eq]

/-- A write is refused when its thread has the object in any mode. -/
theorem write_refused_iff (hs : s.Sound) :
    (∃ held, s.table.acquire thread object .exclusive = .error (.reentrant held)) ↔
      ∃ mode, (thread, object, mode) ∈ s.live := by
  rw [hs.refused_iff]
  simp only [Hold.excludes_exclusive, true_and]

/-- A write waits in vain when other threads have the object, and its own has not. -/
theorem write_unavailable_iff (hs : s.Sound) :
    s.table.acquire thread object .exclusive = .error .unavailable ↔
      (∀ mode, (thread, object, mode) ∉ s.live) ∧
        ∃ other mode, other ≠ thread ∧ (other, object, mode) ∈ s.live := by
  rw [hs.unavailable_iff]
  simp only [Hold.excludes_exclusive, true_and, forall_const]
  refine and_congr_right fun hown => exists_congr fun other => exists_congr fun mode => ?_
  refine (and_iff_right_of_imp fun hlive => ?_).symm
  rintro rfl
  exact hown mode hlive

/-- A write is granted when no thread has the object. -/
theorem write_granted_iff (hs : s.Sound) :
    (∃ next, s.table.acquire thread object .exclusive = .ok next) ↔
      ∀ other mode, (other, object, mode) ∉ s.live := by
  rw [hs.granted_iff]
  simp only [Hold.excludes_exclusive, forall_const]

/-- A thread that waits can be granted the lock when it is free for the request. -/
theorem granted_step_iff (hwaits : (thread, object, wanted) ∈ s.waiting) :
    (∃ s', Step s (.granted (thread, object, wanted)) s') ↔
      LockTable.grant (s.table.state object) wanted ≠ none := by
  constructor
  case mp =>
    rintro ⟨s', hstep⟩
    cases hstep with
    | granted _ hgrant => rw [hgrant]; exact Option.some_ne_none _
  case mpr =>
    intro hfree
    obtain ⟨state, hgrant⟩ := Option.ne_none_iff_exists'.mp hfree
    exact ⟨_, .granted hwaits hgrant⟩

/-- The wait of a thread can be over without the lock when it is not free for the request. -/
theorem expired_step_iff (hwaits : (thread, object, wanted) ∈ s.waiting) :
    (∃ s', Step s (.expired (thread, object, wanted)) s') ↔
      LockTable.grant (s.table.state object) wanted = none := by
  constructor
  case mp =>
    rintro ⟨s', hstep⟩
    cases hstep with
    | expired _ hgrant => exact hgrant
  case mpr => exact fun hgrant => ⟨_, .expired hwaits hgrant⟩

end Sound

/-- A step that ends a request without a guard leaves every hold as it is. -/
theorem Step.eq_of_failed (h : Step s event s') (hfailed : event.Failed) :
    s'.table = s.table ∧ s'.live = s.live := by
  cases h with
  | refused | expired => exact ⟨rfl, rfl⟩
  | began | granted | ended => exact hfailed.elim

/-- In every state that any number of threads can reach:

- an object has no live guard, only shared ones, or exactly one, and that one exclusive;
- the holds on a thread's list are its live guards, as a multiset;
- a read fails as reentrant exactly when the thread has the object exclusively, it times out
  exactly when another thread has, and is granted otherwise;
- a write fails as reentrant exactly when the thread has the object in any mode, it times out
  exactly when only other threads have, and is granted otherwise;
- a thread that waits is granted the lock unless other threads keep it away, and only then can its
  wait end without the lock;
- no step that fails changes a hold or a lock. -/
theorem Reachable.exclusive (hreach : s.Reachable) :
    (∀ object, s.guardsOn object = [] ∨ (∀ guard ∈ s.guardsOn object, guard.2.2 = .shared) ∨
      ∃ thread, s.guardsOn object = [(thread, object, .exclusive)]) ∧
    (∀ thread, (s.table.held thread).Perm (s.guardsOf thread)) ∧
    (∀ (w : World) (object : ObjectRef) (limit : Nat), w.locks = s.table →
      w.waitLimit? = some limit →
      (w.lock object .shared = .error (.reentrant (w.registry.nameOf object.type) .exclusive) ↔
        (w.thread, object.id, .exclusive) ∈ s.live) ∧
      (w.lock object .shared
          = .error (.lockTimeout (w.registry.nameOf object.type) .shared (some limit)) ↔
        ∃ other, other ≠ w.thread ∧ (other, object.id, .exclusive) ∈ s.live) ∧
      ((∃ locked, w.lock object .shared = .ok locked) ↔
        ∀ thread, (thread, object.id, .exclusive) ∉ s.live) ∧
      ((∃ held, w.lock object .exclusive
          = .error (.reentrant (w.registry.nameOf object.type) held)) ↔
        ∃ mode, (w.thread, object.id, mode) ∈ s.live) ∧
      (w.lock object .exclusive
          = .error (.lockTimeout (w.registry.nameOf object.type) .exclusive (some limit)) ↔
        (∀ mode, (w.thread, object.id, mode) ∉ s.live) ∧
          ∃ other mode, other ≠ w.thread ∧ (other, object.id, mode) ∈ s.live) ∧
      ((∃ locked, w.lock object .exclusive = .ok locked) ↔
        ∀ thread mode, (thread, object.id, mode) ∉ s.live)) ∧
    (∀ thread object wanted, (thread, object, wanted) ∈ s.waiting →
      ((∃ s', Step s (.granted (thread, object, wanted)) s') ↔
        ¬ ∃ other mode, other ≠ thread ∧ mode.excludes wanted = true ∧
          (other, object, mode) ∈ s.live) ∧
      ((∃ s', Step s (.expired (thread, object, wanted)) s') ↔
        ∃ other mode, other ≠ thread ∧ mode.excludes wanted = true ∧
          (other, object, mode) ∈ s.live)) ∧
    ∀ event s', Step s event s' → event.Failed → s'.table = s.table ∧ s'.live = s.live := by
  have hs := hreach.sound
  refine ⟨hs.guardsOn_cases, hs.held_perm, ?worlds, ?waiting, fun event s' h => h.eq_of_failed⟩
  case worlds =>
    intro w object limit hlocks hlimit
    simp only [World.lock_reentrant_iff, World.lock_timeout_iff hlimit, World.lock_ok_iff, hlocks]
    exact ⟨hs.read_refused_iff, hs.read_unavailable_iff, hs.read_granted_iff,
      hs.write_refused_iff, hs.write_unavailable_iff, hs.write_granted_iff⟩
  case waiting =>
    intro thread object wanted hwaits
    rw [← hs.expires_iff hwaits]
    exact ⟨Sound.granted_step_iff hwaits, Sound.expired_step_iff hwaits⟩

/-- Thread 1 reads object 0 twice and writes object 1, and thread 2 waits to write object 0. -/
def contended : Locking :=
  let first := LockTable.empty.take 1 0 .shared (.shared 0)
  let second := first.take 1 0 .shared (.shared 1)
  ⟨second.take 1 1 .exclusive .exclusive, [(1, 0, .shared), (1, 0, .shared), (1, 1, .exclusive)],
    [(2, 0, .exclusive)]⟩

/-- A world in which thread 3 comes to these locks, with a limit of half a millisecond. -/
def contendedWorld : World :=
  { World.ofRegistry .initial with locks := contended.table, waitLimit := 500, thread := 3 }

/-- Thread 3 may read object 0 and not object 1, and thread 2 may wait in vain. -/
theorem exclusive_contended : contended.Reachable ∧
    (∃ locked, contendedWorld.lock ⟨0, .string⟩ .shared = .ok locked) ∧
    contendedWorld.lock ⟨1, .string⟩ .shared
      = .error (.lockTimeout (contendedWorld.registry.nameOf .string) .shared (some 500)) ∧
    ∃ s', Step contended (.expired (2, 0, .exclusive)) s' := by
  have hreach : contended.Reachable := by
    have hfirst := Reachable.start.take 1 0 .shared (by simp [Running, initial]) rfl rfl
    have hsecond := hfirst.take 1 0 .shared (by simp [Running, initial]) (by decide) rfl
    have hthird := hsecond.take 1 1 .exclusive (by simp [Running, initial]) (by decide) rfl
    exact hthird.step (.began (by simp [Running, initial]) (by decide))
  obtain ⟨-, -, hworlds, hwaiting, -⟩ := Reachable.exclusive hreach
  obtain ⟨-, -, hread, -⟩ := hworlds contendedWorld ⟨0, .string⟩ 500 rfl (by decide)
  obtain ⟨-, htimeout, -⟩ := hworlds contendedWorld ⟨1, .string⟩ 500 rfl (by decide)
  refine ⟨hreach, hread.mpr ?_, htimeout.mpr ⟨1, by decide, by decide⟩,
    (hwaiting 2 0 .exclusive (by decide)).2.mpr ⟨1, .shared, by decide, rfl, by decide⟩⟩
  intro thread hlive
  simp [contended] at hlive

end Locking

end Introspect
