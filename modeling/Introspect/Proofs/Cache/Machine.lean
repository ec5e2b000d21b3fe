import Introspect.Proofs.Cache.Entries

/-!
# `Introspect.Proofs.Cache.Machine`: threads that share a cache

Several threads use one cache. What a thread does next depends on its point of control: `code` says
which acts are possible at a point, and it may leave a choice where the outside decides. An act is a
request, a purge, a clear, a hold more or less, or the end of the making of an artifact.

A request that finds nothing starts a making. The making gets a copy of the key, which it may
change, and is itself code: it may do any act, also a request for the same key, and it may fail. The
thread keeps the request meanwhile in a frame, with the key as it was requested (`Frame`), and its
innermost making is what it works on.

A step has two sides, joined by an event. `Moves` says what becomes of the thread, and `Change` says
what becomes of the cache, with the functions that a whole request is made of. Between the steps of
one request, the other threads may do any number of steps (`Machine.Step`).
-/

set_option autoImplicit false

namespace Introspect.Cache

/-- What a thread does next, with the points where it goes on. -/
inductive Act (σ κ β ε : Type)
  /-- requests an artifact, which `make` starts to make from a copy of the key -/
  | request (key : κ) (make : κ → σ) (resume : Except ε (Artifact β) → σ)
  | purge (resume : Nat → σ)
  | clear (resume : σ)
  /-- takes one more hold on an artifact -/
  | hold (id : Nat) (resume : σ)
  /-- drops a hold on an artifact, which may be that of another thread -/
  | release (id : Nat) (resume : σ)
  /-- ends the making of an artifact; the copy of the key is left as it has become -/
  | finish (result : Except ε β) (copy : κ)

/-- A request whose artifact is being made. -/
structure Frame (σ κ β ε : Type) where
  /-- the key as requested -/
  key : κ
  resume : Except ε (Artifact β) → σ

/-- A thread: its point of control and its open requests, the innermost first. -/
structure Thread (σ κ β ε : Type) where
  point : σ
  frames : List (Frame σ κ β ε)

/-- What one step does. -/
inductive Event (κ β ε : Type)
  /-- a request found an artifact -/
  | hit (key : κ) (answer : Artifact β)
  /-- a request found nothing -/
  | missed (key : κ)
  /-- a request has made its artifact, and is answered -/
  | published (key : κ) (made : β) (answer : Artifact β)
  /-- a request could not make its artifact -/
  | failed (key : κ) (error : ε)
  | purged (reclaimed : Nat)
  | cleared
  | held (id : Nat)
  | released (id : Nat)

/-- The request that a step decides, and its answer. -/
def Event.decision {κ β ε : Type} : Event κ β ε → Option (κ × Artifact β)
  | .hit key answer => some (key, answer)
  | .published key _ answer => some (key, answer)
  | _ => none

/-- Threads and the cache they share. -/
structure Machine (σ κ α β ε : Type) where
  cache : Cache κ α
  threads : List (Thread σ κ β ε)

variable {σ κ α β ε : Type}

/-- What a step does to its thread. -/
inductive Moves (code : σ → Act σ κ β ε → Prop) :
    Thread σ κ β ε → Event κ β ε → Thread σ κ β ε → Prop
  | hit {point : σ} {frames : List (Frame σ κ β ε)} {key : κ} {make : κ → σ}
      {resume : Except ε (Artifact β) → σ} {answer : Artifact β} :
      code point (.request key make resume) →
      Moves code ⟨point, frames⟩ (.hit key answer) ⟨resume (.ok answer), frames⟩
  | missed {point : σ} {frames : List (Frame σ κ β ε)} {key : κ} {make : κ → σ}
      {resume : Except ε (Artifact β) → σ} :
      code point (.request key make resume) →
      Moves code ⟨point, frames⟩ (.missed key) ⟨make key, ⟨key, resume⟩ :: frames⟩
  -- The copy of the key ends with the making; the frame has the key as requested.
  | published {point : σ} {frame : Frame σ κ β ε} {frames : List (Frame σ κ β ε)} {made : β}
      {copy : κ} {answer : Artifact β} :
      code point (.finish (.ok made) copy) →
      Moves code ⟨point, frame :: frames⟩ (.published frame.key made answer)
        ⟨frame.resume (.ok answer), frames⟩
  | failed {point : σ} {frame : Frame σ κ β ε} {frames : List (Frame σ κ β ε)} {error : ε}
      {copy : κ} :
      code point (.finish (.error error) copy) →
      Moves code ⟨point, frame :: frames⟩ (.failed frame.key error)
        ⟨frame.resume (.error error), frames⟩
  | purged {point : σ} {frames : List (Frame σ κ β ε)} {resume : Nat → σ} {reclaimed : Nat} :
      code point (.purge resume) →
      Moves code ⟨point, frames⟩ (.purged reclaimed) ⟨resume reclaimed, frames⟩
  | cleared {point resume : σ} {frames : List (Frame σ κ β ε)} :
      code point (.clear resume) → Moves code ⟨point, frames⟩ .cleared ⟨resume, frames⟩
  | held {point resume : σ} {frames : List (Frame σ κ β ε)} {id : Nat} :
      code point (.hold id resume) → Moves code ⟨point, frames⟩ (.held id) ⟨resume, frames⟩
  | released {point resume : σ} {frames : List (Frame σ κ β ε)} {id : Nat} :
      code point (.release id resume) → Moves code ⟨point, frames⟩ (.released id) ⟨resume, frames⟩

section
variable [BEq κ]

/-- What a step does to the cache. -/
inductive Change (facet : Facet α β) : Cache κ α → Event κ β ε → Cache κ α → Prop
  | hit {c c' : Cache κ α} {key : κ} {answer : Artifact β} :
      c.lookup facet key = (some answer, c') → Change facet c (.hit key answer) c'
  | missed {c c' : Cache κ α} {key : κ} :
      c.lookup facet key = (none, c') → Change facet c (.missed key) c'
  | published {c c' : Cache κ α} {key : κ} {made : β} {answer : Artifact β} :
      c.publish facet key made = (answer, c') → Change facet c (.published key made answer) c'
  | failed {c : Cache κ α} {key : κ} {error : ε} : Change facet c (.failed key error) c
  | purged {c c' : Cache κ α} {reclaimed : Nat} :
      c.purge = (reclaimed, c') → Change facet c (.purged reclaimed) c'
  | cleared {c : Cache κ α} : Change facet c .cleared c.clear
  | held {c : Cache κ α} {id : Nat} : Change facet c (.held id) (c.hold id)
  | released {c : Cache κ α} {id : Nat} : Change facet c (.released id) (c.release id)

/-- One step of one of the threads. -/
inductive Machine.Step (code : σ → Act σ κ β ε → Prop) (facet : Facet α β) :
    Machine σ κ α β ε → Event κ β ε → Machine σ κ α β ε → Prop
  | mk {m : Machine σ κ α β ε} {i : Nat} {t t' : Thread σ κ β ε} {event : Event κ β ε}
      {c : Cache κ α} :
      m.threads[i]? = some t → Moves code t event t' → Change facet m.cache event c →
      Machine.Step code facet m event ⟨c, m.threads.set i t'⟩

/-- What any number of threads can reach from an empty cache. -/
inductive Machine.Reachable (code : σ → Act σ κ β ε → Prop) (facet : Facet α β) :
    Machine σ κ α β ε → Prop
  | start (strategy : CacheStrategy) (softLimit : Option Nat) (threads : List (Thread σ κ β ε)) :
      Machine.Reachable code facet ⟨.empty strategy softLimit, threads⟩
  | step {m m' : Machine σ κ α β ε} {event : Event κ β ε} :
      Machine.Reachable code facet m → Machine.Step code facet m event m' →
      Machine.Reachable code facet m'

/-- Steps without a clear, in whose states somebody holds the artifact throughout. -/
inductive Machine.HeldUntil (code : σ → Act σ κ β ε → Prop) (facet : Facet α β) (id : Nat)
    (m : Machine σ κ α β ε) : Machine σ κ α β ε → Prop
  | here : m.cache.isHeld id = true → Machine.HeldUntil code facet id m m
  | step {n n' : Machine σ κ α β ε} {event : Event κ β ε} :
      Machine.HeldUntil code facet id m n → Machine.Step code facet n event n' →
      event ≠ .cleared → n'.cache.isHeld id = true → Machine.HeldUntil code facet id m n'

variable {code : σ → Act σ κ β ε → Prop} {facet : Facet α β} {m n : Machine σ κ α β ε}
  {event : Event κ β ε}

/-- A step changes the cache as its event says. -/
theorem Machine.Step.change (h : Machine.Step code facet m event n) :
    Change facet m.cache event n.cache := by
  cases h with
  | mk _ _ hchange => exact hchange

/-- What is reached while an artifact is held can be reached. -/
theorem Machine.HeldUntil.reachable {id : Nat} (h : Machine.HeldUntil code facet id m n)
    (hm : Machine.Reachable code facet m) : Machine.Reachable code facet n := by
  induction h with
  | here _ => exact hm
  | step _ hstep _ _ ih => exact .step ih hstep

end

end Introspect.Cache
