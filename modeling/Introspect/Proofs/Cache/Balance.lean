import Introspect.Proofs.Cache.Observable

/-!
# `Introspect.Proofs.Cache.Balance`: the counters of a cache add up

A cache counts hits, misses, artifacts made, artifacts rejected and artifacts reclaimed, at
different steps of requests that may lie inside each other. A `Tally` is kept by somebody who
watches the steps from outside, and counts what the cache itself does not: the requests, their
answers, the makings that failed, and the entries that clears took out.

`Balanced` relates the two while some number of requests is open. A request that found nothing is
open until it is answered, so it counts as a miss already but not yet as something made or failed.
`Change.balanced` says that every step keeps the balance, and `Machine.Step.frames_length` how many
requests are open after it. When no request is open, `Machine.Observed.add_up` has the plain
equations: no step misses a count, and none counts twice.

The counters are natural numbers, which no step can make overflow. `Machine.Observed.counts_le`
bounds them by the number of requests, so words of 64 bits would hold them for fewer than `2 ^ 64`
requests.
-/

set_option autoImplicit false

namespace Introspect.Cache

variable {σ κ α β ε : Type}

/-- What is counted from outside while threads use a cache. -/
structure Tally where
  /-- requests that were made -/
  requests : Nat
  /-- requests that were answered, with an artifact or a failure -/
  answers : Nat
  /-- artifacts that could not be made -/
  failures : Nat
  /-- entries that clears took out -/
  cleared : Nat
  deriving DecidableEq

/-- Counts a step, given the cache before it. A request is made by the step that finds something or
nothing for it. -/
def Tally.count (tally : Tally) (c : Cache κ α) : Event κ β ε → Tally
  | .hit .. => { tally with requests := tally.requests + 1, answers := tally.answers + 1 }
  | .missed _ => { tally with requests := tally.requests + 1 }
  | .published .. => { tally with answers := tally.answers + 1 }
  | .failed .. => { tally with answers := tally.answers + 1, failures := tally.failures + 1 }
  | .cleared => { tally with cleared := tally.cleared + c.size }
  | .purged _ | .held _ | .released _ => tally

/-- How many requests a step opens. -/
def Event.opens : Event κ β ε → Nat
  | .missed _ => 1
  | _ => 0

/-- How many open requests a step answers. -/
def Event.closes : Event κ β ε → Nat
  | .published .. | .failed .. => 1
  | _ => 0

/-! ### What the steps count -/

/-- A purge counts what it takes out. -/
theorem purge_counts (c : Cache κ α) :
    c.purge.2.stats = { c.stats with reclaimed := c.stats.reclaimed + c.purge.1 } ∧
      c.purge.2.size + c.purge.1 = c.size := by
  unfold purge
  split
  · exact ⟨rfl, rfl⟩
  · have hle := List.length_filter_le (fun entry => c.isHeld entry.2.id) c.entries
    refine ⟨rfl, ?_⟩
    show (c.entries.filter _).length + (c.entries.length - (c.entries.filter _).length) =
      c.entries.length
    omega

/-- So does a purge that may be due. -/
theorem trim_counts (c : Cache κ α) :
    ∃ reclaimed, c.trim.stats = { c.stats with reclaimed := c.stats.reclaimed + reclaimed } ∧
      c.trim.size + reclaimed = c.size := by
  rcases trim_cases c with heq | ⟨-, heq⟩
  · rw [heq]
    exact ⟨0, rfl, rfl⟩
  · rw [heq]
    exact ⟨c.purge.1, purge_counts c⟩

variable [BEq κ] {facet : Facet α β} {c c' : Cache κ α} {event : Event κ β ε} {tally : Tally}

/-- A publication counts something made, and either rejects it or keeps it; a purge may follow. -/
theorem Uniform.publish_counts (h : Uniform facet c) (key : κ) (made : β) :
    let after := (c.publish facet key made).2
    after.stats.hits = c.stats.hits ∧ after.stats.misses = c.stats.misses ∧
      after.stats.compilations = c.stats.compilations + 1 ∧
      after.stats.rejected + after.stats.reclaimed + after.size =
        c.stats.rejected + c.stats.reclaimed + c.size + 1 := by
  cases hfind : c.find? key with
  | some kept =>
      obtain ⟨a, rfl⟩ := h.kept_of_find? hfind
      rw [h.publish_of_kept hfind made]
      refine ⟨rfl, rfl, rfl, ?_⟩
      show c.stats.rejected + 1 + c.stats.reclaimed + c.size = _
      omega
  | none =>
      rw [publish_of_missing hfind made]
      obtain ⟨reclaimed, hstats, hsize⟩ := trim_counts (c.inserted key (facet.wrap made))
      rw [show (c.inserted key (facet.wrap made)).size = c.size + 1 from rfl] at hsize
      refine ⟨by rw [hstats]; rfl, by rw [hstats]; rfl, by rw [hstats]; rfl, ?_⟩
      rw [hstats]
      show c.stats.rejected + (c.stats.reclaimed + reclaimed) +
        (c.inserted key (facet.wrap made)).trim.size = _
      omega

/-! ### The balance -/

/-- The counters of a cache agree with what was counted from outside, while a number of requests is
open. -/
structure Balanced (tally : Tally) (opened : Nat) (c : Cache κ α) : Prop where
  requests : c.stats.hits + c.stats.misses = tally.requests
  answers : tally.requests = tally.answers + opened
  misses : c.stats.misses = c.stats.compilations + tally.failures + opened
  made : c.stats.compilations = c.stats.rejected + c.stats.reclaimed + tally.cleared + c.size

omit [BEq κ] in
/-- An unused cache is balanced when no request is open. -/
theorem balanced_empty (strategy : CacheStrategy) (softLimit : Option Nat) :
    Balanced ⟨0, 0, 0, 0⟩ 0 (empty strategy softLimit : Cache κ α) :=
  ⟨rfl, rfl, rfl, rfl⟩

/-- Every step keeps the balance. -/
theorem Change.balanced (hchange : Change facet c event c') (h : Uniform facet c)
    {opened opened' : Nat} (hopened : opened' + event.closes = opened + event.opens)
    (hbalanced : Balanced tally opened c) : Balanced (tally.count c event) opened' c' := by
  obtain ⟨hrequests, hanswers, hmisses, hmade⟩ := hbalanced
  cases hchange with
  | @hit _ key answer heq =>
      have hfound : c.findAs? facet key = some answer := by rw [← fst_lookup, heq]
      rw [lookup_of_found hfound] at heq
      obtain ⟨-, rfl⟩ := Prod.mk.inj heq
      obtain rfl : opened' = opened := hopened
      exact ⟨by show c.stats.hits + 1 + c.stats.misses = tally.requests + 1; omega,
        by show tally.requests + 1 = tally.answers + 1 + _; omega, hmisses, hmade⟩
  | @missed _ key heq =>
      have hfound : c.findAs? facet key = none := by rw [← fst_lookup, heq]
      rw [lookup_of_not_found hfound] at heq
      obtain ⟨-, rfl⟩ := Prod.mk.inj heq
      obtain rfl : opened' = opened + 1 := hopened
      exact ⟨by show c.stats.hits + (c.stats.misses + 1) = tally.requests + 1; omega,
        by show tally.requests + 1 = tally.answers + _; omega,
        by show c.stats.misses + 1 = c.stats.compilations + tally.failures + _; omega, hmade⟩
  | @published _ key made answer heq =>
      obtain ⟨hhits, hmiss, hcompilations, hkept⟩ := h.publish_counts key made
      rw [heq] at hhits hmiss hcompilations hkept
      dsimp only at hhits hmiss hcompilations hkept
      obtain rfl : opened' + 1 = opened := hopened
      exact ⟨by rw [hhits, hmiss]; exact hrequests,
        by show tally.requests = tally.answers + 1 + opened'; omega,
        by rw [hmiss, hcompilations]; show _ = _ + tally.failures + _; omega,
        by rw [hcompilations]; show _ = _ + tally.cleared + _; omega⟩
  | failed =>
      obtain rfl : opened' + 1 = opened := hopened
      exact ⟨hrequests, by show tally.requests = tally.answers + 1 + opened'; omega,
        by show _ = _ + (tally.failures + 1) + _; omega, hmade⟩
  | @purged _ reclaimed heq =>
      obtain ⟨hstats, hsize⟩ := purge_counts c
      rw [heq] at hstats hsize
      dsimp only at hstats hsize
      obtain rfl : opened' = opened := hopened
      refine ⟨?_, hanswers, ?_, ?_⟩
      · rw [hstats]
        exact hrequests
      · rw [hstats]
        exact hmisses
      · rw [hstats]
        show c.stats.compilations =
          c.stats.rejected + (c.stats.reclaimed + reclaimed) + tally.cleared + _
        omega
  | cleared =>
      obtain rfl : opened' = opened := hopened
      refine ⟨hrequests, hanswers, hmisses, ?_⟩
      show c.stats.compilations =
        c.stats.rejected + c.stats.reclaimed + (tally.cleared + c.size) + 0
      omega
  | held =>
      obtain rfl : opened' = opened := hopened
      exact ⟨hrequests, hanswers, hmisses, hmade⟩
  | released =>
      obtain rfl : opened' = opened := hopened
      exact ⟨hrequests, hanswers, hmisses, hmade⟩

/-! ### Runs of a machine -/

omit [BEq κ] in
/-- A step opens and closes requests of its thread as its event says. -/
theorem Moves.frames_length {code : σ → Act σ κ β ε → Prop} {t t' : Thread σ κ β ε}
    (h : Moves code t event t') :
    t'.frames.length + event.closes = t.frames.length + event.opens := by
  cases h <;> rfl

/-- The requests that are open, of all threads. -/
def Machine.frames (m : Machine σ κ α β ε) : List (Frame σ κ β ε) := m.threads.flatMap (·.frames)

omit [BEq κ] in
/-- What one thread opens or closes, all threads together do. -/
theorem length_flatMap_frames_set (t t' : Thread σ κ β ε) (threads : List (Thread σ κ β ε)) :
    ∀ i, threads[i]? = some t →
      ((threads.set i t').flatMap (·.frames)).length + t.frames.length =
        (threads.flatMap (·.frames)).length + t'.frames.length := by
  induction threads with
  | nil =>
      intro i hi
      cases hi
  | cons first rest ih =>
      intro i hi
      cases i with
      | zero =>
          obtain rfl : first = t := Option.some.inj hi
          rw [List.set_cons_zero, List.flatMap_cons, List.flatMap_cons, List.length_append,
            List.length_append]
          omega
      | succ i =>
          have hrest := ih i hi
          rw [List.set_cons_succ, List.flatMap_cons, List.flatMap_cons, List.length_append,
            List.length_append]
          omega

variable {code : σ → Act σ κ β ε → Prop} {m m' : Machine σ κ α β ε}

/-- A step opens and closes requests of a machine as its event says. -/
theorem Machine.Step.frames_length (hstep : Machine.Step code facet m event m') :
    m'.frames.length + event.closes = m.frames.length + event.opens := by
  cases hstep with
  | @mk i t t' _ c hi hmoves _ =>
      have hthread := hmoves.frames_length
      have hall := length_flatMap_frames_set t t' m.threads i hi
      show ((m.threads.set i t').flatMap (·.frames)).length + event.closes =
        (m.threads.flatMap (·.frames)).length + event.opens
      omega

/-- What any number of threads can reach from an empty cache, when none has an open request at
first, with what was counted on the way. -/
inductive Machine.Observed (code : σ → Act σ κ β ε → Prop) (facet : Facet α β) :
    Tally → Machine σ κ α β ε → Prop
  | start (strategy : CacheStrategy) (softLimit : Option Nat) (points : List σ) :
      Machine.Observed code facet ⟨0, 0, 0, 0⟩
        ⟨.empty strategy softLimit, points.map fun point => ⟨point, []⟩⟩
  | step {tally : Tally} {m m' : Machine σ κ α β ε} {event : Event κ β ε} :
      Machine.Observed code facet tally m → Machine.Step code facet m event m' →
      Machine.Observed code facet (tally.count m.cache event) m'

/-- What is observed can be reached. -/
theorem Machine.Observed.reachable (h : Machine.Observed code facet tally m) :
    Machine.Reachable code facet m := by
  induction h with
  | start strategy softLimit points => exact .start strategy softLimit _
  | step _ hstep ih => exact ih.step hstep

/-- A cache is balanced at every point of every run. -/
theorem Machine.Observed.balanced (h : Machine.Observed code facet tally m) :
    Balanced tally m.frames.length m.cache := by
  induction h with
  | start strategy softLimit points =>
      have hnone : (⟨.empty strategy softLimit, points.map fun point => ⟨point, []⟩⟩ :
          Machine σ κ α β ε).frames = [] := by
        show (points.map fun point => (⟨point, []⟩ : Thread σ κ β ε)).flatMap (·.frames) = []
        rw [List.flatMap_map, List.flatMap_eq_nil_iff]
        intro point _
        rfl
      rw [hnone]
      exact balanced_empty strategy softLimit
  | step hobserved hstep ih =>
      exact hstep.change.balanced hobserved.reachable.uniform hstep.frames_length ih

/-- No counter is ahead of the number of requests, also while some are open. -/
theorem Machine.Observed.counts_le (h : Machine.Observed code facet tally m) :
    ∀ count ∈ m.cache.stats.counts, count ≤ tally.requests := by
  obtain ⟨hrequests, -, hmisses, hmade⟩ := h.balanced
  simp only [CacheStats.counts, List.forall_mem_cons]
  refine ⟨?_, ?_, ?_, ?_, ?_, List.forall_mem_nil _⟩ <;> omega

/-- Words of 64 bits hold the counters as they are until `2 ^ 64` requests were made. -/
theorem Machine.Observed.toNat_ofNat_counts (h : Machine.Observed code facet tally m)
    (hfew : tally.requests < UInt64.size) :
    ∀ count ∈ m.cache.stats.counts, (UInt64.ofNat count).toNat = count := by
  intro count hcount
  exact UInt64.toNat_ofNat_of_lt' (Nat.lt_of_le_of_lt (h.counts_le count hcount) hfew)

/-- The counters of a cache add up whenever no request is open, whatever its threads have done.

Every request was a hit or a miss, and was answered once. Every miss led to an artifact or to a
failure. Every artifact was rejected because another one was published first, or reclaimed by a
purge, or taken out by a clear, or it is still there. -/
theorem Machine.Observed.add_up (h : Machine.Observed code facet tally m)
    (hidle : ∀ t ∈ m.threads, t.frames = []) :
    m.cache.stats.hits + m.cache.stats.misses = tally.requests ∧
      tally.answers = tally.requests ∧
      m.cache.stats.misses = m.cache.stats.compilations + tally.failures ∧
      m.cache.stats.compilations =
        m.cache.stats.rejected + m.cache.stats.reclaimed + tally.cleared + m.cache.size := by
  have hnone : m.frames = [] := List.flatMap_eq_nil_iff.2 hidle
  obtain ⟨hrequests, hanswers, hmisses, hmade⟩ := h.balanced
  rw [hnone, List.length_nil] at hanswers hmisses
  exact ⟨hrequests, hanswers.symm, hmisses, hmade⟩

/-! ### A making that requests what it makes -/

/-- The making for the key 7 requests the key 7 itself. What it makes in the end comes second and is
rejected. A making for the key 8 fails, the key 7 is found, and everything is cleared. -/
def nested : Nat → Act Nat Nat Nat String → Prop
  | 0, act => act = .request 7 (fun _ => 1) fun _ => 4
  | 1, act => act = .request 7 (fun _ => 2) fun _ => 3
  | 2, act => act = .finish (.ok 10) 7
  | 3, act => act = .finish (.ok 20) 7
  | 4, act => act = .request 8 (fun _ => 5) fun _ => 6
  | 5, act => act = .finish (.error "unmade") 8
  | 6, act => act = .request 7 (fun _ => 5) fun _ => 7
  | 7, act => act = .clear 8
  | _, _ => False

/-- Four requests were made of the cache, and it is empty again. -/
theorem add_up_nested : ∃ m : Machine Nat Nat Nat Nat String,
    Machine.Observed nested .whole ⟨4, 4, 1, 1⟩ m ∧ (∀ t ∈ m.threads, t.frames = []) ∧
      m.cache.stats = ⟨1, 3, 2, 1, 0⟩ ∧ m.cache.size = 0 ∧
      m.cache.stats.hits + m.cache.stats.misses = 4 := by
  have hstart : Machine.Observed nested .whole ⟨0, 0, 0, 0⟩
      (⟨.empty .temporary none, [⟨0, []⟩]⟩ : Machine Nat Nat Nat Nat String) :=
    .start .temporary none [0]
  have houter : nested 0 (.request 7 (fun _ => 1) fun _ => 4) := rfl
  have hinner : nested 1 (.request 7 (fun _ => 2) fun _ => 3) := rfl
  have hfirst : nested 2 (.finish (.ok 10) 7) := rfl
  have hsecond : nested 3 (.finish (.ok 20) 7) := rfl
  have hother : nested 4 (.request 8 (fun _ => 5) fun _ => 6) := rfl
  have herror : nested 5 (.finish (.error "unmade") 8) := rfl
  have hagain : nested 6 (.request 7 (fun _ => 5) fun _ => 7) := rfl
  have hclear : nested 7 (.clear 8) := rfl
  have hkept := ((hstart.step (.mk (i := 0) rfl (.missed houter) (.missed rfl))).step
    (.mk (i := 0) rfl (.missed hinner) (.missed rfl))).step
    (.mk (i := 0) rfl (.published hfirst) (.published rfl))
  have hrejected := hkept.step (.mk (i := 0) rfl (.published hsecond) (.published rfl))
  have hfailed := (hrejected.step (.mk (i := 0) rfl (.missed hother) (.missed rfl))).step
    (.mk (i := 0) rfl (.failed herror) .failed)
  have hfound := hfailed.step (.mk (i := 0) rfl (.hit hagain) (.hit rfl))
  have hcleared := hfound.step (.mk (i := 0) rfl (.cleared hclear) .cleared)
  have hidle : ∀ t ∈ [(⟨8, []⟩ : Thread Nat Nat Nat String)], t.frames = [] := by
    intro t ht
    rw [List.mem_singleton.1 ht]
  exact ⟨_, hcleared, hidle, rfl, rfl, (hcleared.add_up hidle).1⟩

end Introspect.Cache
