import Introspect.Proofs.Cache.Observable
import Introspect.Signature
import Mathlib.Logic.Relation

/-!
# `Introspect.Proofs.Cache.Request`: a whole request, step by step

`Cache.request` is one function; the machine takes it apart. `Performs` says that the code from some
point on does what a computation on the cache does, where requests are `Cache.request` and the
making of an artifact may use the cache in turn. `Performs.ends` is the connection: a thread at such
a point, left alone, ends with the result of the computation and the cache that the computation
leaves. So the steps of `Moves` and `Change` are those of the running program.

Signatures are compared by what they ask for, and that is an equivalence, as the facts about keys
require.
-/

set_option autoImplicit false

namespace Introspect

/-! ### Keys -/

/-- What a signature asks for, without what resolution found. -/
def Signature.identity (sig : Signature) : Signature := { sig with resolution := none }

/-- Signatures are compared by what they ask for. -/
theorem Signature.beq_iff_identity (a b : Signature) :
    (a == b) = true ↔ a.identity = b.identity := by
  show a.same b = true ↔ _
  obtain ⟨⟩ := a
  obtain ⟨⟩ := b
  simp only [Signature.same, Signature.identity, Bool.and_eq_true, beq_iff_eq,
    Signature.mk.injEq]
  constructor
  · rintro ⟨⟨⟨⟨⟨⟨htarget, hkind⟩, hdirection⟩, hflags⟩, hname⟩, hparams⟩, htypeArgs⟩
    exact ⟨htarget, hflags, hkind, hdirection, hname, hparams, htypeArgs, trivial⟩
  · rintro ⟨htarget, hflags, hkind, hdirection, hname, hparams, htypeArgs, -⟩
    exact ⟨⟨⟨⟨⟨⟨htarget, hkind⟩, hdirection⟩, hflags⟩, hname⟩, hparams⟩, htypeArgs⟩

/-- Requests for mappings are compared by what they ask for as well. -/
theorem MapSignature.beq_iff_identity (a b : MapSignature) :
    (a == b) = true ↔
      { a with base := a.base.identity } = { b with base := b.base.identity } := by
  show a.same b = true ↔ _
  have hbase : a.base.same b.base = true ↔ a.base.identity = b.base.identity :=
    Signature.beq_iff_identity a.base b.base
  obtain ⟨⟩ := a
  obtain ⟨⟩ := b
  simp only [MapSignature.same, Bool.and_eq_true, beq_iff_eq, MapSignature.mk.injEq, hbase,
    and_assoc]

instance : EquivBEq Signature where
  rfl := by
    intro a
    exact (Signature.beq_iff_identity a a).2 rfl
  symm := by
    intro a b hab
    rw [Signature.beq_iff_identity] at hab ⊢
    exact hab.symm
  trans := by
    intro a b c hab hbc
    rw [Signature.beq_iff_identity] at hab hbc ⊢
    exact hab.trans hbc

instance : EquivBEq MapSignature where
  rfl := by
    intro a
    exact (MapSignature.beq_iff_identity a a).2 rfl
  symm := by
    intro a b hab
    rw [MapSignature.beq_iff_identity] at hab ⊢
    exact hab.symm
  trans := by
    intro a b c hab hbc
    rw [MapSignature.beq_iff_identity] at hab hbc ⊢
    exact hab.trans hbc

namespace Cache

/-- A computation on a cache that may fail. -/
abbrev Work (κ α ε : Type) : Type → Type := ExceptT ε (StateM (Cache κ α))

variable {σ κ α β ε γ : Type}

/-- One use of the cache. -/
def Work.update (change : Cache κ α → γ × Cache κ α) : Work κ α ε γ :=
  ExceptT.lift change

/-- A computation with its failure as a result. -/
def Work.outcome (work : Work κ α ε γ) : Work κ α ε (Except ε γ) :=
  ExceptT.lift work.run

/-- One use of the cache succeeds. -/
theorem run_update (change : Cache κ α → γ × Cache κ α) (c : Cache κ α) :
    (Work.update change : Work κ α ε γ).run c = (.ok (change c).1, (change c).2) := rfl

/-- A computation with its failure as a result succeeds. -/
theorem run_outcome (work : Work κ α ε γ) (c : Cache κ α) :
    work.outcome.run c = (.ok (work.run c).1, (work.run c).2) := rfl

/-- A computation goes on after a result. -/
theorem run_bind_of_ok {δ : Type} {work : Work κ α ε γ} {rest : γ → Work κ α ε δ}
    {c d : Cache κ α} {a : γ} (h : work.run c = (.ok a, d)) :
    (work >>= rest).run c = (rest a).run d := by
  have hbind : (work >>= rest).run c =
      ExceptT.bindCont rest (work.run c).1 (work.run c).2 := rfl
  rw [hbind, h]
  rfl

/-- A computation ends with its first failure. -/
theorem run_bind_of_error {δ : Type} {work : Work κ α ε γ} {rest : γ → Work κ α ε δ}
    {c d : Cache κ α} {error : ε} (h : work.run c = (.error error, d)) :
    (work >>= rest).run c = (.error error, d) := by
  have hbind : (work >>= rest).run c =
      ExceptT.bindCont rest (work.run c).1 (work.run c).2 := rfl
  rw [hbind, h]
  rfl

/-- A computation goes on after a failure that is a result. -/
theorem run_outcome_bind {δ : Type} (work : Work κ α ε γ) (rest : Except ε γ → Work κ α ε δ)
    (c : Cache κ α) :
    (work.outcome >>= rest).run c = (rest (work.run c).1).run (work.run c).2 :=
  run_bind_of_ok (run_outcome work c)

variable [BEq κ]

/-- What the code does from some point on, as a computation. -/
inductive Performs (code : σ → Act σ κ β ε → Prop) (facet : Facet α β) :
    σ → Work κ α ε β → Prop
  | finish {point : σ} {result : Except ε β} {copy : κ} :
      code point (.finish result copy) → Performs code facet point (ExceptT.mk (pure result))
  | request {point : σ} {key : κ} {make : κ → σ} {resume : Except ε (Artifact β) → σ}
      {making : κ → Work κ α ε β} {rest : Except ε (Artifact β) → Work κ α ε β} :
      code point (.request key make resume) →
      (∀ copy, Performs code facet (make copy) (making copy)) →
      (∀ answer, Performs code facet (resume answer) (rest answer)) →
      Performs code facet point
        ((Cache.request Work.update facet key making).outcome >>= rest)
  | purge {point : σ} {resume : Nat → σ} {rest : Nat → Work κ α ε β} :
      code point (.purge resume) →
      (∀ reclaimed, Performs code facet (resume reclaimed) (rest reclaimed)) →
      Performs code facet point (Work.update (·.purge) >>= rest)
  | clear {point resume : σ} {rest : Work κ α ε β} :
      code point (.clear resume) → Performs code facet resume rest →
      Performs code facet point ((Work.update fun c => ((), c.clear)) >>= fun _ => rest)
  | hold {point resume : σ} {id : Nat} {rest : Work κ α ε β} :
      code point (.hold id resume) → Performs code facet resume rest →
      Performs code facet point ((Work.update fun c => ((), c.hold id)) >>= fun _ => rest)
  | release {point resume : σ} {id : Nat} {rest : Work κ α ε β} :
      code point (.release id resume) → Performs code facet resume rest →
      Performs code facet point ((Work.update fun c => ((), c.release id)) >>= fun _ => rest)

/-- One step of a thread that is left alone. -/
def Alone (code : σ → Act σ κ β ε → Prop) (facet : Facet α β)
    (before after : Thread σ κ β ε × Cache κ α) : Prop :=
  ∃ event, Moves code before.1 event after.1 ∧ Change facet before.2 event after.2

variable {code : σ → Act σ κ β ε → Prop} {facet : Facet α β} {point : σ}

section
variable {c d e : Cache κ α} {key : κ} {making : κ → Work κ α ε β}

/-- A request that finds something needs no making. -/
theorem run_request_of_found {a : Artifact β} (h : c.lookup facet key = (some a, d)) :
    (Cache.request Work.update facet key making).run c = (.ok a, d) := by
  have hlookup : (Work.update (·.lookup facet key) : Work κ α ε _).run c = (.ok (some a), d) := by
    rw [run_update, h]
  rw [Cache.request, run_bind_of_ok hlookup]
  rfl

/-- A request that finds nothing publishes what it makes. -/
theorem run_request_of_made {made : β} (h : c.lookup facet key = (none, d))
    (hmade : (making key).run d = (.ok made, e)) :
    (Cache.request Work.update facet key making).run c =
      (.ok (e.publish facet key made).1, (e.publish facet key made).2) := by
  have hlookup : (Work.update (·.lookup facet key) : Work κ α ε _).run c = (.ok none, d) := by
    rw [run_update, h]
  rw [Cache.request, run_bind_of_ok hlookup]
  show (making key >>= _).run d = _
  rw [run_bind_of_ok hmade]
  rfl

/-- A request whose making fails ends with that failure. -/
theorem run_request_of_failed {error : ε} (h : c.lookup facet key = (none, d))
    (hfailed : (making key).run d = (.error error, e)) :
    (Cache.request Work.update facet key making).run c = (.error error, e) := by
  have hlookup : (Work.update (·.lookup facet key) : Work κ α ε _).run c = (.ok none, d) := by
    rw [run_update, h]
  rw [Cache.request, run_bind_of_ok hlookup]
  show (making key >>= _).run d = _
  rw [run_bind_of_error hfailed]

end

/-- Whatever the cache and the open requests, a thread that is left alone at a point gets to the end
of the making, with the result of a computation and the cache that it leaves. -/
def Ends (code : σ → Act σ κ β ε → Prop) (facet : Facet α β) (point : σ) (work : Work κ α ε β) :
    Prop :=
  ∀ (c : Cache κ α) (frames : List (Frame σ κ β ε)), ∃ last copy,
    Relation.ReflTransGen (Alone code facet) (⟨point, frames⟩, c)
      (⟨last, frames⟩, (work.run c).2) ∧
    code last (.finish (work.run c).1 copy)

/-- A request goes on with its answer when its making does what it should. -/
theorem steps_of_request {key : κ} {make : κ → σ} {resume : Except ε (Artifact β) → σ}
    {making : κ → Work κ α ε β} (hcode : code point (.request key make resume))
    (hmaking : Ends code facet (make key) (making key)) (c : Cache κ α)
    (frames : List (Frame σ κ β ε)) :
    Relation.ReflTransGen (Alone code facet) (⟨point, frames⟩, c)
      (⟨resume ((Cache.request Work.update facet key making).run c).1, frames⟩,
        ((Cache.request Work.update facet key making).run c).2) := by
  rcases hlookup : c.lookup facet key with ⟨found, d⟩
  cases found with
  | some a =>
      rw [run_request_of_found hlookup]
      exact .single ⟨_, .hit hcode, .hit hlookup⟩
  | none =>
      have hmissed : Alone code facet (⟨point, frames⟩, c)
          (⟨make key, ⟨key, resume⟩ :: frames⟩, d) :=
        ⟨_, .missed hcode, .missed hlookup⟩
      -- The making runs above the frame of the request, which its end takes off again.
      obtain ⟨ready, copy, hsteps, hready⟩ := hmaking d (⟨key, resume⟩ :: frames)
      rcases hmade : (making key).run d with ⟨result, e⟩
      rw [hmade] at hsteps hready
      cases result with
      | ok made =>
          rw [run_request_of_made hlookup hmade]
          have hpublished : Alone code facet (⟨ready, ⟨key, resume⟩ :: frames⟩, e)
              (⟨resume (.ok (e.publish facet key made).1), frames⟩,
                (e.publish facet key made).2) :=
            ⟨_, .published hready, .published rfl⟩
          exact .head hmissed (hsteps.tail hpublished)
      | error error =>
          rw [run_request_of_failed hlookup hmade]
          have hfailed : Alone code facet (⟨ready, ⟨key, resume⟩ :: frames⟩, e)
              (⟨resume (.error error), frames⟩, e) :=
            ⟨_, .failed hready, .failed⟩
          exact .head hmissed (hsteps.tail hfailed)

/-- A thread that is left alone does what the computation does. -/
theorem Performs.ends {work : Work κ α ε β} (h : Performs code facet point work) :
    Ends code facet point work := by
  induction h with
  | @finish point result copy hcode =>
      intro c frames
      exact ⟨point, copy, .refl, hcode⟩
  | @request point key make resume making rest hcode _ _ ihmake ihrest =>
      intro c frames
      rw [run_outcome_bind]
      obtain ⟨last, copy, hsteps, hlast⟩ := ihrest _ _ frames
      exact ⟨last, copy, (steps_of_request hcode (ihmake key) c frames).trans hsteps, hlast⟩
  | @purge point resume rest hcode _ ih =>
      intro c frames
      rw [run_bind_of_ok (run_update _ c)]
      obtain ⟨last, copy, hsteps, hlast⟩ := ih c.purge.1 c.purge.2 frames
      exact ⟨last, copy, .head ⟨_, .purged hcode, .purged rfl⟩ hsteps, hlast⟩
  | @clear point resume rest hcode _ ih =>
      intro c frames
      rw [run_bind_of_ok (run_update _ c)]
      obtain ⟨last, copy, hsteps, hlast⟩ := ih c.clear frames
      exact ⟨last, copy, .head ⟨_, .cleared hcode, .cleared⟩ hsteps, hlast⟩
  | @hold point resume id rest hcode _ ih =>
      intro c frames
      rw [run_bind_of_ok (run_update _ c)]
      obtain ⟨last, copy, hsteps, hlast⟩ := ih (c.hold id) frames
      exact ⟨last, copy, .head ⟨_, .held hcode, .held⟩ hsteps, hlast⟩
  | @release point resume id rest hcode _ ih =>
      intro c frames
      rw [run_bind_of_ok (run_update _ c)]
      obtain ⟨last, copy, hsteps, hlast⟩ := ih (c.release id) frames
      exact ⟨last, copy, .head ⟨_, .released hcode, .released⟩ hsteps, hlast⟩

end Cache

end Introspect
