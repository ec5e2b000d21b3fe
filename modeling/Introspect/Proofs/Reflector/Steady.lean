import Introspect.Proofs.Reflector.Operations

/-!
# `Introspect.Proofs.Reflector.Steady`: kept accessors that are still right

An accessor is prepared from the types that there are when it is requested, and it answers later
requests as it is, whatever the types have become. `Faithful` says of one request that what is kept
for it would be prepared again. `Current` says so of all that is kept.

No operation of a reflector touches the types, so operations keep a session current
(`invariant_current`). The world may change as well, if everything that could be compiled is
compiled to the same afterwards (`Upholds`), and in any way when the reflector is cleared with it.
While the registry stays as it is, all is upheld. A publication can break it: a request may have
named a handle that was still reserved. `Steady` are the sessions that come about like this, and
`Steady.faithful` is the result.
-/

set_option autoImplicit false

namespace Introspect

variable {β : Type} {compiler : Compiler β} {sig key : Signature}

/-! ### One compiler for each request -/

/-- The compiler that requests of a kind and direction are meant for. A mapping has none. -/
def Signature.compiler? (sig : Signature) : Option ((β : Type) × Compiler β) :=
  match sig.kind, sig.direction with
  | .field, .read | .property, .read => some ⟨_, .getter⟩
  | .field, .write | .property, .write => some ⟨_, .setter⟩
  | .method, _ => some ⟨_, .method⟩
  | .constructor, _ => some ⟨_, .constructor⟩
  | .element, .read => some ⟨_, .elementGetter⟩
  | .element, .write => some ⟨_, .elementSetter⟩
  | .mapping, _ => none

/-- It is the one that a request is made with. -/
theorem Asks.compiler_eq (h : Asks compiler sig) : sig.compiler? = some ⟨β, compiler⟩ := by
  cases h <;> rfl

/-- A request has no notes of an earlier resolution. -/
theorem Asks.identity_eq (h : Asks compiler sig) : sig.identity = sig := by
  cases h <;> rfl

/-- So requests that ask for the same are the same. -/
theorem Asks.eq_of_beq {γ : Type} {other : Compiler γ} (h : Asks compiler sig)
    (hkey : Asks other key) (hsame : (sig == key) = true) : sig = key := by
  rw [← h.identity_eq, ← hkey.identity_eq]
  exact (Signature.beq_iff_identity sig key).mp hsame

namespace Reflector

variable {s : Session}

/-! ### What is kept would be prepared again -/

/-- An accessor that was prepared for a key would be prepared for it again. -/
def Reproduced (reg : Registry) (entry : Signature × Artifact Accessor) : Prop :=
  ∃ (β : Type) (compiler : Compiler β) (prepared : Prepared β), Asks compiler entry.1 ∧
    (compiler.compile reg entry.1).1 = .ok prepared ∧
    entry.2.content = compiler.facet.wrap prepared

/-- Every kept accessor would be prepared again from the types of the session. -/
def Current (s : Session) : Prop :=
  ∀ entry ∈ s.reflector.members.entries, Reproduced s.world.registry entry

/-- Operations keep a session current: what a request publishes was compiled from its types. -/
theorem invariant_current : Invariant Current where
  request {_ compiler sig} hasks s h entry hentry := by
    rw [world_request]
    rcases mem_entries_request hentry with hold | ⟨hkey, prepared, hcompile, hcontent⟩
    · exact h entry hold
    · obtain ⟨_, artifact⟩ := entry
      obtain rfl := hkey
      exact ⟨_, compiler, prepared, hasks, hcompile, hcontent⟩
  fewer hworld hentries _ _ h entry hentry := by
    rw [hworld]
    exact h entry (hentries hentry)

/-- What is kept for a request in a current session was compiled from its types. -/
theorem Current.faithful (h : Current s) (hasks : Asks compiler sig) : Faithful compiler sig s := by
  intro answer hanswer
  obtain ⟨kept, hkept, hview⟩ := Option.bind_eq_some_iff.mp hanswer
  obtain ⟨content, hcontent, hsame⟩ := Option.bind_eq_some_iff.mp hview
  obtain rfl := Option.some.inj hsame
  obtain ⟨entry, hentry, hkey, rfl⟩ := Cache.exists_of_find? hkept
  obtain ⟨γ, other, prepared, hother, hcompile, hwrap⟩ := h entry hentry
  -- The key is the request, so it was compiled by the same compiler.
  obtain rfl : sig = entry.1 := hasks.eq_of_beq hother hkey
  obtain ⟨rfl, hcompiler⟩ := Sigma.mk.inj (Option.some.inj
    (hasks.compiler_eq.symm.trans hother.compiler_eq))
  obtain rfl := eq_of_heq hcompiler
  rw [hwrap, compiler.facet.view_wrap] at hcontent
  obtain rfl := Option.some.inj hcontent
  exact hcompile

/-! ### Sessions -/

/-- What is compiled from some types is compiled to the same from others. -/
def Upholds (reg next : Registry) : Prop :=
  ∀ {β : Type} (compiler : Compiler β) (sig : Signature), Asks compiler sig → ∀ prepared,
    (compiler.compile reg sig).1 = .ok prepared → (compiler.compile next sig).1 = .ok prepared

/-- The sessions that users can come to from an unused reflector, if the types change only in ways
that leave the results of compilations as they are, or when the reflector is cleared. -/
inductive Steady : Session → Prop
  | start (w : World) (strategy : CacheStrategy) (softLimit : Option Nat) (flags : Flags) :
      Steady ⟨w, .empty strategy softLimit flags⟩
  | perform {s : Session} (op : Operation) : Steady s → Steady (op.perform s)
  | become {s : Session} (w : World) : Steady s → Upholds s.world.registry w.registry →
      Steady { s with world := w }
  | renew {s : Session} (w : World) : Steady s → Steady ⟨w, s.reflector.clear⟩

/-- All that is kept in a steady session is current. -/
theorem Steady.current (h : Steady s) : Current s := by
  induction h with
  | start w strategy softLimit flags => exact fun entry hentry => absurd hentry List.not_mem_nil
  | perform op _ ih => exact invariant_current.perform ih op
  | become w _ hupholds ih =>
      intro entry hentry
      obtain ⟨β, compiler, prepared, hasks, hcompile, hcontent⟩ := ih entry hentry
      exact ⟨β, compiler, prepared, hasks, hupholds compiler _ hasks _ hcompile, hcontent⟩
  | renew w _ _ => exact fun entry hentry => absurd hentry List.not_mem_nil

/-- Every request is faithful in a steady session. -/
theorem Steady.faithful (h : Steady s) (hasks : Asks compiler sig) : Faithful compiler sig s :=
  h.current.faithful hasks

end Reflector

end Introspect
