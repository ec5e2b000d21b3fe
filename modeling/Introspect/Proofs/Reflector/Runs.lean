import Introspect.Shortcut

/-!
# `Introspect.Proofs.Reflector.Runs`: what a computation does to a session

A computation of a reflector takes a session to a result, or a failure, and a session. `run_bind`
says how two of them follow each other, and the other lemmas say what each of the small ones does.

`run_request` is about a request for an accessor: while what is kept for it was compiled from the
types that the session has (`Faithful`), a request ends as the compilation does, whether anything is
kept or not, and leaves the world alone (`run_request_of_compile`).
-/

set_option autoImplicit false

namespace Introspect.Reflector

variable {α β : Type}

/-- A computation goes on after a result and ends with a failure. -/
theorem run_bind (work : ReflectM α) (rest : α → ReflectM β) (s : Session) :
    (work >>= rest).run s =
      match work.run s with
      | (.ok a, next) => (rest a).run next
      | (.error e, next) => (.error e, next) := by
  have hbind : (work >>= rest).run s = ExceptT.bindCont rest (work.run s).1 (work.run s).2 := rfl
  rw [hbind]
  rcases work.run s with ⟨result, next⟩
  cases result <;> rfl

/-- A failure is handled in the session that it arose in. -/
theorem run_tryCatch (work : ReflectM α) (handle : ReflectError → ReflectM α) (s : Session) :
    (tryCatch work handle).run s =
      match work.run s with
      | (.ok a, next) => (.ok a, next)
      | (.error e, next) => (handle e).run next := by
  rcases hrun : work.run s with ⟨result, next⟩
  have hstep : work s = (result, next) := hrun
  simp only [tryCatch, tryCatchThe, MonadExceptOf.tryCatch, ExceptT.tryCatch, ExceptT.mk,
    ExceptT.run, bind, StateT.bind, hstep]
  cases result <;> rfl

@[simp] theorem run_pure (a : α) (s : Session) : (pure a : ReflectM α).run s = (.ok a, s) := rfl

@[simp] theorem run_throw (e : ReflectError) (s : Session) :
    (throw e : ReflectM α).run s = (.error e, s) := rfl

@[simp] theorem run_get (s : Session) : (get : ReflectM Session).run s = (.ok s, s) := rfl

@[simp] theorem run_registry (s : Session) : registry.run s = (.ok s.world.registry, s) := rfl

@[simp] theorem run_update (change : Reflector → α × Reflector) (s : Session) :
    (update change).run s =
      (.ok (change s.reflector).1, { s with reflector := (change s.reflector).2 }) := rfl

@[simp] theorem run_inWorld (f : World → α × World) (s : Session) :
    (inWorld f).run s = (.ok (f s.world).1, { s with world := (f s.world).2 }) := rfl

/-- What is found out from the types leaves the session alone. -/
@[simp] theorem run_ofRegistry (f : Registry → Except ReflectError α) (s : Session) :
    (ofRegistry f).run s = (f s.world.registry, s) := by
  show (ofRegistry.liftExcept (f s.world.registry)).run s = _
  cases f s.world.registry <;> rfl

/-- A call changes the world only. -/
@[simp] theorem run_invoke (call : World → Except InvokeError α × World) (s : Session) :
    (invoke call).run s =
      ((call s.world).1.mapError .invoke, { s with world := (call s.world).2 }) := by
  unfold invoke
  rw [run_bind, run_inWorld]
  cases (call s.world).1 <;> rfl

/-- An action on an accessor ends with one hold less, whatever its result is. -/
theorem run_use (artifact : Artifact α) (action : ReflectM β) (s : Session) :
    (use artifact action).run s =
      ((action.run s).1, { (action.run s).2 with
        reflector := { (action.run s).2.reflector with
          members := (action.run s).2.reflector.members.release artifact.id } }) := rfl

/-! ### Requests -/

/-- What is kept for a request was compiled from the types of the session. It is so for every
request of a session whose types have changed, while anything was kept, only in ways that leave the
results of compilations as they are (`Steady.faithful`). -/
def Faithful (compiler : Compiler β) (sig : Signature) (s : Session) : Prop :=
  ∀ kept, s.reflector.members.findAs? compiler.facet sig = some kept →
    (compiler.compile s.world.registry sig).1 = .ok kept.content

/-- While nothing is kept in the wanted form, a publication answers with what was made. -/
theorem content_publish {κ γ : Type} [BEq κ] {c : Cache κ γ} {facet : Facet γ β} {key : κ}
    (h : c.findAs? facet key = none) (made : β) : (c.publish facet key made).1.content = made := by
  have hfindAs : ∀ stats issued,
      Cache.findAs? { c with stats := stats, issued := issued } facet key = none :=
    fun _ _ => h
  unfold Cache.publish
  simp only [hfindAs]
  split <;> rfl

/-- Preparing an accessor counts a resolution and changes nothing else. -/
theorem run_prepare (compiler : Compiler β) (sig : Signature) (s : Session) :
    (prepare compiler sig).run s =
      ((compiler.compile s.world.registry sig).1, { s with
        reflector := { s.reflector with
          resolutions := s.reflector.resolutions +
            (compiler.compile s.world.registry sig).2 } }) := by
  unfold prepare
  rw [run_bind, run_registry]
  dsimp only
  rcases compiler.compile s.world.registry sig with ⟨result, resolved⟩
  cases result <;> rfl

/-- A request is answered with what is kept, or compiled and published. A failure is that of the
compilation. -/
theorem run_request_eq (compiler : Compiler β) (sig : Signature) (s : Session) :
    (request compiler sig).run s =
      match s.reflector.members.lookup compiler.facet sig with
      | (some found, members) =>
        (.ok found, { s with reflector := { s.reflector with members } })
      | (none, members) =>
        let resolutions := s.reflector.resolutions + (compiler.compile s.world.registry sig).2
        match (compiler.compile s.world.registry sig).1 with
        | .error e => (.error e, { s with reflector := { s.reflector with members, resolutions } })
        | .ok prepared =>
          let (answer, members) := members.publish compiler.facet sig prepared
          (.ok answer, { s with reflector := { s.reflector with members, resolutions } }) := by
  have hlookup : (updateMembers (·.lookup compiler.facet sig) : ReflectM _).run s =
      (.ok (s.reflector.members.lookup compiler.facet sig).1, { s with
        reflector := { s.reflector with
          members := (s.reflector.members.lookup compiler.facet sig).2 } }) := run_update _ s
  unfold request Cache.request
  rw [run_bind, hlookup]
  rcases s.reflector.members.lookup compiler.facet sig with ⟨found, members⟩
  cases found with
  | some found => rfl
  | none =>
      dsimp only
      rw [run_bind, run_prepare]
      rcases compiler.compile s.world.registry sig with ⟨result, n⟩
      cases result <;> rfl

/-- What is kept for a request is the answer to it. -/
theorem run_request_of_kept {compiler : Compiler β} {sig : Signature} {s : Session}
    {kept : Artifact (Prepared β)}
    (hkept : s.reflector.members.findAs? compiler.facet sig = some kept) :
    ((request compiler sig).run s).1 = .ok kept ∧
      ((request compiler sig).run s).2.world = s.world := by
  rw [run_request_eq]
  simp only [Cache.lookup, hkept, and_self]

/-- A request for which nothing is kept ends as the compilation does. -/
theorem run_request_of_missing {compiler : Compiler β} {sig : Signature} {s : Session}
    (hmissing : s.reflector.members.findAs? compiler.facet sig = none) :
    ((request compiler sig).run s).1.map (·.content)
        = (compiler.compile s.world.registry sig).1 ∧
      ((request compiler sig).run s).2.world = s.world := by
  have hstill : (s.reflector.members.lookup compiler.facet sig).2.findAs? compiler.facet sig
      = none := by
    simp only [Cache.lookup, hmissing]
    exact hmissing
  rw [run_request_eq]
  cases hresult : (compiler.compile s.world.registry sig).1 with
  | error e => simp only [Cache.lookup, hmissing, Except.map, and_self]
  | ok prepared =>
      -- The look-up has counted a miss, so it is its cache that the accessor is published in.
      simp only [Cache.lookup, hmissing] at hstill ⊢
      exact ⟨congrArg Except.ok (content_publish hstill prepared), trivial⟩

/-- A request ends as the compilation does, and the world stays as it was. -/
theorem run_request {compiler : Compiler β} {sig : Signature} {s : Session}
    (h : Faithful compiler sig s) :
    ((request compiler sig).run s).1.map (·.content)
        = (compiler.compile s.world.registry sig).1 ∧
      ((request compiler sig).run s).2.world = s.world := by
  cases hfound : s.reflector.members.findAs? compiler.facet sig with
  | none => exact run_request_of_missing hfound
  | some kept =>
      obtain ⟨hresult, hworld⟩ := run_request_of_kept hfound
      rw [hresult, h kept hfound]
      exact ⟨rfl, hworld⟩

/-- A request that can be compiled is answered with what is compiled for it. -/
theorem run_request_of_compile {compiler : Compiler β} {sig : Signature} {s : Session}
    {prepared : Prepared β} {n : Nat} (h : Faithful compiler sig s)
    (hcompile : compiler.compile s.world.registry sig = (.ok prepared, n)) :
    ∃ artifact next, (request compiler sig).run s = (.ok artifact, next) ∧
      artifact.content = prepared ∧ next.world = s.world := by
  obtain ⟨hcontent, hworld⟩ := run_request h
  rcases hrun : (request compiler sig).run s with ⟨result, next⟩
  rw [hrun] at hcontent hworld
  cases result with
  | error e => simp [hcompile, Except.map] at hcontent
  | ok artifact =>
      have hprepared : artifact.content = prepared := by
        simpa [hcompile, Except.map] using hcontent
      exact ⟨artifact, next, rfl, hprepared, hworld⟩

end Introspect.Reflector
