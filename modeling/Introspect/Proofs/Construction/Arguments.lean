import Introspect.Construction
import Introspect.Proofs.Resolver.Chain
import Introspect.Proofs.World.Cast

/-!
# `Introspect.Proofs.Construction.Arguments`: values that fit a parameter list

`fit` tells whether a value reaches a place of a type, and `coerce` brings it there; the one says
yes exactly when the other succeeds (`exists_coerce_iff`). So a parameter list accepts values
exactly when there is one value for each parameter, and each of them fits
(`argumentsFor_isSome_iff`).
-/

set_option autoImplicit false

namespace Introspect

namespace World

variable {w : World} {v : Value} {type : TypeHandle}

/-- A value that fits as it is can be converted by the checked conversion. -/
theorem cast_of_fit_direct (h : w.fit v type = some .direct) : ∃ r, w.cast v type = .ok r := by
  by_cases htype : type = .object
  · exact ⟨v, by simp [cast, htype]⟩
  refine ⟨w.opened v, (cast_eq_ok_iff htype).mpr ⟨rfl, ?_⟩⟩
  rw [typeOf_opened_eq]
  unfold fit at h
  cases hactual : w.typeOf v with
  | none =>
      refine .inl ⟨rfl, ?_⟩
      cases hvalue : w.registry.isValueType type with
      | false => rfl
      | true => simp [hactual, hvalue] at h
  | some actual =>
      refine .inr ⟨actual, rfl, ?_⟩
      cases hassign : w.registry.isAssignable type actual with
      | true => rfl
      | false => simp [hactual, hassign] at h

/-- A value that fits after a conversion can be converted. -/
theorem convert_of_fit_converted (h : w.fit v type = some .converted) :
    ∃ r, w.convert v type = some r := by
  unfold fit at h
  split at h
  · split at h <;> cases h
  · split at h
    · cases h
    · cases hconvert : w.convert v type with
      | none => simp [hconvert] at h
      | some r => exact ⟨r, rfl⟩

/-- A value can be brought to a place of a type exactly when it fits. -/
theorem exists_coerce_iff : (∃ r, w.coerce v type = .ok r) ↔ (w.fit v type).isSome = true := by
  unfold coerce
  cases hfit : w.fit v type with
  | none => simp
  | some fit =>
      cases fit with
      | direct => simpa using cast_of_fit_direct hfit
      | converted =>
          obtain ⟨r, hr⟩ := convert_of_fit_converted hfit
          simp [hr]

end World

namespace Reflector

variable {w : World} {values : List Value} {params : List ParameterInfo}

/-- Values that fit the parameters they are for. -/
def Accepted (w : World) (params : List ParameterInfo) (values : List Value) : Prop :=
  List.Forall₂ (fun (p : ParameterInfo) v => (w.fit v p.type).isSome = true) params values

/-- A parameter list accepts values exactly when there is one for each parameter and each fits. -/
theorem argumentsFor_isSome_iff :
    (argumentsFor w values params).isSome = true ↔ Accepted w params values := by
  have hall : ∀ {params : List ParameterInfo} {values : List Value},
      params.length = values.length →
      (((params.zip values).mapM fun (p : ParameterInfo × Value) =>
        (w.coerce p.2 p.1.type).toOption).isSome = true ↔ Accepted w params values) := by
    intro params
    induction params with
    | nil =>
        intro values hcount
        obtain rfl : values = [] := List.eq_nil_of_length_eq_zero hcount.symm
        simp [Accepted]
    | cons param rest ih =>
        intro values hcount
        cases values with
        | nil => cases hcount
        | cons v others =>
            have hrest := ih (Nat.succ.inj hcount)
            rw [Accepted, List.forall₂_cons, ← World.exists_coerce_iff, ← Accepted, ← hrest]
            simp only [List.zip_cons_cons, List.mapM_cons]
            cases w.coerce v param.type with
            | error e => simp [Except.toOption]
            | ok r =>
                cases (rest.zip others).mapM fun (p : ParameterInfo × Value) =>
                  (w.coerce p.2 p.1.type).toOption <;> simp [Except.toOption]
  unfold argumentsFor
  split
  · next hcount =>
      refine ⟨fun h => by simp at h, fun h => absurd h.length_eq hcount⟩
  · next hcount =>
      rw [Option.isSome_map]
      exact hall (not_not.mp hcount)

/-- The types and values of a parameter list that accepts. -/
theorem argumentsFor_types {types : List TypeHandle} {args : List Value}
    (h : argumentsFor w values params = some (types, args)) : types = params.map (·.type) := by
  unfold argumentsFor at h
  split at h
  · cases h
  · obtain ⟨found, -, hfound⟩ := Option.map_eq_some_iff.mp h
    exact (congrArg (·.1) hfound).symm

end Reflector

end Introspect
