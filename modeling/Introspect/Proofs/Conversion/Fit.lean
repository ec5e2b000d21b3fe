import Introspect.Proofs.Construction.Instances
import Introspect.Proofs.Conversion.Boxed
import Introspect.Proofs.Registry.Variants

/-!
# `Introspect.Proofs.Conversion.Fit`: one decision in four places

Whether a value reaches a place of a type is decided four times: `fit` says how it does, `coerce`
brings it there, `cast` takes it as it is, and `convert` makes another value of it. `fit_agrees`
says that the four never disagree, for a value inside any number of cells and for every type.

The argument is that a conversion gives a value of the very type that was asked for
(`directType_convertTo`). For a text that names a constant of an enumeration this holds only if the
constant is a member of that enumeration, which is the second hypothesis. The first one, that the
built-in types are what they are at the start, is needed for null alone: every place of the root
type takes it, so the root type may not be a value type.
-/

set_option autoImplicit false

namespace Introspect

open World (directType)

/-! ### Conversions give values of the type asked for -/

section Types

variable {type : TypeHandle} {v r : Value}

/-- A number becomes a value of the type asked for. -/
theorem Number.directType_toType {number : Number} (h : number.toType type = some r) :
    directType r = some type := by
  unfold toType at h
  split_ifs at h with hint32 hint64 hfloat64 hbool
  · obtain ⟨n, -, rfl⟩ := Option.map_eq_some_iff.mp h
    exact congrArg some hint32.symm
  · obtain ⟨n, -, rfl⟩ := Option.map_eq_some_iff.mp h
    exact congrArg some hint64.symm
  · obtain rfl := Option.some.inj h
    exact congrArg some hfloat64.symm
  · obtain rfl := Option.some.inj h
    exact congrArg some hbool.symm

/-- A text is read as a value of the type asked for. -/
theorem directType_valueOfText {text : String} (h : valueOfText text type = some r) :
    directType r = some type := by
  unfold valueOfText at h
  split at h
  · cases h
  · split_ifs at h with hbool hint32 hint64 hfloat64
    · obtain ⟨b, -, rfl⟩ := Option.map_eq_some_iff.mp h
      exact congrArg some hbool.symm
    · obtain ⟨n, -, rfl⟩ := Option.map_eq_some_iff.mp h
      exact congrArg some hint32.symm
    · obtain ⟨n, -, rfl⟩ := Option.map_eq_some_iff.mp h
      exact congrArg some hint64.symm
    · obtain ⟨x, -, rfl⟩ := Option.map_eq_some_iff.mp h
      exact congrArg some hfloat64.symm

namespace Registry

variable {reg : Registry} {info : TypeInfo}

/-- A text becomes a value of the enumeration: of a constant that it names, or of a number. -/
theorem directType_enumOfText (hvariants : reg.EnumsByVariants) (hinfo : reg.get type = some info)
    (hkind : info.kind = .enum) {text : String} (h : reg.enumOfText text type = some r) :
    directType r = some type := by
  simp only [enumOfText, hinfo, Option.bind_eq_bind, Option.bind_some] at h
  split at h
  · next field hfield =>
      have hmem : field ∈ info.fields := List.mem_of_find?_eq_some hfield
      obtain ⟨n, rfl⟩ := hvariants.get hinfo hkind field hmem r h
      rfl
  · obtain ⟨n, -, rfl⟩ := Option.map_eq_some_iff.mp h
    rfl

/-- A value becomes one of the enumeration. -/
theorem directType_enumOfValue (hvariants : reg.EnumsByVariants) (hinfo : reg.get type = some info)
    (hkind : info.kind = .enum) (h : reg.enumOfValue v type = some r) :
    directType r = some type := by
  cases v with
  | string text => exact directType_enumOfText hvariants hinfo hkind h
  | int32 n | int64 n | enum other n =>
      obtain rfl := Option.some.inj h
      rfl
  | _ => cases h

/-- A value that is converted becomes one of the type asked for. -/
theorem directType_convertTo (hvariants : reg.EnumsByVariants)
    (h : reg.convertTo v type = some r) : directType r = some type := by
  obtain ⟨info, hinfo, h⟩ := Option.bind_eq_some_iff.mp h
  split at h
  · next hkind => exact directType_enumOfValue hvariants hinfo hkind h
  · split at h
    · next htype =>
        obtain ⟨text, -, rfl⟩ := Option.map_eq_some_iff.mp h
        exact congrArg some htype.symm
    · split at h
      · exact directType_valueOfText h
      · obtain ⟨number, -, hnumber⟩ := Option.bind_eq_some_iff.mp h
        exact Number.directType_toType hnumber

end Registry

end Types

namespace World

variable {w : World} {v r : Value} {type : TypeHandle}

/-! ### Casts and conversions -/

/-- What a conversion gives can be stored at the type asked for. -/
theorem typeOf_convert (hvariants : w.registry.EnumsByVariants) (h : w.convert v type = some r) :
    ∃ actual, w.typeOf r = some actual ∧ w.registry.isAssignable type actual = true := by
  obtain ⟨actual, hactual, ⟨hassign, rfl⟩ | ⟨-, hconvert⟩⟩ := convert_eq_some_iff.mp h
  · exact ⟨actual, by rw [typeOf_opened_eq, hactual], hassign⟩
  · have htype := Registry.directType_convertTo hvariants hconvert
    exact ⟨type, typeOf_of_directType htype, w.registry.isAssignable_refl type⟩

/-- A cast succeeds for a value that can be stored at the type, and for null at every type that is
no value type. -/
theorem exists_cast_iff (hobject : w.registry.isValueType .object = false) :
    (∃ r, w.cast v type = .ok r) ↔
      (w.typeOf v = none ∧ w.registry.isValueType type = false) ∨
        ∃ actual, w.typeOf v = some actual ∧ w.registry.isAssignable type actual = true := by
  by_cases htype : type = .object
  · -- The root type takes everything.
    subst htype
    have hcast : w.cast v .object = .ok v := by simp [cast]
    cases hactual : w.typeOf v with
    | none => simp [hcast, hobject]
    | some actual => simp [hcast, w.registry.isAssignable_object actual]
  · rw [← typeOf_opened_eq w v]
    constructor
    · rintro ⟨r, hr⟩
      exact ((cast_eq_ok_iff htype).mp hr).2
    · exact fun hfits => ⟨w.opened v, (cast_eq_ok_iff htype).mpr ⟨rfl, hfits⟩⟩

/-- A value is taken as it is exactly when it can be cast. -/
theorem fit_eq_direct_iff (hobject : w.registry.isValueType .object = false) :
    w.fit v type = some .direct ↔ ∃ r, w.cast v type = .ok r := by
  refine ⟨cast_of_fit_direct, fun hcast => ?_⟩
  rcases (exists_cast_iff hobject).mp hcast with ⟨hnone, hvalue⟩ | ⟨actual, hactual, hassign⟩
  · simp [fit, hnone, hvalue]
  · simp [fit, hactual, hassign]

/-- What a value is brought to a place as can be cast to the type of the place. -/
theorem cast_of_coerce (hvariants : w.registry.EnumsByVariants)
    (hobject : w.registry.isValueType .object = false) (h : w.coerce v type = .ok r) :
    ∃ later, w.cast r type = .ok later := by
  rw [exists_cast_iff hobject]
  unfold coerce at h
  cases hfit : w.fit v type with
  | none => simp [hfit] at h
  | some fit =>
      cases fit with
      | direct =>
          have hcast : w.cast v type = .ok r := by simpa [hfit] using h
          by_cases htype : type = .object
          · -- A value at the root type is not even taken out of its cell.
            obtain rfl : v = r := by simpa [cast, htype] using hcast
            exact (exists_cast_iff hobject).mp ⟨_, hcast⟩
          · obtain ⟨rfl, hfits⟩ := (cast_eq_ok_iff htype).mp hcast
            exact hfits
      | converted =>
          obtain ⟨found, hfound⟩ := convert_of_fit_converted hfit
          obtain rfl : found = r := by simpa [hfit, hfound] using h
          exact .inr (typeOf_convert hvariants hfound)

end World

/-! ### The four decisions -/

namespace World

open Reflector (createWith FedBy)

/-- The four decisions about a value and a type agree. For every value, whatever cells it is in, and
every type:

* `fit` finds that the value is taken as it is exactly when `cast` succeeds;
* `fit` finds any way at all exactly when `coerce` succeeds;
* what `coerce` gives can be cast to the type;
* what `convert` gives has a runtime type that can be stored at the type.

So no input that a plan has accepted is rejected afterwards: its arguments are made, each of them
from the input that the plan has bound to the parameter. -/
theorem fit_agrees {w : World} (hgrounded : w.registry.Grounded)
    (hvariants : w.registry.EnumsByVariants) :
    (∀ v type,
      (w.fit v type = some .direct ↔ ∃ r, w.cast v type = .ok r) ∧
      ((w.fit v type).isSome = true ↔ ∃ r, w.coerce v type = .ok r) ∧
      (∀ r, w.coerce v type = .ok r → ∃ later, w.cast r type = .ok later) ∧
      ∀ r, w.convert v type = some r →
        ∃ actual, w.typeOf r = some actual ∧ w.registry.isAssignable type actual = true) ∧
    ∀ type inputs params plan (s : Session), s.world = w →
      ConstructionPlan.ofParams w type inputs params = .ok (some plan) →
      ∃ args, (createWith.coerceInOrder plan (plan.placements.zip inputs)).run s = (.ok args, s) ∧
        FedBy w inputs params plan args := by
  have hobject := hgrounded.isValueType_object
  refine ⟨fun v type => ⟨fit_eq_direct_iff hobject, exists_coerce_iff.symm,
    fun r => cast_of_coerce hvariants hobject, fun r => typeOf_convert hvariants⟩, ?_⟩
  rintro type inputs params plan s rfl hplan
  exact Reflector.exists_arguments (ConstructionPlan.ofParams_sound hplan)

/-- Shades are dark or light. -/
def shade : TypeHandle × Registry :=
  Registry.initial.declare (.enum "Shade" [0, 1])
    (((Blueprint.enumeration "Shade").variant "Dark" 0).variant "Light" 1)

/-- The name of a shade in a cell, and another cell around that one. -/
def shaded : World :=
  { ofRegistry shade.2 with cells := #[.string "Light", .cell ⟨0⟩] }

/-- The name inside one cell is no shade and becomes one. Inside two cells it is not even found, and
a plan for a parameter of this type has the argument that the name stands for. -/
theorem fit_agrees_shade :
    shaded.registry.Grounded ∧ shaded.registry.EnumsByVariants ∧
      (¬ ∃ r, shaded.cast (.cell ⟨0⟩) shade.1 = .ok r) ∧
      (∃ later, shaded.cast (.enum shade.1 1) shade.1 = .ok later) ∧
      (¬ ∃ r, shaded.coerce (.cell ⟨1⟩) shade.1 = .ok r) ∧
      (∃ actual, shaded.typeOf (.enum shade.1 1) = some actual ∧
        shaded.registry.isAssignable shade.1 actual = true) ∧
      ∃ plan args, ConstructionPlan.ofParams shaded .object [("Tone", .cell ⟨0⟩)]
          [.byValue "tone" shade.1] = .ok (some plan) ∧
        (createWith.coerceInOrder plan (plan.placements.zip [("Tone", .cell ⟨0⟩)])).run
          ⟨shaded, .standard⟩ = (.ok args, ⟨shaded, .standard⟩) ∧
        FedBy shaded [("Tone", .cell ⟨0⟩)] [.byValue "tone" shade.1] plan args := by
  have hreached : Registry.Reached shade.2 :=
    Registry.Reached.declare Relation.ReflTransGen.refl rfl _
  have hgrounded : shaded.registry.Grounded := hreached.grounded (by decide)
  have hvariants : shaded.registry.EnumsByVariants := by
    refine Registry.enumsByVariants_declare Registry.enumsByVariants_initial _ ?_
    exact fun _ field hfield => nomatch hfield
  obtain ⟨hagree, hplans⟩ := fit_agrees hgrounded hvariants
  obtain ⟨hdirect, -, hcast, hconvert⟩ := hagree (.cell ⟨0⟩) shade.1
  have hconverted : shaded.fit (.cell ⟨0⟩) shade.1 = some .converted := rfl
  have hlost : shaded.fit (.cell ⟨1⟩) shade.1 = none := rfl
  obtain ⟨plan, hplan⟩ : ∃ plan, ConstructionPlan.ofParams shaded .object [("Tone", .cell ⟨0⟩)]
      [.byValue "tone" shade.1] = .ok (some plan) := ⟨_, rfl⟩
  obtain ⟨args, hargs, hfed⟩ := hplans .object _ _ plan ⟨shaded, .standard⟩ rfl hplan
  refine ⟨hgrounded, hvariants, ?_, hcast _ rfl, ?_, hconvert _ rfl, plan, args, hplan, hargs, hfed⟩
  · rw [← hdirect, hconverted]
    decide
  · rw [← (hagree (.cell ⟨1⟩) shade.1).2.1, hlost]
    decide

end World

end Introspect
