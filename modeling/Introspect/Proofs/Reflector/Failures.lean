import Introspect.Construction
import Introspect.Proofs.Reflector.Runs

/-!
# `Introspect.Proofs.Reflector.Failures`: who misses a constructor

A construction fails with a constructor that was not found only when no plan can be made. All that
happens afterwards, the writes of members included, has other failures. `Finds` says so of a result
and `Reflector.Finds` of a computation; both go along with the parts that a result is made of, from
the search along a type chain up to `finds_writeMembers`.
-/

set_option autoImplicit false

namespace Introspect

/-- The failure is that a constructor was not found. -/
def ReflectError.missesConstructor : ReflectError → Bool
  | constructorNotFound .. => true
  | _ => false

variable {α β : Type}

/-- A result is not the failure to find a constructor. -/
def Finds (result : Except ReflectError α) : Prop :=
  ∀ e, result = .error e → e.missesConstructor = false

/-- A result that is there is no failure. -/
theorem finds_ok (a : α) : Finds (.ok a : Except ReflectError α) := by
  rintro _ ⟨⟩

/-- Another failure is none of that kind. -/
theorem finds_error {e : ReflectError} (h : e.missesConstructor = false) :
    Finds (.error e : Except ReflectError α) := by
  rintro _ ⟨⟩
  exact h

/-- One step after another. -/
theorem Finds.bind {result : Except ReflectError α} {rest : α → Except ReflectError β}
    (h : Finds result) (hrest : ∀ a, Finds (rest a)) : Finds (result >>= rest) := by
  cases result with
  | error e => exact finds_error (h e rfl)
  | ok a => exact hrest a

/-- A result that is changed stays as good. -/
theorem Finds.map {result : Except ReflectError α} {f : α → β} (h : Finds result) :
    Finds (result.map f) := by
  cases result with
  | error e => exact finds_error (h e rfl)
  | ok a => exact finds_ok (f a)

/-- One item after another. -/
theorem finds_mapM {f : α → Except ReflectError β} (h : ∀ item, Finds (f item)) (items : List α) :
    Finds (items.mapM f) := by
  induction items with
  | nil => exact finds_ok _
  | cons item rest ih =>
      rw [List.mapM_cons]
      exact (h item).bind fun result => ih.bind fun results => finds_ok _

section Search

variable {reg : Registry} {sig : Signature}

theorem finds_info (type : TypeHandle) : Finds (reg.info type) := by
  unfold Registry.info
  split
  · exact finds_ok _
  · exact finds_error rfl

theorem finds_typeChain (type : TypeHandle) (flags : Flags) :
    Finds (reg.typeChain type flags) := by
  unfold Registry.typeChain
  split <;> exact finds_mapM finds_info _

theorem finds_pick (type name : String) (nameOf : α → String) (found : List (Nat × α)) :
    Finds (Resolver.pick type name nameOf found) := by
  unfold Resolver.pick
  split
  · exact finds_ok _
  · exact finds_ok _
  · split
    · exact finds_ok _
    · exact finds_error rfl

theorem finds_firstOn {search : TypeInfo → Except ReflectError (Option α)}
    (h : ∀ info, Finds (search info)) (chain : List TypeInfo) :
    Finds (Resolver.firstOn search chain) := by
  induction chain with
  | nil => exact finds_ok _
  | cons info rest ih =>
      refine (h info).bind fun answer => ?_
      cases answer with
      | none => exact ih
      | some found => exact finds_ok _

/-- A field is looked for. -/
theorem finds_field : Finds (Resolver.field reg sig) := by
  refine (finds_typeChain _ _).bind fun chain => ?_
  refine (finds_firstOn (fun info => ?_) chain).bind fun answer => ?_
  · exact (finds_pick _ _ _ _).bind fun found => finds_ok _
  · cases answer with
    | none => exact finds_error rfl
    | some found => exact finds_ok _

theorem finds_accessorResult (declaring : TypeHandle) (descriptor : Option Nat) (index : Nat)
    (accessor : MethodRef × MethodInfo) :
    Finds (Resolver.accessorResult sig declaring descriptor index accessor) := by
  refine Finds.bind ?_ fun _ => finds_ok _
  unfold Resolver.checkShape
  split
  · split
    · exact finds_error rfl
    · exact finds_ok _
  · split
    · exact finds_error rfl
    · split
      · exact finds_error rfl
      · exact finds_ok _

/-- A property is looked for. -/
theorem finds_property : Finds (Resolver.property reg sig) := by
  refine (finds_typeChain _ _).bind fun chain => ?_
  refine (finds_firstOn (fun info => ?_) chain).bind fun answer => ?_
  · refine (finds_pick _ _ _ _).bind fun found => ?_
    dsimp only
    split
    · exact finds_ok _
    · split
      · exact finds_ok _
      · exact (finds_accessorResult _ _ _ _).bind fun found => finds_ok _
  · cases answer with
    | some found => exact finds_ok _
    | none =>
        dsimp only
        split
        · exact finds_accessorResult _ _ _ _
        · exact finds_error rfl

theorem finds_ofMethod (ref : MethodRef) (typeArgs : List TypeHandle) (writeBack : WriteBack) :
    Finds (CallPlan.ofMethod reg ref typeArgs writeBack) := by
  refine (finds_info _).bind fun info => ?_
  dsimp only
  split
  · exact finds_error rfl
  · split
    · exact finds_error rfl
    · exact finds_ok _

/-- A write of a resolved member is prepared. -/
theorem finds_writer (member : MemberHandle) : Finds (Writer.ofMember reg member) := by
  unfold Writer.ofMember
  split
  · refine (finds_info _).bind fun info => ?_
    split
    · exact finds_error rfl
    · split
      · exact finds_ok _
      · exact finds_ok _
      · exact finds_error rfl
  · refine (finds_info _).bind fun info => ?_
    split
    · exact finds_error rfl
    · exact (finds_ofMethod _ _ _).bind fun plan => finds_ok _
  · exact finds_error rfl

/-- A write is compiled. -/
theorem finds_setter (hkind : sig.kind = .field ∨ sig.kind = .property) :
    Finds (Compiler.setter.compile reg sig).1 := by
  unfold Compiler.compile
  split
  · next e hdirection =>
      -- The request is in the other direction.
      have hcheck : Finds (Compiler.setter.checkDirection sig) := by
        unfold Compiler.checkDirection
        split
        · split
          · exact finds_ok _
          · exact finds_error rfl
        · exact finds_ok _
      exact finds_error (hcheck e hdirection)
  · have hresolve : Finds (Resolver.resolve reg sig) := by
      unfold Resolver.resolve
      rcases hkind with hfield | hproperty
      · rw [hfield]
        exact finds_field
      · rw [hproperty]
        exact finds_property
    split
    · next e hfailed => exact finds_error (hresolve e hfailed)
    · exact (finds_writer _).map

/-- A member is queried. -/
theorem finds_queriedProperty (type : TypeHandle) (name : String) (flags : Flags) :
    Finds (Query.property reg type name flags) := by
  refine Finds.bind ((finds_typeChain _ _).bind fun chain => finds_ok _) fun found => ?_
  split
  · exact finds_ok _
  · exact finds_error rfl

/-- Fields are listed. -/
theorem finds_listedFields (type : TypeHandle) (flags : Flags) (names : List String) :
    Finds (Query.fields reg type flags names) :=
  (finds_typeChain _ _).bind fun _ => finds_ok _

theorem finds_queriedField (type : TypeHandle) (name : String) (flags : Flags) :
    Finds (Query.field reg type name flags) := by
  refine (finds_listedFields _ _ _).bind fun found => ?_
  split
  · exact finds_ok _
  · exact finds_error rfl

end Search

section Planning

variable {w : World} {type : TypeHandle}

/-- A member for an input is looked for. -/
theorem finds_memberFor (reg : Registry) (name : String) :
    Finds (ConstructionPlan.memberFor reg type name) := by
  have hall : ∀ names, Finds (ConstructionPlan.fieldAmong reg type names) := by
    intro names
    induction names with
    | nil => exact finds_ok _
    | cons candidate rest ih =>
        refine (finds_listedFields _ _ _).bind fun fields => ?_
        split
        · split
          · exact finds_ok _
          · exact ih
        · exact ih
  unfold ConstructionPlan.memberFor
  split
  · exact finds_ok _
  · exact (hall _).bind fun found => finds_ok _

/-- A plan is made. An input that does not fit is another failure. -/
theorem finds_ofParams (inputs : List NamedValue) (params : List ParameterInfo) :
    Finds (ConstructionPlan.ofParams w type inputs params) := by
  have hplace : ∀ draft input, Finds (ConstructionPlan.placeInput w type params draft input) := by
    intro draft input
    unfold ConstructionPlan.placeInput
    dsimp only
    split
    · exact finds_ok _
    · refine (finds_memberFor _ _).bind fun found => ?_
      split
      · split
        · exact finds_ok _
        · exact finds_error rfl
        · exact finds_error rfl
      · exact finds_error rfl
      · exact finds_ok _
  have hall : ∀ draft, Finds (inputs.foldlM (ConstructionPlan.placeInput w type params) draft) := by
    induction inputs with
    | nil => exact fun draft => finds_ok draft
    | cons input rest ih =>
        intro draft
        rw [List.foldlM_cons]
        exact (hplace draft input).bind ih
  refine (hall _).bind fun draft => ?_
  split
  · exact finds_ok _
  · exact finds_ok _

end Planning

namespace Reflector

/-- A computation does not end with the failure to find a constructor. -/
def Finds (work : ReflectM α) : Prop := ∀ s, Introspect.Finds (work.run s).1

/-- One computation after another. -/
theorem Finds.bind {work : ReflectM α} {rest : α → ReflectM β} (h : Finds work)
    (hrest : ∀ a, Finds (rest a)) : Finds (work >>= rest) := by
  intro s
  rw [run_bind]
  have hwork := h s
  rcases hrun : work.run s with ⟨result, next⟩
  rw [hrun] at hwork
  cases result with
  | error e => exact finds_error (hwork e rfl)
  | ok a => exact hrest a next

theorem finds_pure (a : α) : Finds (pure a : ReflectM α) := fun _ => finds_ok a

theorem finds_get : Finds (get : ReflectM Session) := fun s => finds_ok s

theorem finds_inWorld (f : World → α × World) : Finds (inWorld f) := fun _ => finds_ok _

theorem finds_orMemberFlags (flags : Option Flags) : Finds (orMemberFlags flags) :=
  fun _ => finds_ok _

theorem finds_ofRegistry {f : Registry → Except ReflectError α}
    (h : ∀ reg, Introspect.Finds (f reg)) : Finds (ofRegistry f) := by
  intro s
  rw [run_ofRegistry]
  exact h _

theorem finds_invoke (call : World → Except InvokeError α × World) : Finds (invoke call) := by
  intro s
  rw [run_invoke]
  cases (call s.world).1 with
  | error e => exact finds_error rfl
  | ok a => exact finds_ok a

theorem finds_use {artifact : Artifact α} {action : ReflectM β} (h : Finds action) :
    Finds (use artifact action) := by
  intro s
  rw [run_use]
  exact h s

/-- A request fails only as the compilation does. -/
theorem finds_run_request {compiler : Compiler β} {sig : Signature} {s : Session}
    (h : Introspect.Finds (compiler.compile s.world.registry sig).1) :
    Introspect.Finds ((request compiler sig).run s).1 := by
  intro e hfailed
  cases hfound : s.reflector.members.findAs? compiler.facet sig with
  | some kept => cases (run_request_of_kept hfound).1.symm.trans hfailed
  | none =>
      refine h e ?_
      rw [← (run_request_of_missing hfound).1, hfailed]
      rfl

theorem finds_request {compiler : Compiler β} {sig : Signature}
    (h : ∀ reg, Introspect.Finds (compiler.compile reg sig).1) : Finds (request compiler sig) :=
  fun s => finds_run_request (h s.world.registry)

/-- A setter is requested. -/
theorem finds_propertySetter (type : TypeHandle) (name : String) (flags : Option Flags) :
    Finds (propertySetter type name flags) :=
  (finds_orMemberFlags flags).bind fun _ =>
    finds_request fun _ => finds_setter (.inr rfl)

theorem finds_fieldSetter (type : TypeHandle) (name : String) (flags : Option Flags) :
    Finds (fieldSetter type name flags) :=
  (finds_orMemberFlags flags).bind fun _ =>
    finds_request fun _ => finds_setter (.inl rfl)

/-- A member of a new instance is written. -/
theorem finds_writeMember (type : TypeHandle) (target : Value) (member : MemberTarget) (v : Value) :
    Finds (writeMember type target member v) := by
  unfold writeMember
  cases member with
  | property name =>
      refine (finds_propertySetter _ _ _).bind fun setter => finds_use ?_
      refine (finds_ofRegistry fun reg => finds_queriedProperty _ _ _).bind fun found => ?_
      exact (finds_pure _).bind fun memberType => (finds_invoke _).bind fun v => finds_invoke _
  | field name =>
      refine (finds_fieldSetter _ _ _).bind fun setter => finds_use ?_
      refine (finds_ofRegistry fun reg => finds_queriedField _ _ _).bind fun found => ?_
      exact (finds_pure _).bind fun memberType => (finds_invoke _).bind fun v => finds_invoke _

/-- Members of a new instance are written. -/
theorem finds_writeMembers (type : TypeHandle) (created : Value)
    (members : List (MemberTarget × Value)) : Finds (writeMembers type created members) := by
  have hall : ∀ (target : Value) (members : List (MemberTarget × Value)),
      Finds (members.forM fun entry => writeMember type target entry.1 entry.2) := by
    intro target members
    induction members with
    | nil => exact finds_pure _
    | cons entry rest ih => exact (finds_writeMember _ _ _ _).bind fun _ => ih
  have hrest : ∀ target : Value, Finds (do
      members.forM fun entry => writeMember type target entry.1 entry.2
      return (← get).world.opened target) :=
    fun target => (hall target members).bind fun _ => finds_get.bind fun s => finds_pure _
  unfold writeMembers
  split
  · exact finds_pure _
  · cases created with
    | struct type data => exact Finds.bind (finds_inWorld _) fun target => hrest target
    | _ => exact (finds_pure _).bind fun target => hrest target

end Reflector

end Introspect
