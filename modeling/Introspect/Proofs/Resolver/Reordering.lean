import Introspect.Proofs.Resolver.Binding
import Mathlib.Data.List.Nodup
import Mathlib.Logic.Equiv.Basic

/-!
# `Introspect.Proofs.Resolver.Reordering`: the order of declarations does not count

A type lists its fields, methods and constructors in the order of their declarations. A request goes
through these lists, but what it finds does not depend on their order: `pick_of_perm` says so for
the choice among several matches, and `positions_permuted` that the matches of a permuted list are
those of the list at other places.

A `Reordering` says where each member of each type comes to stand, and `Registry.Reordered` relates
a registry to one whose types declare their members in another order. The slots of virtual methods
are given out in the order of declarations too, so methods are compared without them.
`resolve_reordered` says that a request for a field, a method or a constructor finds the same member
in both registries, at its new place, or fails with the same error. Requests for properties are left
out: an accessor is the first method of its name.
-/

set_option autoImplicit false

namespace Introspect

/-! ### Lists in another order -/

/-- A list has the items of another one at other places, as far as a view of the items shows. -/
def PermutedBy {α β : Type} (place : Equiv.Perm Nat) (view : α → β) (items next : List α) : Prop :=
  ∀ index, next[place index]?.map view = items[index]?.map view

/-- The places that members are moved to, for each type. -/
structure Reordering where
  field : TypeHandle → Equiv.Perm Nat
  method : TypeHandle → Equiv.Perm Nat
  constructor : TypeHandle → Equiv.Perm Nat

/-- A member at its new place. The accessor of a property is a method. -/
def MemberHandle.reordered (order : Reordering) : MemberHandle → MemberHandle
  | .field declaring index => .field declaring (order.field declaring index)
  | .property declaring descriptor accessor =>
    .property declaring descriptor
      ⟨accessor.declaring, order.method accessor.declaring accessor.index⟩
  | .method ref => .method ⟨ref.declaring, order.method ref.declaring ref.index⟩
  | .constructor declaring index => .constructor declaring (order.constructor declaring index)
  | other => other

/-- What was found, with the member at its new place. -/
def Resolution.reordered (order : Reordering) (found : Resolution) : Resolution :=
  { found with member := found.member.reordered order }

/-- A method without its slot in the dispatch table. -/
def MethodInfo.unslotted (method : MethodInfo) : MethodInfo := { method with slot := none }

/-- A descriptor without the members that can be declared in any order. -/
def TypeInfo.outline (info : TypeInfo) : TypeInfo :=
  { info with fields := [], methods := [], constructors := [], dispatchTable := [] }

/-- A descriptor declares the members of another one in another order. -/
structure TypeInfo.Reordered (order : Reordering) (info next : TypeInfo) : Prop where
  outline : next.outline = info.outline
  fields : PermutedBy (order.field info.handle) id info.fields next.fields
  methods : PermutedBy (order.method info.handle) MethodInfo.unslotted info.methods next.methods
  constructors :
    PermutedBy (order.constructor info.handle) id info.constructors next.constructors

/-- The types of a registry declare their members in another order. -/
def Registry.Reordered (order : Reordering) (reg next : Registry) : Prop :=
  List.Forall₂ (fun entry entry' => entry'.1 = entry.1 ∧ entry.2.Reordered order entry'.2)
    reg.types next.types

/-! ### What types and their relations show -/

namespace TypeInfo.Reordered

variable {order : Reordering} {info next : TypeInfo} (h : info.Reordered order next)

include h

theorem handle_eq : next.handle = info.handle :=
  (congrArg TypeInfo.handle h.outline :)

theorem name_eq : next.name = info.name :=
  (congrArg TypeInfo.name h.outline :)

theorem kind_eq : next.kind = info.kind :=
  (congrArg TypeInfo.kind h.outline :)

theorem element_eq : next.element = info.element :=
  (congrArg TypeInfo.element h.outline :)

theorem base_eq : next.base = info.base :=
  (congrArg TypeInfo.base h.outline :)

theorem interfaces_eq : next.interfaces = info.interfaces :=
  (congrArg TypeInfo.interfaces h.outline :)

end TypeInfo.Reordered

namespace Registry

variable {order : Reordering} {reg next : Registry} (h : reg.Reordered order next)

include h

/-- A type has descriptors in both registries, or in none. -/
theorem Reordered.get (type : TypeHandle) :
    Option.Rel (TypeInfo.Reordered order) (reg.get type) (next.get type) := by
  unfold Registry.Reordered at h
  unfold Registry.get
  generalize reg.types = types at h ⊢
  generalize next.types = types' at h ⊢
  induction h with
  | nil => exact .none
  | @cons entry entry' rest rest' hentry _ ih =>
      obtain ⟨key, info⟩ := entry
      obtain ⟨key', info'⟩ := entry'
      obtain ⟨rfl, hinfo⟩ := hentry
      rw [List.lookup_cons, List.lookup_cons]
      cases type == key' with
      | true => exact .some hinfo
      | false => exact ih

/-- A fact about descriptors that does not look at their members is the same in both registries. -/
theorem Reordered.map_get {β : Type} (f : TypeInfo → β)
    (hf : ∀ info info' : TypeInfo, info.Reordered order info' → f info' = f info)
    (type : TypeHandle) : (next.get type).map f = (reg.get type).map f := by
  have hget := h.get type
  cases hreg : reg.get type with
  | none =>
      rw [hreg] at hget
      cases hnext : next.get type with
      | none => rfl
      | some info => simp [hnext] at hget
  | some info =>
      rw [hreg] at hget
      cases hnext : next.get type with
      | none => simp [hnext] at hget
      | some info' =>
          rw [hnext] at hget
          cases hget with
          | some hinfo => exact congrArg some (hf _ _ hinfo)

theorem Reordered.length_eq : next.types.length = reg.types.length :=
  (List.Forall₂.length_eq h).symm

theorem Reordered.baseOf (type : TypeHandle) : next.baseOf type = reg.baseOf type := by
  have hbase := h.map_get TypeInfo.base (fun _ _ hinfo => hinfo.base_eq) type
  unfold Registry.baseOf
  cases hreg : reg.get type <;> cases hnext : next.get type <;> simp_all

theorem Reordered.nameOf (type : TypeHandle) : next.nameOf type = reg.nameOf type := by
  have hname := h.map_get TypeInfo.name (fun _ _ hinfo => hinfo.name_eq) type
  unfold Registry.nameOf
  cases hreg : reg.get type <;> cases hnext : next.get type <;> simp_all

theorem Reordered.isInterface (type : TypeHandle) :
    next.isInterface type = reg.isInterface type := by
  have hkind := h.map_get TypeInfo.kind (fun _ _ hinfo => hinfo.kind_eq) type
  unfold Registry.isInterface TypeInfo.isInterface
  cases hreg : reg.get type <;> cases hnext : next.get type <;> simp_all

theorem Reordered.bases (type : TypeHandle) : next.bases type = reg.bases type := by
  have hchain : ∀ limit start, next.chainFrom limit start = reg.chainFrom limit start := by
    intro limit
    induction limit with
    | zero => intro start; rfl
    | succ limit ih =>
        intro start
        cases start with
        | none => rfl
        | some type => rw [chainFrom, chainFrom, h.baseOf, ih]
  rw [Registry.bases, Registry.bases, h.length_eq, h.baseOf, hchain]

/-- A search for an interface looks at declarations only. -/
theorem Reordered.searchInterface (interface : TypeHandle) (limit : Nat)
    (seen pending : List TypeHandle) :
    next.searchInterface interface limit seen pending =
      reg.searchInterface interface limit seen pending := by
  induction limit generalizing seen pending with
  | zero => rfl
  | succ limit ih =>
      cases pending with
      | nil => rfl
      | cons type pending =>
          have hdeclares := h.map_get (fun info => (info.base, info.interfaces))
            (fun _ _ hinfo => by rw [hinfo.base_eq, hinfo.interfaces_eq]) type
          rw [Registry.searchInterface, Registry.searchInterface, ih]
          cases hreg : reg.get type with
          | none =>
              obtain hnext : next.get type = none := by simpa [hreg] using hdeclares
              simp only [hnext, ih]
          | some info =>
              obtain ⟨info', hnext, hsame⟩ : ∃ info', next.get type = some info' ∧
                  (info'.base, info'.interfaces) = (info.base, info.interfaces) := by
                simpa [hreg] using hdeclares
              obtain ⟨hbase, hinterfaces⟩ := Prod.mk.inj hsame
              simp only [hnext, hbase, hinterfaces, ih]

theorem Reordered.isAssignable (target source : TypeHandle) :
    next.isAssignable target source = reg.isAssignable target source := by
  have hlimit : next.searchLimit = reg.searchLimit := by
    have hcounts : next.types.map (fun entry => entry.2.interfaces.length + 2) =
        reg.types.map (fun entry => entry.2.interfaces.length + 2) := by
      refine List.forall₂_eq_eq_eq ▸ ?_
      rw [List.forall₂_map_left_iff, List.forall₂_map_right_iff]
      exact (List.Forall₂.flip h).imp fun _ _ hentry => by rw [hentry.2.interfaces_eq]
    exact congrArg (List.foldl (· + ·) 2) hcounts
  simp only [Registry.isAssignable, h.bases, h.isInterface, Registry.implements, hlimit,
    h.searchInterface]

theorem Reordered.bindParams : next.bindParams = reg.bindParams := by
  funext flags params types
  fun_induction Registry.bindParams reg flags params types <;>
    simp_all [Registry.bindParams, h.isAssignable]

theorem Reordered.describeTypes (types : List TypeHandle) :
    next.describeTypes types = reg.describeTypes types := by
  rw [Registry.describeTypes, Registry.describeTypes, funext h.nameOf]

end Registry

namespace Resolver

/-! ### Choices that do not depend on the order -/

section Choice

variable {α β : Type} {type name : String} {nameOf : α → String} {found other : List (Nat × α)}

/-- The item of a list that has no other. -/
def only? : List α → Option α
  | [one] => some one
  | _ => none

theorem only?_of_perm {items items' : List α} (h : items.Perm items') :
    only? items = only? items' := by
  induction h with
  | nil => rfl
  | @cons first rest rest' h _ =>
      cases rest with
      | nil => rw [h.symm.eq_nil]
      | cons second others =>
          cases rest' with
          | nil => exact absurd h.eq_nil (List.cons_ne_nil _ _)
          | cons second' others' => rfl
  | swap => rfl
  | trans _ _ ih ih' => exact ih.trans ih'

theorem only?_map (f : α → β) (items : List α) : only? (items.map f) = (only? items).map f := by
  match items with
  | [] => rfl
  | [one] => rfl
  | _ :: _ :: _ => rfl

/-- A choice takes the only match, or the only one that is spelled as requested. -/
theorem pick_eq_only (type name : String) (nameOf : α → String) (found : List (Nat × α)) :
    pick type name nameOf found =
      if found.isEmpty then .ok none
      else match (only? found).or (only? (found.filter fun entry => nameOf entry.2 == name)) with
        | some one => .ok (some one)
        | none => .error (.ambiguousOperation (.members found.length type name)) := by
  rcases found with _ | ⟨first, _ | ⟨second, rest⟩⟩
  · rfl
  · rfl
  · -- Of several, the exact spelling decides, if only one has it.
    rcases hspelled : (first :: second :: rest).filter fun entry => nameOf entry.2 == name with
      _ | ⟨one, _ | ⟨other, more⟩⟩ <;> simp [pick, only?, hspelled]

/-- A choice depends on what there is to choose from, and not on its order. -/
theorem pick_of_perm (h : found.Perm other) :
    pick type name nameOf found = pick type name nameOf other := by
  have hspelled := h.filter fun entry => nameOf entry.2 == name
  rw [pick_eq_only, pick_eq_only, only?_of_perm h, only?_of_perm hspelled, h.length_eq,
    h.isEmpty_eq]

/-- A choice is the same when items are moved or replaced under their names. -/
theorem pick_map (g : Nat × α → Nat × β) {nameOf' : β → String}
    (hname : ∀ entry, nameOf' (g entry).2 = nameOf entry.2) :
    pick type name nameOf' (found.map g) = (pick type name nameOf found).map (Option.map g) := by
  have hspelled : (found.map g).filter (fun entry => nameOf' entry.2 == name) =
      (found.filter fun entry => nameOf entry.2 == name).map g := by
    rw [List.filter_map]
    congr 2
    funext entry
    simp [hname]
  rw [pick_eq_only, pick_eq_only, hspelled, only?_map, only?_map, ← Option.map_or, List.isEmpty_map,
    List.length_map]
  cases found.isEmpty with
  | true => rfl
  | false =>
      cases (only? found).or (only? (found.filter fun entry => nameOf entry.2 == name)) <;> rfl

/-- What is preferred does not depend on the order. -/
theorem preferExact_of_perm {found other : List ((Nat × α) × Bool)} (h : found.Perm other) :
    (preferExact found).Perm (preferExact other) := by
  have hexact := h.filter (·.2)
  unfold preferExact
  cases hfound : found.filter (·.2) with
  | nil =>
      rw [hfound] at hexact
      rw [hexact.symm.eq_nil]
      exact h.map _
  | cons one ones =>
      rw [hfound] at hexact
      cases hother : other.filter (·.2) with
      | nil => simp [hother] at hexact
      | cons two twos =>
          rw [hother] at hexact
          exact hexact.map _

theorem preferExact_map (g : Nat × α → Nat × β) (found : List ((Nat × α) × Bool)) :
    preferExact (found.map (Prod.map g id)) = (preferExact found).map g := by
  have hfilter : (found.map (Prod.map g id)).filter (·.2) =
      (found.filter (·.2)).map (Prod.map g id) := by
    rw [List.filter_map]
    rfl
  unfold preferExact
  rw [hfilter]
  cases found.filter (·.2) <;> simp

/-- The candidates that accept the requested types stay the same when they are moved or replaced
under their parameters. -/
theorem bindable_map {reg : Registry} {flags : Flags} {types : List TypeHandle}
    (g : Nat × α → Nat × β) {paramsOf : α → List ParameterInfo} {paramsOf' : β → List ParameterInfo}
    (hparams : ∀ entry, paramsOf' (g entry).2 = paramsOf entry.2) (candidates : List (Nat × α)) :
    bindable reg flags types paramsOf' (candidates.map g) =
      (bindable reg flags types paramsOf candidates).map (Prod.map g id) := by
  induction candidates with
  | nil => rfl
  | cons first rest ih =>
      unfold bindable at ih ⊢
      rw [List.map_cons, List.filterMap_cons, List.filterMap_cons, ih]
      simp only [hparams]
      cases reg.bindParams flags (paramsOf first.2) types <;> rfl

/-- An entry at a place that it is moved to, as far as a view of it shows. -/
def moved (place : Equiv.Perm Nat) (view : α → β) (entry : Nat × α) : Nat × β :=
  (place entry.1, view entry.2)

/-- The matches of a permuted list are those of the list, at other places. -/
theorem positions_permuted {place : Equiv.Perm Nat} {view : α → β} {p : α → Bool}
    {items next : List α} (h : PermutedBy place view items next)
    (hp : ∀ a b, view a = view b → p a = p b) :
    ((positions p next).map (moved (.refl Nat) view)).Perm
      ((positions p items).map (moved place view)) := by
  -- Both lists have each place once, so it is enough that they have the same entries.
  have hnodup : ∀ (place : Equiv.Perm Nat) (items : List α),
      ((positions p items).map (moved place view)).Nodup := by
    intro place items
    refine List.Nodup.of_map Prod.fst ?_
    have hplaces := (nodup_positions p items).map place.injective
    rwa [List.map_map] at hplaces ⊢
  refine (List.perm_ext_iff_of_nodup (hnodup (.refl Nat) next) (hnodup place items)).mpr ?_
  rintro ⟨index, b⟩
  simp only [List.mem_map, Prod.exists, mem_positions_iff, moved, Prod.mk.injEq,
    Equiv.refl_apply]
  constructor
  · rintro ⟨index, a, ⟨hplace, hpa⟩, rfl, rfl⟩
    have hsame := h (place.symm index)
    rw [place.apply_symm_apply, hplace, Option.map_some, eq_comm, Option.map_eq_some_iff] at hsame
    obtain ⟨c, hc, hview⟩ := hsame
    exact ⟨place.symm index, c, ⟨hc, by rw [hp c a hview, hpa]⟩, place.apply_symm_apply index,
      hview⟩
  · rintro ⟨k, a, ⟨hplace, hpa⟩, rfl, rfl⟩
    have hsame := h k
    rw [hplace, Option.map_some, Option.map_eq_some_iff] at hsame
    obtain ⟨c, hc, hview⟩ := hsame
    exact ⟨place k, c, ⟨hc, by rw [hp c a hview, hpa]⟩, rfl, hview⟩

/-- What is answered is the same member when the choice is the same. -/
theorem answer_moved {order : Reordering} (place : Equiv.Perm Nat) (view : α → β)
    {chosen chosen' : Except ReflectError (Option (Nat × α))}
    {answer answer' : Nat × α → Resolution}
    (h : chosen'.map (Option.map (moved (.refl Nat) view)) =
      chosen.map (Option.map (moved place view)))
    (hanswer : ∀ entry entry', moved (.refl Nat) view entry' = moved place view entry →
      answer' entry' = (answer entry).reordered order) :
    chosen'.map (Option.map answer') =
      (chosen.map (Option.map answer)).map (Option.map (Resolution.reordered order)) := by
  cases chosen' with
  | error e' =>
      cases chosen with
      | error e => simpa [Except.map] using h
      | ok found => simp [Except.map] at h
  | ok found' =>
      cases chosen with
      | error e => simp [Except.map] at h
      | ok found =>
          have hfound : found'.map (moved (.refl Nat) view) = found.map (moved place view) :=
            Except.ok.inj h
          cases found' with
          | none =>
              cases found with
              | none => rfl
              | some entry => simp at hfound
          | some entry' =>
              cases found with
              | none => simp at hfound
              | some entry =>
                  have hentry := hanswer entry entry' (Option.some.inj hfound)
                  simp [Except.map, hentry]

end Choice

/-! ### Requests -/

variable {order : Reordering} {reg next : Registry} {sig : Signature} {info info' : TypeInfo}

/-- A type answers a field request with the same field. -/
theorem fieldOn_reordered (h : info.Reordered order info') (sig : Signature) :
    fieldOn sig info' = (fieldOn sig info).map (Option.map (Resolution.reordered order)) := by
  have hon : ∀ info : TypeInfo, fieldOn sig info =
      (pick info.name sig.nameText FieldInfo.name (positions (fieldMatches sig) info.fields)).map
        (Option.map (fieldAnswer info)) := by
    intro info
    show (pick info.name _ _ _ >>= _) = _
    cases pick info.name sig.nameText FieldInfo.name (positions (fieldMatches sig) info.fields) <;>
      rfl
  have hperm := positions_permuted (p := fieldMatches sig) h.fields fun a b hab => congrArg _ hab
  rw [hon, hon, h.name_eq]
  refine answer_moved (order.field info.handle) id ?_ ?_
  · have hname : ∀ (place : Equiv.Perm Nat) (entry : Nat × FieldInfo),
        (moved place id entry).2.name = entry.2.name := fun _ _ => rfl
    rw [← pick_map _ (hname _), ← pick_map _ (hname _)]
    exact pick_of_perm hperm
  · rintro ⟨index, field⟩ ⟨index', field'⟩ hentry
    obtain ⟨rfl, rfl⟩ : index' = order.field info.handle index ∧ field' = field := by
      simpa [moved] using hentry
    simp [fieldAnswer, Resolution.reordered, MemberHandle.reordered, h.handle_eq]

/-- The methods of a type that answer a request are the same. -/
theorem accepting_reordered (hreg : reg.Reordered order next) (h : info.Reordered order info')
    (sig : Signature) :
    ((accepting next sig info').map (Prod.map (moved (.refl Nat) MethodInfo.unslotted) id)).Perm
      ((accepting reg sig info).map
        (Prod.map (moved (order.method info.handle) MethodInfo.unslotted) id)) := by
  have hmatches : ∀ a b : MethodInfo, a.unslotted = b.unslotted →
      methodMatches sig a = methodMatches sig b := by
    intro a b hab
    show methodMatches sig a.unslotted = methodMatches sig b.unslotted
    rw [hab]
  have hperm := positions_permuted h.methods hmatches
  have hparams : ∀ (place : Equiv.Perm Nat) (entry : Nat × MethodInfo),
      (moved place MethodInfo.unslotted entry).2.params = entry.2.params := fun _ _ => rfl
  rw [accepting, accepting, ← bindable_map _ (hparams _), ← bindable_map _ (hparams _)]
  unfold bindable
  rw [hreg.bindParams]
  exact hperm.filterMap _

/-- A type answers a method request with the same method. -/
theorem methodOn_reordered (hreg : reg.Reordered order next) (h : info.Reordered order info')
    (sig : Signature) :
    methodOn next sig info' =
      (methodOn reg sig info).map (Option.map (Resolution.reordered order)) := by
  have hperm := preferExact_of_perm (accepting_reordered hreg h sig)
  rw [preferExact_map, preferExact_map] at hperm
  have hname : ∀ (place : Equiv.Perm Nat) (entry : Nat × MethodInfo),
      (moved place MethodInfo.unslotted entry).2.name = entry.2.name := fun _ _ => rfl
  rw [methodOn_eq, methodOn_eq]
  refine answer_moved (order.method info.handle) MethodInfo.unslotted ?_ ?_
  · rw [chosenMethod, chosenMethod, h.name_eq, ← pick_map _ (hname _), ← pick_map _ (hname _)]
    exact pick_of_perm hperm
  · -- What is answered says nothing about the slot.
    rintro entry entry' hentry
    obtain ⟨hindex, hmethod⟩ : entry'.1 = order.method info.handle entry.1 ∧
        entry'.2.unslotted = entry.2.unslotted := by simpa [moved] using hentry
    have htypes : entry'.2.paramTypes = entry.2.paramTypes :=
      (congrArg MethodInfo.paramTypes hmethod :)
    have hstatic : entry'.2.isStatic = entry.2.isStatic := (congrArg MethodInfo.isStatic hmethod :)
    simp [Resolution.reordered, MemberHandle.reordered, hindex, htypes, hstatic, h.handle_eq]

/-- A search along related chains ends at the same place. -/
theorem firstOn_reordered {chain chain' : List TypeInfo}
    (h : List.Forall₂ (TypeInfo.Reordered order) chain chain')
    {search search' : TypeInfo → Except ReflectError (Option Resolution)}
    (hsearch : ∀ info info', info.Reordered order info' →
      search' info' = (search info).map (Option.map (Resolution.reordered order))) :
    firstOn search' chain' =
      (firstOn search chain).map (Option.map (Resolution.reordered order)) := by
  induction h with
  | nil => rfl
  | @cons first first' rest rest' hfirst _ ih =>
      rw [firstOn, firstOn, hsearch first first' hfirst, ih]
      cases search first with
      | error e => rfl
      | ok answer => cases answer <;> rfl

/-- The chains that are searched are related, or fail alike. -/
theorem typeChain_reordered (h : reg.Reordered order next) (type : TypeHandle) (flags : Flags) :
    (∃ e, reg.typeChain type flags = .error e ∧ next.typeChain type flags = .error e) ∨
      ∃ chain chain', reg.typeChain type flags = .ok chain ∧
        next.typeChain type flags = .ok chain' ∧
        List.Forall₂ (TypeInfo.Reordered order) chain chain' := by
  have hinfo : ∀ type, (∃ e, reg.info type = .error e ∧ next.info type = .error e) ∨
      ∃ info info', reg.info type = .ok info ∧ next.info type = .ok info' ∧
        info.Reordered order info' := by
    intro type
    have hget := h.get type
    unfold Registry.info
    rw [h.nameOf]
    cases hreg : reg.get type <;> cases hnext : next.get type <;> simp_all
  have hinfos : ∀ types : List TypeHandle,
      (∃ e, reg.infos types = .error e ∧ next.infos types = .error e) ∨
        ∃ chain chain', reg.infos types = .ok chain ∧ next.infos types = .ok chain' ∧
          List.Forall₂ (TypeInfo.Reordered order) chain chain' := by
    intro types
    induction types with
    | nil => exact .inr ⟨[], [], rfl, rfl, .nil⟩
    | cons first rest ih =>
        unfold Registry.infos at ih ⊢
        rw [List.mapM_cons, List.mapM_cons]
        rcases hinfo first with ⟨e, hreg, hnext⟩ | ⟨info, info', hreg, hnext, hfirst⟩
        · exact .inl ⟨e, by rw [hreg]; rfl, by rw [hnext]; rfl⟩
        · rw [hreg, hnext]
          rcases ih with ⟨e, hreg, hnext⟩ | ⟨chain, chain', hreg, hnext, hrest⟩
          · exact .inl ⟨e, by rw [hreg]; rfl, by rw [hnext]; rfl⟩
          · exact .inr ⟨info :: chain, info' :: chain', by rw [hreg]; rfl, by rw [hnext]; rfl,
              .cons hfirst hrest⟩
  unfold Registry.typeChain
  rw [h.bases]
  split
  · exact hinfos [type]
  · exact hinfos (type :: reg.bases type)

/-- A walk along the chain finds the same member, or fails alike. -/
theorem walk_reordered (h : reg.Reordered order next) (sig : Signature)
    {search search' : TypeInfo → Except ReflectError (Option Resolution)}
    (hsearch : ∀ info info', info.Reordered order info' →
      search' info' = (search info).map (Option.map (Resolution.reordered order)))
    (missing : ReflectError) :
    (do
      let chain ← next.typeChain sig.target sig.flags
      match ← firstOn search' chain with
      | some found => return found
      | none => throw missing : Except ReflectError Resolution) =
    (do
      let chain ← reg.typeChain sig.target sig.flags
      match ← firstOn search chain with
      | some found => return found
      | none => throw missing : Except ReflectError Resolution).map
        (Resolution.reordered order) := by
  rcases typeChain_reordered h sig.target sig.flags with ⟨e, hreg, hnext⟩ |
    ⟨chain, chain', hreg, hnext, hchains⟩
  · rw [hreg, hnext]
    rfl
  · rw [hreg, hnext]
    show (firstOn search' chain' >>= _) = ((firstOn search chain >>= _) : Except _ _).map _
    rw [firstOn_reordered hchains hsearch]
    cases firstOn search chain with
    | error e => rfl
    | ok answer => cases answer <;> rfl

/-- A declared constructor answers as the only one that accepts the types, or as the only one that
takes exactly these. -/
theorem declaredConstructor_eq_only (reg : Registry) (sig : Signature) (info : TypeInfo) :
    declaredConstructor reg sig info =
      if (acceptingConstructors reg sig info).isEmpty then
        .error (.constructorNotFound info.name (reg.describeTypes sig.params))
      else match (only? (acceptingConstructors reg sig info)).or
          (only? ((acceptingConstructors reg sig info).filter fun entry => entry.2)) with
        | some one => .ok ⟨.constructor sig.target one.1.1, one.1.2.paramTypes, true⟩
        | none => .error (.ambiguousOperation (.constructors
            (acceptingConstructors reg sig info).length info.name
            (reg.describeTypes sig.params))) := by
  unfold declaredConstructor
  dsimp only
  rw [show (positions (fun c => sig.flags.matchesBinding c.visibility false)
    info.constructors).filterMap _ = acceptingConstructors reg sig info from rfl]
  rcases acceptingConstructors reg sig info with _ | ⟨first, _ | ⟨second, rest⟩⟩
  · rfl
  · rfl
  · rcases hexact : (first :: second :: rest).filter fun entry => entry.2 with
      _ | ⟨one, _ | ⟨other, more⟩⟩ <;> simp [only?, hexact]

/-- The declared constructor that answers a request is the same. -/
theorem declaredConstructor_reordered (hreg : reg.Reordered order next)
    (h : info.Reordered order info') (hhandle : info.handle = sig.target) :
    declaredConstructor next sig info' =
      (declaredConstructor reg sig info).map (Resolution.reordered order) := by
  have hperm : (acceptingConstructors next sig info').Perm
      ((acceptingConstructors reg sig info).map
        (Prod.map (moved (order.constructor sig.target) id) id)) := by
    have hpositions := positions_permuted
      (p := fun c : ConstructorInfo => sig.flags.matchesBinding c.visibility false) h.constructors
      fun a b hab => by rw [show a = b from hab]
    have hparams : ∀ entry : Nat × ConstructorInfo,
        (moved (order.constructor info.handle) id entry).2.params = entry.2.params := fun _ => rfl
    have hself : (moved (.refl Nat) id : Nat × ConstructorInfo → _) = id := rfl
    rw [hself, List.map_id] at hpositions
    rw [acceptingConstructors, acceptingConstructors, ← hhandle, ← bindable_map _ hparams]
    unfold bindable
    rw [hreg.bindParams]
    exact hpositions.filterMap _
  have hexact : ((acceptingConstructors next sig info').filter (·.2)).Perm
      (((acceptingConstructors reg sig info).filter (·.2)).map
        (Prod.map (moved (order.constructor sig.target) id) id)) := by
    have hfilter := hperm.filter (·.2)
    rwa [List.filter_map] at hfilter
  rw [declaredConstructor_eq_only, declaredConstructor_eq_only, only?_of_perm hperm,
    only?_of_perm hexact, only?_map, only?_map, ← Option.map_or, hperm.isEmpty_eq, hperm.length_eq,
    List.isEmpty_map, List.length_map, h.name_eq, hreg.describeTypes]
  cases (acceptingConstructors reg sig info).isEmpty with
  | true => rfl
  | false =>
      cases (only? (acceptingConstructors reg sig info)).or
        (only? ((acceptingConstructors reg sig info).filter (·.2))) <;> rfl

/-- A request for a field, a method or a constructor finds the same member, wherever it is declared
within its type, or fails with the same error. -/
theorem resolve_reordered (hkeyed : reg.Keyed) (h : reg.Reordered order next) (sig : Signature)
    (hkind : sig.kind = .field ∨ sig.kind = .method ∨ sig.kind = .constructor) :
    resolve next sig = (resolve reg sig).map (Resolution.reordered order) := by
  have hmissing : memberNotFound next sig = memberNotFound reg sig := by
    rw [memberNotFound, memberNotFound, h.nameOf]
  unfold resolve
  rcases hkind with hkind | hkind | hkind
  · simp only [hkind]
    unfold field
    rw [hmissing]
    exact walk_reordered h sig (fun _ _ hinfo => fieldOn_reordered hinfo sig) _
  · simp only [hkind]
    unfold method
    rw [h.nameOf, h.describeTypes]
    exact walk_reordered h sig (fun _ _ hinfo => methodOn_reordered h hinfo sig) _
  · simp only [hkind]
    unfold constructor
    have hget := h.get sig.target
    unfold Registry.info
    cases hreg : reg.get sig.target with
    | none =>
        rw [hreg] at hget
        cases hnext : next.get sig.target with
        | none => rw [h.nameOf]; rfl
        | some info => simp [hnext] at hget
    | some info =>
        rw [hreg] at hget
        cases hnext : next.get sig.target with
        | none => simp [hnext] at hget
        | some info' =>
            rw [hnext] at hget
            cases hget with
            | some hinfo =>
                show (if (info'.kind == .array && _) = true then _ else
                  if (info'.kind.isValueType && _) = true then _ else _) =
                  (if (info.kind == .array && _) = true then _ else
                  if (info.kind.isValueType && _) = true then _ else _ :
                    Except ReflectError Resolution).map _
                rw [hinfo.kind_eq, hinfo.element_eq, hinfo.name_eq,
                  declaredConstructor_reordered h hinfo (hkeyed.handle_eq hreg)]
                split
                · cases info.element <;> rfl
                · split <;> rfl

/-- The members of a shelf: fields, methods and constructors in pairs. -/
def shelf : TypeHandle × Registry :=
  Registry.initial.declare (.described "Shelf") <|
    Blueprint.reference "Shelf"
      |>.withField (.ofSlot "Shelf" "Row" "row" .int32 .int32)
      |>.withField (.ofSlot "Shelf" "row" "label" .string .string)
      |>.withMethod (.reading "Shelf" "Find" [.byValue "row" .int32] .int32 (pure .null))
      |>.withMethod (.reading "Shelf" "Find" [.byValue "any" .object] .int32 (pure .null))
      |>.withConstructor [.byValue "row" .int32] (pure default)
      |>.withConstructor [.byValue "any" .object] (pure default)

/-- The same members, the second of each pair declared first. -/
def turnedShelf : TypeHandle × Registry :=
  Registry.initial.declare (.described "Shelf") <|
    Blueprint.reference "Shelf"
      |>.withField (.ofSlot "Shelf" "row" "label" .string .string)
      |>.withField (.ofSlot "Shelf" "Row" "row" .int32 .int32)
      |>.withMethod (.reading "Shelf" "Find" [.byValue "any" .object] .int32 (pure .null))
      |>.withMethod (.reading "Shelf" "Find" [.byValue "row" .int32] .int32 (pure .null))
      |>.withConstructor [.byValue "any" .object] (pure default)
      |>.withConstructor [.byValue "row" .int32] (pure default)

/-- The members of a shelf trade places in pairs. -/
def turning : Reordering :=
  let trade (type : TypeHandle) : Equiv.Perm Nat :=
    if type = shelf.1 then .swap 0 1 else .refl Nat
  ⟨trade, trade, trade⟩

/-- A pair that is turned around has traded places. -/
theorem permutedBy_pair {α β : Type} (view : α → β) (a b : α) :
    PermutedBy (.swap 0 1) view [a, b] [b, a] := by
  intro index
  match index with
  | 0 => rfl
  | 1 => rfl
  | index + 2 =>
      rw [Equiv.swap_apply_of_ne_of_ne (by omega) (by omega)]
      rfl

/-- On the turned shelf, the method that takes a number is found at its new place, and so are the
field and the constructor. -/
theorem resolve_reordered_shelf :
    shelf.2.Keyed ∧ shelf.2.Reordered turning turnedShelf.2 ∧
      (resolve turnedShelf.2 (.method shelf.1 "Find" [.int32] Flags.standard)).toOption.map
        (·.member) = some (.method ⟨shelf.1, 1⟩) ∧
      (resolve turnedShelf.2 (.field shelf.1 "Row" .read
        (Flags.standard ∪ Flags.ignoreCase))).toOption.map (·.member) =
          some (.field shelf.1 1) ∧
      (resolve turnedShelf.2 (.constructor shelf.1 [.int32] Flags.standard)).toOption.map
        (·.member) = some (.constructor shelf.1 1) := by
  have hkeyed : shelf.2.Keyed := Registry.keyed_declare Registry.keyed_initial _ _
  have hreordered : shelf.2.Reordered turning turnedShelf.2 := by
    have hsame : ∀ info : TypeInfo, info.handle ≠ shelf.1 → info.Reordered turning info := by
      intro info hother
      have hstay : ∀ {α β : Type} (view : α → β) (items : List α),
          PermutedBy (turning.field info.handle) view items items := by
        intro α β view items index
        rw [show turning.field info.handle = .refl Nat from if_neg hother]
        rfl
      exact ⟨rfl, hstay _ _, hstay _ _, hstay _ _⟩
    refine .cons ⟨rfl, rfl, permutedBy_pair _ _ _, permutedBy_pair _ _ _, permutedBy_pair _ _ _⟩ ?_
    refine List.forall₂_same.mpr fun entry hentry => ⟨rfl, hsame entry.2 ?_⟩
    have hbuiltin : ∀ entry ∈ Registry.initial.types, entry.2.handle ≠ shelf.1 := by decide
    exact hbuiltin entry hentry
  refine ⟨hkeyed, hreordered, ?_, ?_, ?_⟩
  · rw [resolve_reordered hkeyed hreordered _ (.inr (.inl rfl))]
    rfl
  · rw [resolve_reordered hkeyed hreordered _ (.inl rfl)]
    rfl
  · rw [resolve_reordered hkeyed hreordered _ (.inr (.inr rfl))]
    rfl

end Resolver

end Introspect
