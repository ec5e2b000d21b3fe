import Introspect.Proofs.Registry.Moves

/-!
# `Introspect.Proofs.Registry.ArrayNames`: array types are named after their elements

An array type gets its name from its element. While the element is still being described there is no
name to take, so the array type has a placeholder until the element is published. `Labelled` says
what is left of this in every registry that registration leads to: an array type has the name of its
element, unless the element is an array type itself that has been named since.

`Indexed` is about the names that types are found by: each leads to a type of that very name, and
placeholders are not among them. So a type whose name changes was not found before.

`arrays_atRest` is the main result, about registries between requests. `grid_keeps_placeholder` is
an instance where the name of an array of arrays stays behind.
-/

set_option autoImplicit false

namespace Introspect.Registry

variable {reg next : Registry} {type element array : TypeHandle} {info : TypeInfo} {b : Blueprint}
  {native : NativeType} {family : Family}

/-! ### Names of elements -/

/-- The name of a published type. -/
theorem nameOf_of_get (h : reg.get type = some info) : reg.nameOf type = info.name := by
  unfold nameOf
  rw [h]

/-- A type that is not published has the name of none. -/
theorem nameOf_of_unpublished (h : reg.get type = none) : reg.nameOf type = "<unregistered>" := by
  unfold nameOf
  rw [h]

/-- A publication leaves the names of other types alone. -/
theorem nameOf_publish_of_ne (h : type ≠ info.handle) :
    (reg.publish info).nameOf type = reg.nameOf type := by
  unfold nameOf
  rw [get_publish_of_ne reg info type h]

/-- An array type is named after its element, unless the element is an array type itself that was
published, or named, after it. -/
def Labelled (reg : Registry) (array element : TypeHandle) (name : String) : Prop :=
  name = reg.nameOf element ++ "[]" ∨
    ∃ info, reg.get element = some info ∧ info.element.isSome = true ∧
      ¬ reg.PublishedBefore element array

/-- The label of an array type stays right when another type is published: if it is the element,
that is an array type. -/
theorem Labelled.publish {name : String} (h : reg.Labelled array element name)
    (harray : info.handle ≠ array)
    (helement : info.handle = element → info.element.isSome = true) :
    (reg.publish info).Labelled array element name := by
  by_cases hne : info.handle = element
  · subst hne
    exact .inr ⟨info, get_publish_self reg info, helement rfl, not_publishedBefore_publish array⟩
  · rcases h with hname | ⟨other, hother, hsome, hnot⟩
    · exact .inl (by rwa [nameOf_publish_of_ne (Ne.symm hne)])
    · refine .inr ⟨other, ?_, hsome, fun hbefore => hnot ?_⟩
      · rwa [get_publish_of_ne reg info element (Ne.symm hne)]
      · exact (publishedBefore_publish_of_ne hne harray).mp hbefore

/-- An array type that is published with the name of its element is labelled so. -/
theorem labelled_publish_self (reg : Registry) (array element : TypeHandle) :
    (reg.publish (arrayInfo array element (reg.nameOf element))).Labelled array element
      (reg.nameOf element ++ "[]") := by
  by_cases hne : element = array
  · subst hne
    exact .inr ⟨_, get_publish_self reg (arrayInfo element element (reg.nameOf element)), rfl,
      not_publishedBefore_publish element⟩
  · left
    rw [nameOf_publish_of_ne hne]

/-- All array types are labelled. -/
def AllLabelled (reg : Registry) : Prop :=
  ∀ array info element, reg.get array = some info → info.element = some element →
    reg.Labelled array element info.name

/-- Labels are about what is published. -/
theorem AllLabelled.of_types_eq (h : reg.AllLabelled) (htypes : next.types = reg.types) :
    next.AllLabelled := by
  intro array info element hinfo helement
  have hget := get_of_types_eq htypes
  rw [hget] at hinfo
  have hlabelled := h array info element hinfo helement
  unfold Labelled nameOf PublishedBefore at hlabelled ⊢
  rwa [hget, htypes]

/-- An array type is made with the name of its element. -/
theorem AllLabelled.arrayOf (h : reg.AllLabelled) (element : TypeHandle) :
    (reg.arrayOf element).2.AllLabelled := by
  cases hknown : reg.arrays.lookup element with
  | some array => rwa [arrayOf_of_known hknown]
  | none =>
      rw [arrayOf_of_unknown hknown]
      have hwith : (reg.withArray element).AllLabelled := h.of_types_eq rfl
      intro array info other hinfo hother
      by_cases harray : array = reg.fresh.1
      · subst harray
        obtain rfl := Option.some.inj ((get_publish_self (reg.withArray element)
          (arrayInfo reg.fresh.1 element (reg.nameOf element))).symm.trans hinfo)
        obtain rfl : element = other := Option.some.inj hother
        exact labelled_publish_self (reg.withArray element) reg.fresh.1 element
      · rw [get_publish_of_ne _ _ _ harray] at hinfo
        exact (hwith array info other hinfo hother).publish (Ne.symm harray) fun _ => rfl

/-- The array type of a type that is published gets the name of that type. -/
theorem AllLabelled.settle (h : reg.AllLabelled) (hledger : reg.Ledger)
    {rest : List (NativeType × TypeHandle)} (hpending : reg.pending = (native, type) :: rest)
    (helement : b.element = none) : (reg.settle native type b).2.AllLabelled := by
  have hentry : (native, type) ∈ reg.pending := by simp [hpending]
  have hvacant : reg.get type = none := (hledger.reserved _ hentry).2
  let built := b.build type reg
  let between := (reg.close native type).publish built
  have hclosed : (reg.close native type).AllLabelled := h.of_types_eq rfl
  -- The new type is no array type, so all array types are old ones.
  have hold : ∀ array info element, between.get array = some info → info.element = some element →
      array ≠ type ∧ reg.get array = some info := by
    intro array info element hinfo hsome
    by_cases harray : array = type
    · subst harray
      obtain rfl : built = info :=
        Option.some.inj ((get_publish_self (reg.close native array) built).symm.trans hinfo)
      have hnone : built.element = none := helement
      simp [hnone] at hsome
    · have hget := get_publish_of_ne (reg.close native type) built array harray
      exact ⟨harray, hget.symm.trans hinfo⟩
  -- Those that are not the array type of the new type do not take their names from it.
  have hothers : ∀ array info element, between.get array = some info →
      info.element = some element → reg.arrays.lookup type ≠ some array →
      between.Labelled array element info.name := by
    intro array info element hinfo hsome hother
    obtain ⟨harray, hinfo⟩ := hold array info element hinfo hsome
    refine (hclosed array info element hinfo hsome).publish (Ne.symm harray) fun heq => ?_
    have htype : type = element := heq
    exact absurd (htype ▸ hledger.elements array info element hinfo hsome) hother
  rw [settle_described helement]
  show (between.nameArraysOf type b.name).AllLabelled
  cases hknown : reg.arrays.lookup type with
  | none =>
      rw [nameArraysOf_of_unknown (by exact hknown)]
      intro array info element hinfo hsome
      exact hothers array info element hinfo hsome (by simp [hknown])
  | some named =>
      rw [nameArraysOf_of_known (by exact hknown)]
      have hname : between.nameOf type = b.name :=
        nameOf_of_get (get_publish_self (reg.close native type) built)
      intro array info element hinfo hsome
      by_cases harray : array = named
      · -- This is the array type that waited for the name.
        subst harray
        obtain rfl := Option.some.inj ((get_publish_self between
          (arrayInfo array type b.name)).symm.trans hinfo)
        obtain rfl : type = element := Option.some.inj hsome
        have hself := labelled_publish_self between array type
        rwa [hname] at hself
      · rw [get_publish_of_ne between _ _ harray] at hinfo
        refine (hothers array info element hinfo hsome ?_).publish (Ne.symm harray) fun _ => rfl
        rw [hknown]
        exact fun heq => harray (Option.some.inj heq).symm

/-- A step keeps all array types labelled. -/
theorem AllLabelled.moves (h : reg.AllLabelled) (hledger : reg.Ledger) (hmove : Moves reg next) :
    next.AllLabelled := by
  cases hmove with
  | reserve => exact h.of_types_eq rfl
  | arrayOf element => exact h.arrayOf element
  | settle hpending helement => exact h.settle hledger hpending helement
  | @settleArray native type element rest b hpending helement =>
      rw [settle_array helement]
      exact (h.arrayOf element).of_types_eq rfl

/-- There are no array types at the start. -/
theorem allLabelled_initial : initial.AllLabelled := by
  have hbuiltins : initial.Every fun _ info => info.element = none :=
    every_initial fun info hinfo => by
      have hnone : ∀ info ∈ builtins, info.element = none := by decide
      exact hnone info hinfo
  intro array info element hinfo helement
  simp [hbuiltins.get hinfo] at helement

/-! ### Names that types are found by -/

/-- Each name that types are found by is that of the type, and no placeholder. -/
def Indexed (reg : Registry) : Prop :=
  ∀ entry ∈ reg.names, (∃ info, reg.get entry.2 = some info ∧ info.name = entry.1) ∧
    entry.1.toList.head? ≠ some '<'

/-- The built-in types are found by their names. -/
theorem indexed_initial : initial.Indexed := by
  have hnames : ∀ entry ∈ initial.names, (initial.get entry.2).map (·.name) = some entry.1 ∧
      entry.1.toList.head? ≠ some '<' := by decide
  intro entry hentry
  obtain ⟨hname, hplace⟩ := hnames entry hentry
  obtain ⟨info, hinfo, heq⟩ := Option.map_eq_some_iff.mp hname
  exact ⟨⟨info, hinfo, heq⟩, hplace⟩

/-- A type that was not found before is found by its name. -/
theorem Indexed.publish (h : reg.Indexed) (hfree : ∀ entry ∈ reg.names, entry.2 ≠ info.handle) :
    (reg.publish info).Indexed := by
  have hold : ∀ entry ∈ reg.names, (∃ found, (reg.publish info).get entry.2 = some found ∧
      found.name = entry.1) ∧ entry.1.toList.head? ≠ some '<' := by
    intro entry hentry
    rw [get_publish_of_ne reg info _ (hfree entry hentry)]
    exact h entry hentry
  intro entry hentry
  -- Only a name that is no placeholder and is not taken makes a new entry.
  simp only [Registry.publish] at hentry
  split at hentry
  · exact hold entry hentry
  · next hplace =>
      split at hentry
      · exact hold entry hentry
      · rcases List.mem_append.mp hentry with hentry | hentry
        · exact hold entry hentry
        · obtain rfl := List.mem_singleton.mp hentry
          exact ⟨⟨info, get_publish_self reg info, rfl⟩, by simpa using hplace⟩

/-- A type that is not published is found by no name. -/
theorem Indexed.ne_of_unpublished (h : reg.Indexed) (hnew : reg.get type = none) :
    ∀ entry ∈ reg.names, entry.2 ≠ type := by
  rintro entry hentry rfl
  obtain ⟨info, hinfo, -⟩ := (h entry hentry).1
  simp [hnew] at hinfo

/-- A request for an array type keeps the names while handles are left. -/
theorem Indexed.arrayOf (h : reg.Indexed) (hledger : reg.Ledger) (element : TypeHandle)
    (hleft : (reg.arrayOf element).2.issued ≤ UInt64.size) : (reg.arrayOf element).2.Indexed := by
  cases hknown : reg.arrays.lookup element with
  | some array => rwa [arrayOf_of_known hknown]
  | none =>
      rw [arrayOf_of_unknown hknown] at hleft ⊢
      have hnew : reg.get reg.fresh.1 = none := hledger.get_fresh hleft
      have hwith : (reg.withArray element).Indexed := h
      exact hwith.publish (h.ne_of_unpublished hnew)

/-- A step keeps the names while handles are left. An array type that gets another name had a
placeholder before. -/
theorem Indexed.moves (h : reg.Indexed) (hlabelled : reg.AllLabelled) (hledger : reg.Ledger)
    (hmove : Moves reg next) (hleft : next.issued ≤ UInt64.size) : next.Indexed := by
  cases hmove with
  | reserve => exact h
  | arrayOf element => exact h.arrayOf hledger element hleft
  | @settleArray native type element rest b hpending helement =>
      rw [settle_array helement] at hleft ⊢
      exact h.arrayOf hledger element hleft
  | @settle native type rest b hpending helement =>
      have hentry : (native, type) ∈ reg.pending := by simp [hpending]
      have hvacant : reg.get type = none := (hledger.reserved _ hentry).2
      let built := b.build type reg
      have hclosed : (reg.close native type).Indexed := h
      have hbuilt : ((reg.close native type).publish built).Indexed :=
        hclosed.publish (h.ne_of_unpublished hvacant)
      rw [settle_described helement]
      show (((reg.close native type).publish built).nameArraysOf type b.name).Indexed
      cases hknown : reg.arrays.lookup type with
      | none => rwa [nameArraysOf_of_unknown (by exact hknown)]
      | some array =>
          rw [nameArraysOf_of_known (by exact hknown)]
          refine hbuilt.publish ?_
          rintro entry hmem rfl
          obtain ⟨⟨info, hinfo, hname⟩, hplace⟩ := hbuilt entry hmem
          obtain ⟨old, hold⟩ := hledger.arrays type _ hknown
          have hne : entry.2 ≠ type := hledger.arrays.ne_of_unpublished hvacant hknown
          rw [get_publish_of_ne (reg.close native type) built _ hne] at hinfo
          -- The array type still has the name that it got while its element was not published.
          rcases hlabelled _ info type hinfo (by
              obtain rfl := Option.some.inj (hold.symm.trans hinfo)
              rfl) with hplaceholder | ⟨other, hother, -⟩
          · rw [nameOf_of_unpublished hvacant] at hplaceholder
            rw [← hname, hplaceholder] at hplace
            exact hplace (by decide)
          · simp [hvacant] at hother

/-! ### Registries between requests -/

/-- Names are right in every registry that registration leads to, while handles are left. -/
theorem Reached.names (h : Reached reg) (hleft : reg.issued ≤ UInt64.size) :
    reg.AllLabelled ∧ reg.Indexed :=
  (h.induction (P := fun reg => reg.AllLabelled ∧ reg.Indexed) hleft
    ⟨allLabelled_initial, indexed_initial⟩ fun _ hledger ⟨hlabelled, hindexed⟩ hmove hleft =>
      ⟨hlabelled.moves hledger hmove, hindexed.moves hlabelled hledger hmove hleft⟩).2

/-- An array type that is returned without any change is known. -/
theorem lookup_arrays_of_arrayOf (h : reg.arrayOf element = (array, reg)) :
    reg.arrays.lookup element = some array := by
  cases hknown : reg.arrays.lookup element with
  | some known =>
      rw [arrayOf_of_known hknown] at h
      exact congrArg some (Prod.mk.inj h).1
  | none =>
      have hissued : (reg.arrayOf element).2.issued = reg.issued := by rw [h]
      rw [arrayOf_of_unknown hknown] at hissued
      exact absurd hissued (Nat.succ_ne_self reg.issued)

/-- Array types and names between requests, for every family of descriptions and every order of
requests.

* A published array type is the one that a request for its element is answered with.
* It is named after its element, unless the element is an array type that was named after it.
* Different elements have different array types.
* A name leads to a type of that name only. -/
theorem arrays_atRest (h : AtRest family reg) (hleft : reg.issued ≤ UInt64.size) :
    (∀ array info element, reg.get array = some info → info.element = some element →
      reg.arrayOf element = (array, reg) ∧
      ((∀ other, reg.get element = some other → other.element.isSome = true →
        reg.PublishedBefore element array) → info.name = reg.nameOf element ++ "[]")) ∧
    (∀ element other array, reg.arrayOf element = (array, reg) →
      reg.arrayOf other = (array, reg) → element = other) ∧
    (∀ name type, reg.find name = some type → ∃ info, reg.get type = some info ∧
      info.name = name) := by
  have hledger := h.reached.ledger hleft
  obtain ⟨hlabelled, hindexed⟩ := h.reached.names hleft
  refine ⟨fun array info element hinfo helement => ⟨?known, fun hbefore => ?named⟩,
    fun element other array hfirst hsecond => ?distinct, fun name type hfound => ?found⟩
  case known => exact arrayOf_of_known (hledger.elements array info element hinfo helement)
  case named =>
    rcases hlabelled array info element hinfo helement with hname | ⟨other, hother, hsome, hnot⟩
    · exact hname
    · exact absurd (hbefore other hother hsome) hnot
  case distinct =>
    obtain ⟨name, hname⟩ := hledger.arrays _ _ (lookup_arrays_of_arrayOf hfirst)
    obtain ⟨name', hname'⟩ := hledger.arrays _ _ (lookup_arrays_of_arrayOf hsecond)
    have hsame := congrArg TypeInfo.element (Option.some.inj (hname.symm.trans hname'))
    exact Option.some.inj hsame
  case found =>
    obtain ⟨front, back, hnames, -⟩ := List.lookup_eq_some_iff.mp hfound
    exact (hindexed (name, type) (by simp [hnames])).1

/-- Shelves hold rows of shelves, and describe themselves with the array type of rows. With `deep`
they also ask for the array type of that array type. -/
def shelves (deep : Bool) : Family :=
  [(.described "Shelf", do
    let shelf ← Description.typeOf (.described "Shelf")
    let row ← Description.arrayType shelf
    let inner ← if deep then Description.arrayType row else pure row
    return (Blueprint.reference "Shelf").withField (.constant "Rows" inner .null))]

/-- The registry after shelves were asked for, and then an array of rows of shelves. -/
def library : Registry :=
  ((request (shelves false) (.described "Shelf") .initial).2.arrayOf (.ofIndex 9)).2

/-- An array of arrays that is asked for after the element has its name gets its own. -/
theorem arrays_atRest_library :
    ∃ info, AtRest (shelves false) library ∧ library.issued ≤ UInt64.size ∧
      library.get (.ofIndex 10) = some info ∧ info.element = some (.ofIndex 9) ∧
      library.PublishedBefore (.ofIndex 9) (.ofIndex 10) ∧
      info.name = library.nameOf (.ofIndex 9) ++ "[]" ∧ info.name = "Shelf[][]" := by
  have hrest : AtRest (shelves false) library := .arrayOf _ (.request _ .initial)
  have hleft : library.issued ≤ UInt64.size := by decide
  obtain ⟨info, hinfo, helement, hname⟩ : ∃ info, library.get (.ofIndex 10) = some info ∧
      info.element = some (.ofIndex 9) ∧ info.name = "Shelf[][]" := ⟨_, rfl, rfl, rfl⟩
  have hbefore : library.PublishedBefore (.ofIndex 9) (.ofIndex 10) := by decide
  exact ⟨info, hrest, hleft, hinfo, helement, hbefore,
    (((arrays_atRest hrest hleft).1 _ info _ hinfo helement).2 fun _ _ _ => hbefore), hname⟩

/-- An array of arrays that is asked for while shelves are still being described keeps the name that
its element had then. -/
theorem grid_keeps_placeholder :
    ∃ reg info, AtRest (shelves true) reg ∧ reg.issued ≤ UInt64.size ∧ reg.pending = [] ∧
      reg.get (.ofIndex 10) = some info ∧ info.element = some (.ofIndex 9) ∧
      reg.nameOf (.ofIndex 9) = "Shelf[]" ∧ info.name = "<unregistered>[][]" := by
  refine ⟨(request (shelves true) (.described "Shelf") .initial).2, _, .request _ .initial, ?_, rfl,
    rfl, rfl, rfl, rfl⟩
  decide

end Introspect.Registry
