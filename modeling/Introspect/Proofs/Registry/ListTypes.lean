import Introspect.Proofs.Registry.Closure

/-!
# `Introspect.Proofs.Registry.ListTypes`: lists are registered as array types

A list asks for the type of its items and is registered as the array type of it. Boxing a list asks
for both types again, much later, when there is no description at hand. `Agrees` says of a list that
is known that it is registered as the array type that is found then.

Every request leaves in place what was answered before it (`AnswersKept`, `traced_answersKept`), so
the answers would agree if all of them were final. But a list under description is answered with a
reserved handle, which is lost in the end, and lists of that list are registered as its array type.
No list of an intact registry was registered in this way (`Intact.agrees`).

A request without descriptions makes lists known and nothing else. So it gets the same answer the
second time, and finds for a list the array type of what it finds for the items
(`fst_request_list`).
-/

set_option autoImplicit false

namespace Introspect.Registry

variable {family : Family} {reg next : Registry} {native : NativeType}
  {type element array : TypeHandle}

/-! ### Answers that were given -/

/-- The end of a description makes its native type known. -/
theorem natives_settle (reg : Registry) (native : NativeType) (type : TypeHandle) (b : Blueprint) :
    (reg.settle native type b).2.natives =
      (native, (reg.settle native type b).1) :: reg.natives := by
  cases h : b.element with
  | none =>
      rw [settle_described h, natives_nameArraysOf]
      rfl
  | some element =>
      rw [settle_array h, close, natives_arrayOf]

/-- A request for an array type makes no native type known. -/
theorem known_arrayOf (reg : Registry) (element : TypeHandle) (native : NativeType) :
    (reg.arrayOf element).2.known native = reg.known native := by
  rw [known, natives_arrayOf, pending_arrayOf]
  rfl

/-- A request for an array type keeps those that are known. -/
theorem lookup_arrays_arrayOf (h : reg.arrays.lookup element = some array) (other : TypeHandle) :
    (reg.arrayOf other).2.arrays.lookup element = some array := by
  cases hknown : reg.arrays.lookup other with
  | some found => rwa [arrayOf_of_known hknown]
  | none =>
      have hne : element ≠ other := by
        rintro rfl
        exact absurd (hknown.symm.trans h) (by simp)
      rw [arrayOf_of_unknown hknown]
      exact (lookup_cons_of_ne hne).trans h

/-- So does the end of a description. -/
theorem lookup_arrays_settle (h : reg.arrays.lookup element = some array) (native : NativeType)
    (type : TypeHandle) (b : Blueprint) :
    (reg.settle native type b).2.arrays.lookup element = some array := by
  cases hdescribed : b.element with
  | none =>
      rw [settle_described hdescribed]
      unfold nameArraysOf
      split <;> exact h
  | some other =>
      rw [settle_array hdescribed]
      exact lookup_arrays_arrayOf h other

/-- What was answered before is answered the same way afterwards. -/
structure AnswersKept (reg next : Registry) : Prop where
  pending : next.pending = reg.pending
  /-- a native type that was known or under description is so still -/
  natives : ∀ native type, reg.known native = some type →
    next.natives.lookup native = reg.natives.lookup native
  arrays : ∀ element array, reg.arrays.lookup element = some array →
    next.arrays.lookup element = some array

/-- A request for a known native type gets the same answer. -/
theorem AnswersKept.known (h : AnswersKept reg next) (hknown : reg.known native = some type) :
    next.known native = some type := by
  rw [Registry.known, h.natives native type hknown, h.pending]
  exact hknown

/-- What is reserved for another native type does not matter. -/
theorem known_reserve_of_ne {other : NativeType} (hne : native ≠ other) :
    (reg.reserve other).2.known native = reg.known native := by
  show (reg.natives.lookup native).or (List.lookup native ((other, _) :: reg.pending)) = _
  rw [lookup_cons_of_ne hne]
  rfl

/-- Every request keeps the answers that were given. -/
theorem traced_answersKept : Traced AnswersKept where
  refl _ := ⟨rfl, fun _ _ _ => rfl, fun _ _ h => h⟩
  trans h h' :=
    ⟨h'.pending.trans h.pending,
      fun native type hknown =>
        (h'.natives native type (h.known hknown)).trans (h.natives native type hknown),
      fun element array hfound => h'.arrays element array (h.arrays element array hfound)⟩
  arrayOf reg other :=
    ⟨pending_arrayOf reg other, fun _ _ _ => by rw [natives_arrayOf],
      fun _ _ hfound => lookup_arrays_arrayOf hfound other⟩
  described {reg next native} b hunknown h := by
    refine ⟨pending_settle_of_unknown hunknown h.pending b, fun other type hknown => ?_,
      fun element array hfound => lookup_arrays_settle (h.arrays element array hfound) _ _ _⟩
    -- The native type that was described is another one, since it was not known.
    have hne : other ≠ native := by
      rintro rfl
      exact absurd (hunknown.symm.trans hknown) (by simp)
    rw [natives_settle, lookup_cons_of_ne hne]
    exact h.natives other type ((known_reserve_of_ne hne).trans hknown)

/-! ### Lists -/

/-- What a native type is known as is what its parts lead to: a list that is known is registered as
the array type of what its items are registered as. -/
def Agrees (reg : Registry) (native : NativeType) : Prop :=
  ∀ element type, native = .list element → reg.known native = some type →
    ∃ item, reg.natives.lookup element = some item ∧ reg.arrays.lookup item = some type

/-- So it is with every native type in an intact registry at rest. -/
theorem Intact.agrees (h : Intact family reg) (hrest : reg.pending = []) (native : NativeType) :
    reg.Agrees native := by
  rintro element type rfl hknown
  have hregistered : reg.natives.lookup (.list element) = some type := by
    simpa [known, hrest] using hknown
  rcases (h.natives (.list element) type hregistered).2 with hinitial | htold
  · -- No list is known from the start.
    have hnone : initial.natives.lookup (.list element) = none := rfl
    exact absurd (hnone.symm.trans hinitial) (by simp)
  · obtain ⟨description, b, hdescribed, hreplays, hsays⟩ := htold
    obtain rfl := Option.some.inj hdescribed
    cases hreplays with
    | @request _ item _ _ hlasting hdone =>
        cases hdone
        have hitem : reg.natives.lookup element = some item := by
          simpa [known, hrest] using hlasting.known
        exact ⟨item, hitem, hsays⟩

/-! ### Requests without descriptions -/

/-- A request without descriptions is answered with this type and changes nothing: the type is
known, or there is no description that would make it known. -/
def Answers (reg : Registry) (native : NativeType) (type : TypeHandle) : Prop :=
  reg.known native = some type ∨
    reg.known native = none ∧ native.isList = false ∧ type = .unregistered

/-- Only what is known matters. -/
theorem Answers.congr (h : reg.Answers native type)
    (hknown : next.known native = reg.known native) : next.Answers native type := by
  unfold Answers
  rw [hknown]
  exact h

/-- The answer. -/
theorem Answers.request (h : reg.Answers native type) : request [] native reg = (type, reg) := by
  rcases h with hknown | ⟨hunknown, hlist, rfl⟩
  · exact request_of_known [] native reg type hknown
  · cases native with
    | list element => cases hlist
    | _ => simp only [Registry.request, List.length_nil, requestUpTo, requestWith, hunknown]

/-- A list that is not known becomes known as the array type of what its items are answered with. -/
theorem request_list_of_unknown {item : NativeType} (hunknown : reg.known (.list item) = none) :
    request [] (.list item) reg =
      (request [] item (reg.reserve (.list item)).2).2.settle (.list item)
        (reg.reserve (.list item)).1
        (.arrayOf (request [] item (reg.reserve (.list item)).2).1) :=
  requestUpTo_list [] 0 hunknown

/-- The second time, a request is answered as the first time. -/
theorem answers_request (native : NativeType) (reg : Registry) :
    (request [] native reg).2.Answers native (request [] native reg).1 := by
  cases hknown : reg.known native with
  | some type =>
      rw [request_of_known [] native reg type hknown]
      exact .inl hknown
  | none =>
      cases hlist : native.isList with
      | false =>
          have hanswers : reg.Answers native .unregistered := .inr ⟨hknown, hlist, rfl⟩
          rw [hanswers.request]
          exact hanswers
      | true =>
          cases native with
          | list item =>
              rw [request_list_of_unknown hknown]
              refine .inl (known_of_natives ?_)
              rw [natives_settle]
              exact List.lookup_cons_self
          | _ => cases hlist

/-- A list that is not known is answered with the array type of what its items are answered
with. -/
theorem fst_request_list {item : NativeType} (hunknown : reg.known (.list item) = none)
    (hitem : reg.Answers item element) (harray : reg.arrays.lookup element = some array) :
    (request [] (.list item) reg).1 = array := by
  have hne : item ≠ .list item := fun heq => absurd (congrArg sizeOf heq) (by simp)
  -- That the list is under description changes nothing for its items, which are smaller.
  have hreserved : (reg.reserve (.list item)).2.Answers item element :=
    hitem.congr (known_reserve_of_ne hne)
  have hknown : (reg.reserve (.list item)).2.arrayOf element
      = (array, (reg.reserve (.list item)).2) := arrayOf_of_known harray
  rw [request_list_of_unknown hunknown, hreserved.request, settle_array rfl, hknown]

/-- A request without descriptions makes known only the native type itself and what it is made
of. -/
theorem natives_request_of_lt {other : NativeType} (hlt : sizeOf native < sizeOf other)
    (reg : Registry) :
    (request [] native reg).2.natives.lookup other = reg.natives.lookup other := by
  induction native generalizing reg with
  | list item ih =>
      cases hknown : reg.known (.list item) with
      | some type => rw [request_of_known [] _ reg type hknown]
      | none =>
          have hne : other ≠ .list item := fun heq => absurd hlt (heq ▸ Nat.lt_irrefl _)
          have hitem : sizeOf item < sizeOf other := Nat.lt_trans (by simp) hlt
          -- The items make known what is smaller still, and then the list itself is added.
          rw [request_list_of_unknown hknown, natives_settle, lookup_cons_of_ne hne, ih hitem]
          rfl
  | _ =>
      -- Nothing becomes known.
      cases hknown : reg.known _ with
      | some type => rw [request_of_known [] _ reg type hknown]
      | none =>
          have hanswers : reg.Answers _ .unregistered := .inr ⟨hknown, rfl, rfl⟩
          rw [hanswers.request]

end Introspect.Registry
