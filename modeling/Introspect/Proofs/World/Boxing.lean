import Introspect.Proofs.Conversion.Boxed
import Introspect.Proofs.Registry.ListTypes
import Introspect.Proofs.World.Cells

/-!
# `Introspect.Proofs.World.Boxing`: what was boxed can be unboxed

Slot contents are whole numbers, truth values, texts, values of any kind, instances of described
value types and members of described enumerations, and lists of these to any depth. `SlotContent`
says which contents belong to which native type.

Boxing a list boxes its items first, then asks for the type of the items, and makes the new array
last. So the items are unboxed again in a world that came later than the one in which they were
boxed. `Precedes` says what such worlds have in common, and `unbox_box` is about all later worlds,
by induction on the contents. Nothing about the types is needed for it.

The type of a slot may have been registered long before its content is boxed, and the new array is
of the type that is found for it now. Where the two agree (`Registry.Agrees`), the boxed content
belongs to the type of the slot (`belongs_box`). So it does where the type of the slot is registered
afterwards, since boxing a list makes known what it is made of, but not the list itself
(`known_box`). `survives_box` puts both parts together, and `rows_refused` shows a slot that refuses
its own content, since its type was registered while that of its items was reserved.
-/

set_option autoImplicit false

namespace Introspect

/-! ### The types of native types -/

namespace Registry

variable {reg next : Registry} {native : NativeType} {type : TypeHandle}

/-- The native types that are known from the start have the types that they start with. -/
def KeepsNatives (reg : Registry) : Prop :=
  ∀ native type, initial.natives.lookup native = some type →
    reg.natives.lookup native = some type

/-- A native type that was not known gets a type. -/
theorem KeepsNatives.cons (h : reg.KeepsNatives) (hunknown : reg.natives.lookup native = none)
    (hnatives : next.natives = (native, type) :: reg.natives) : next.KeepsNatives := by
  intro other found hfound
  have hknown := h other found hfound
  have hne : other ≠ native := by
    rintro rfl
    exact absurd (hunknown.symm.trans hknown) (by simp)
  rw [hnatives, lookup_cons_of_ne hne]
  exact hknown

/-- Every registry that registration leads to keeps them, while handles are left. -/
theorem Reached.keepsNatives (h : Reached reg) (hleft : reg.issued ≤ UInt64.size) :
    reg.KeepsNatives := by
  refine (h.induction (P := KeepsNatives) hleft (fun _ _ hfound => hfound) ?_).2
  intro reg next _ hledger hkeeps hmove _
  -- Both ways to end a description make known what was not known before.
  have hsettled : ∀ {native type rest b}, reg.pending = (native, type) :: rest →
      (reg.settle native type b).2.KeepsNatives := fun {native type _ b} hpending =>
    hkeeps.cons (hledger.unknown (native, type) (by simp [hpending])) (natives_settle reg _ _ b)
  cases hmove with
  | reserve _ => exact hkeeps
  | arrayOf element =>
      intro native type hfound
      rw [natives_arrayOf]
      exact hkeeps native type hfound
  | settle hpending _ => exact hsettled hpending
  | settleArray hpending _ => exact hsettled hpending

end Registry

/-! ### Contents of slots -/

/-- The contents of slots, by native type. What is stored in place carries the type that the native
type is known by. -/
inductive SlotContent (reg : Registry) : NativeType → Datum → Prop
  | value (v : Value) : SlotContent reg .value (.value v)
  | bool (b : Bool) : SlotContent reg .bool (.value (.bool b))
  | int32 (n : Int32) : SlotContent reg .int32 (.value (.int32 n))
  | int64 (n : Int64) : SlotContent reg .int64 (.value (.int64 n))
  | string (text : String) : SlotContent reg .string (.value (.string text))
  /-- an instance that was made for the native type -/
  | struct {type : TypeHandle} (data : Instance) :
      reg.natives.lookup (.struct data.native) = some type →
      SlotContent reg (.struct data.native) (.value (.struct type data))
  /-- a member of the enumeration -/
  | enum {name : String} {members : List Int64} {type : TypeHandle} {n : Int64} :
      reg.natives.lookup (.enum name members) = some type → n ∈ members →
      SlotContent reg (.enum name members) (.value (.enum type n))
  | list {element : NativeType} {contents : List Datum} :
      (∀ content ∈ contents, SlotContent reg element content) →
      SlotContent reg (.list element) (.list contents)

namespace World

variable {w later last : World} {native element : NativeType} {content : Datum}

/-! ### Later worlds -/

/-- What there is before something is boxed is there afterwards. -/
structure Precedes (w later : World) : Prop where
  cells : later.cells = w.cells
  arrays : ∀ (id : Nat) (items : List Value), w.arrays[id]? = some items →
    later.arrays[id]? = some items
  answers : Registry.AnswersKept w.registry later.registry

/-- Nothing happens in between. -/
theorem Precedes.refl (w : World) : w.Precedes w :=
  ⟨rfl, fun _ _ h => h, Registry.traced_answersKept.refl _⟩

/-- Several things happen in between. -/
theorem Precedes.trans (h : w.Precedes later) (h' : later.Precedes last) : w.Precedes last where
  cells := h'.cells.trans h.cells
  arrays id items hitems := h'.arrays id items (h.arrays id items hitems)
  answers := Registry.traced_answersKept.trans h.answers h'.answers

/-- A native type that is known is the same in later worlds. -/
theorem Precedes.lookup {type : TypeHandle} (h : w.Precedes later)
    (hknown : w.registry.natives.lookup native = some type) :
    later.registry.natives.lookup native = some type :=
  (h.answers.natives native type (Registry.known_of_natives hknown)).trans hknown

/-- The type of a native type is asked for. -/
theorem precedes_handleOf (w : World) (native : NativeType) : w.Precedes (w.handleOf native).2 :=
  ⟨rfl, fun _ _ h => h, Registry.traced_answersKept.request [] native w.registry⟩

/-- An array is allocated behind those that are there. -/
theorem precedes_newArray (w : World) (element : TypeHandle) (items : List Value) :
    w.Precedes (w.newArray element items).2 := by
  refine ⟨rfl, fun id old hold => ?_, Registry.traced_answersKept.arrayOf w.registry element⟩
  have hlt : id < w.arrays.size := (Array.getElem?_eq_some_iff.mp hold).1
  show (w.arrays.push items)[id]? = some old
  rw [Array.getElem?_push_lt hlt, ← Array.getElem?_eq_getElem hlt]
  exact hold

mutual

/-- Boxing allocates arrays, and changes nothing that is there. -/
theorem precedes_box (w : World) (native : NativeType) :
    (content : Datum) → w.Precedes (w.box native content).2
  | .value _ => .refl w
  | .list contents =>
      ((precedes_boxAll w (elementOf native) contents).trans (precedes_handleOf _ _)).trans
        (precedes_newArray _ _ _)

/-- Boxing the items of a list changes nothing that is there. -/
theorem precedes_boxAll (w : World) (native : NativeType) :
    (contents : List Datum) → w.Precedes (w.boxAll native contents).2
  | [] => .refl w
  | content :: rest =>
      (precedes_box w native content).trans (precedes_boxAll _ native rest)

end

/-! ### There and back -/

/-- The items of a list are unboxed as they were boxed, if each of them is. -/
theorem unboxAll_boxAll {contents : List Datum}
    (hitems : ∀ content ∈ contents, ∀ w : World, (w.box element content).2.Precedes later →
      later.unbox element (w.box element content).1 = .ok content)
    (h : (w.boxAll element contents).2.Precedes later) :
    later.unboxAll element (w.boxAll element contents).1 = .ok contents := by
  induction contents generalizing w with
  | nil => simp [boxAll, unboxAll]
  | cons content rest ih =>
      -- The other items are boxed after the first one, so what they leave is later.
      have hrest : ((w.box element content).2.boxAll element rest).2.Precedes later := h
      have hfirst := hitems content List.mem_cons_self w ((precedes_boxAll _ _ _).trans hrest)
      have hothers := ih (fun other hother => hitems other (List.mem_cons_of_mem _ hother)) hrest
      show later.unboxAll element ((w.box element content).1 ::
        ((w.box element content).2.boxAll element rest).1) = .ok (content :: rest)
      rw [unboxAll, hfirst, hothers]
      rfl

/-- A new array holds its items, also in later worlds. -/
theorem items_newArray {inner : TypeHandle} {items : List Value} {array : ArrayRef}
    (hid : array.id = w.arrays.size) (h : (w.newArray inner items).2.Precedes later) :
    later.items array = items := by
  have hnew : (w.newArray inner items).2.arrays[w.arrays.size]? = some items := by
    show (w.arrays.push items)[w.arrays.size]? = some items
    rw [Array.getElem?_push_size]
  rw [World.items, hid, h.arrays _ _ hnew, Option.getD_some]

/-- A boxed content is unboxed to what it was, in every later world. -/
theorem unbox_box {reg : Registry} (h : SlotContent reg native content)
    (hknown : ∀ native type, reg.natives.lookup native = some type →
      later.registry.natives.lookup native = some type)
    (hlater : (w.box native content).2.Precedes later) :
    later.unbox native (w.box native content).1 = .ok content := by
  induction h generalizing w with
  | value v => simp only [box, unbox]
  | bool b => simp only [box, unbox, content_of_not_cell later (v := .bool b) rfl]
  | int32 n => simp only [box, unbox, content_of_not_cell later (v := .int32 n) rfl]
  | int64 n => simp only [box, unbox, content_of_not_cell later (v := .int64 n) rfl]
  | string text => simp only [box, unbox]
  | @struct type data _ =>
      simp only [box, unbox, content_of_not_cell later (v := .struct type data) rfl, if_true]
  | @enum name members type n hregistered hmember =>
      simp only [box, unbox, content_of_not_cell later (v := .enum type n) rfl,
        hknown _ _ hregistered, hmember, if_true]
  | @list element contents hcontents ih =>
      let boxed := w.boxAll element contents
      let asked := boxed.2.handleOf element
      let array : ArrayRef :=
        ⟨asked.2.arrays.size, (asked.2.registry.arrayOf asked.1).1, asked.1⟩
      have hmade : (asked.2.newArray asked.1 boxed.1).2.Precedes later := hlater
      -- The items were boxed before their type was asked for and before the array was made.
      have hboxed : boxed.2.Precedes later :=
        ((precedes_handleOf boxed.2 element).trans (precedes_newArray _ _ _)).trans hmade
      have hback : later.unboxAll element boxed.1 = .ok contents :=
        unboxAll_boxAll (fun content hmem w hw => ih content hmem hw) hboxed
      have hitems : later.items array = boxed.1 := items_newArray rfl hmade
      show later.unbox (.list element) (.array array) = .ok (.list contents)
      simp only [unbox, hitems, hback, Except.map]

/-! ### The type of a slot -/

/-- A native type that is known is asked for without any change. -/
theorem handleOf_of_known {type : TypeHandle} (hknown : w.registry.known native = some type) :
    w.handleOf native = (type, w) := by
  simp only [handleOf, Registry.request_of_known [] native w.registry type hknown]

/-- Boxing items makes nothing known that boxing one of them does not. -/
theorem natives_boxAll {contents : List Datum} {other : NativeType}
    (hitems : ∀ content ∈ contents, ∀ w : World,
      (w.box element content).2.registry.natives.lookup other = w.registry.natives.lookup other) :
    (w.boxAll element contents).2.registry.natives.lookup other =
      w.registry.natives.lookup other := by
  induction contents generalizing w with
  | nil => rw [boxAll]
  | cons content rest ih =>
      have hothers := ih (w := (w.box element content).2)
        fun other hother => hitems other (List.mem_cons_of_mem _ hother)
      exact hothers.trans (hitems content List.mem_cons_self w)

/-- Boxing makes known what a native type is made of, and nothing larger. -/
theorem natives_box {reg : Registry} (h : SlotContent reg native content) {other : NativeType}
    (hle : sizeOf native ≤ sizeOf other) (w : World) :
    (w.box native content).2.registry.natives.lookup other = w.registry.natives.lookup other := by
  induction h generalizing w with
  | @list element contents _ ih =>
      let boxed := w.boxAll element contents
      have hlt : sizeOf element < sizeOf other := Nat.lt_of_lt_of_le (by simp) hle
      have hitems : boxed.2.registry.natives.lookup other = w.registry.natives.lookup other :=
        natives_boxAll fun content hmem w => ih content hmem (Nat.le_of_lt hlt) w
      -- The type of the items is asked for next, and then an array type, which makes nothing known.
      show ((boxed.2.handleOf element).2.registry.arrayOf _).2.natives.lookup other = _
      rw [Registry.natives_arrayOf, ← hitems]
      exact Registry.natives_request_of_lt hlt boxed.2.registry
  | _ => simp only [box]

/-- Boxing a slot content does not make the native type of the slot known. -/
theorem known_box {reg : Registry} (h : SlotContent reg native content) (w : World) :
    (w.box native content).2.registry.known native = w.registry.known native := by
  have hpending := (w.precedes_box native content).answers.pending
  rw [Registry.known, natives_box h (Nat.le_refl _), hpending]
  rfl

/-- The new array of a list is of the type that the list is answered with, where they agree. -/
theorem fst_handleOf_list {contents : List Datum} (hagrees : w.registry.Agrees (.list element))
    (h : SlotContent w.registry (.list element) (.list contents)) :
    let boxed := w.boxAll element contents
    let asked := boxed.2.handleOf element
    ((asked.2.newArray asked.1 boxed.1).2.handleOf (.list element)).1 =
      (asked.2.registry.arrayOf asked.1).1 := by
  intro boxed asked
  let made := asked.2.newArray asked.1 boxed.1
  have hknown : made.2.registry.known (.list element) = w.registry.known (.list element) :=
    known_box h w
  cases hbefore : w.registry.known (.list element) with
  | none =>
      -- The list is registered now, as the array type of what its items are answered with.
      have hitem : made.2.registry.Answers element asked.1 :=
        (Registry.answers_request element boxed.2.registry).congr (Registry.known_arrayOf _ _ _)
      exact Registry.fst_request_list (hknown.trans hbefore) hitem (Registry.lookup_arrayOf _ _)
  | some type =>
      -- It was registered before, as the array type of what its items were registered as.
      obtain ⟨item, hitem, harray⟩ := hagrees element type rfl hbefore
      have hlater : w.Precedes boxed.2 := precedes_boxAll w element contents
      have hasked : asked = (item, boxed.2) :=
        handleOf_of_known (Registry.known_of_natives (hlater.lookup hitem))
      have hmade : boxed.2.registry.arrayOf item = (type, boxed.2.registry) :=
        Registry.arrayOf_of_known (hlater.answers.arrays item type harray)
      have hfound : made.2.handleOf (.list element) = (type, made.2) :=
        handleOf_of_known (hknown.trans hbefore)
      rw [hfound, hasked, hmade]

/-- Where they agree, a boxed content is of the type that its slot is answered with. A slot for
values of any kind has the root type. -/
theorem directType_box (hkeeps : w.registry.KeepsNatives) (hagrees : w.registry.Agrees native)
    (h : SlotContent w.registry native content) :
    native = .value ∧ ((w.box native content).2.handleOf native).1 = .object ∨
      directType (w.box native content).1 =
        some ((w.box native content).2.handleOf native).1 := by
  have hplain : ∀ {native type}, w.registry.natives.lookup native = some type →
      (w.handleOf native).1 = type := fun hfound =>
    congrArg Prod.fst (handleOf_of_known (Registry.known_of_natives hfound))
  cases h with
  | value v =>
      refine .inl ⟨rfl, ?_⟩
      simp only [box]
      exact hplain (hkeeps _ _ rfl)
  | bool b | int32 n | int64 n | string text =>
      simp only [box]
      rw [hplain (hkeeps _ _ rfl)]
      exact .inr rfl
  | struct data hregistered | enum hregistered _ =>
      simp only [box]
      rw [hplain hregistered]
      exact .inr rfl
  | list hcontents =>
      exact .inr (congrArg some (fst_handleOf_list hagrees (.list hcontents)).symm)

/-- A value can be converted to its own type. -/
theorem cast_directType {v : Value} {type : TypeHandle} (h : directType v = some type) :
    w.cast v type = .ok v := by
  by_cases htype : type = .object
  · simp only [World.cast, htype, if_true]
  · have hopened : w.opened v = v := opened_of_directType h
    have htypeOf : w.typeOf (w.opened v) = some type := by
      rw [hopened]
      exact typeOf_of_directType h
    exact (cast_eq_ok_iff htype).mpr
      ⟨hopened.symm, .inr ⟨type, htypeOf, w.registry.isAssignable_refl type⟩⟩

/-- Only null and cells that lead to it, or nowhere, have no runtime type. -/
theorem content_of_typeOf_eq_none {v : Value} (h : w.typeOf v = none) :
    w.content v = .null ∨ (w.content v).isCell = true := by
  by_cases hcell : (w.content v).isCell = true
  · exact .inr hcell
  · exact .inl ((directType_eq_none_iff (Bool.eq_false_iff.mpr hcell)).mp h)

/-- What is true of a value that a slot content was boxed as, whatever the types are. -/
structure Survives (w : World) (native : NativeType) (content : Datum) (v : Value) : Prop where
  /-- it is unboxed to the content -/
  back : w.unbox native v = .ok content
  /-- it has a runtime type, unless the slot is for values of any kind and holds null, by itself or
  in cells, or cells that lead nowhere -/
  typed : w.typeOf v = none →
    native = .value ∧ content = .value v ∧ (w.content v = .null ∨ (w.content v).isCell = true)

/-- What is true of a value that belongs to a slot of a native type. The type of the slot is what is
answered when it is asked for, which registers a list that is not known. -/
structure Belongs (w : World) (native : NativeType) (v : Value) : Prop where
  /-- a native type that is registered is answered with its registered type, without any change -/
  registered : ∀ type, w.registry.natives.lookup native = some type → w.handleOf native = (type, w)
  /-- the value's runtime type can be stored at the type of the slot -/
  assignable : ∀ actual, (w.handleOf native).2.typeOf v = some actual →
    (w.handleOf native).2.registry.isAssignable (w.handleOf native).1 actual = true
  /-- the value can be converted to the type of the slot, and stays what it is -/
  cast : (w.handleOf native).2.cast v (w.handleOf native).1 = .ok v

/-- Every boxed content other than a value of any kind has a type. -/
theorem directType_box_isSome (h : SlotContent w.registry native content)
    (hnative : native ≠ .value) : (directType (w.box native content).1).isSome = true := by
  cases h with
  | value v => exact absurd rfl hnative
  | _ => rfl

/-- A boxed content survives in every world. -/
theorem survives_of_content (h : SlotContent w.registry native content) :
    Survives (w.box native content).2 native content (w.box native content).1 := by
  have hlater := w.precedes_box native content
  refine ⟨unbox_box h (fun _ _ => hlater.lookup) (.refl _), fun hnone => ?_⟩
  by_cases hnative : native = .value
  · subst hnative
    cases h with
    | value v => exact ⟨rfl, rfl, content_of_typeOf_eq_none hnone⟩
  · obtain ⟨type, htype⟩ := Option.isSome_iff_exists.mp (directType_box_isSome h hnative)
    exact absurd ((typeOf_of_directType htype).symm.trans hnone) (by simp)

/-- It belongs to its slot where the types agree. -/
theorem belongs_box (hkeeps : w.registry.KeepsNatives) (hagrees : w.registry.Agrees native)
    (h : SlotContent w.registry native content) :
    Belongs (w.box native content).2 native (w.box native content).1 := by
  have hregistered : ∀ type, (w.box native content).2.registry.natives.lookup native = some type →
      (w.box native content).2.handleOf native = (type, (w.box native content).2) :=
    fun _ hfound => handleOf_of_known (Registry.known_of_natives hfound)
  rcases directType_box hkeeps hagrees h with ⟨-, hobject⟩ | htype
  · -- The root type takes all values.
    refine ⟨hregistered, fun actual _ => ?_, ?_⟩
    · rw [hobject]
      exact Registry.isAssignable_object _ actual
    · rw [hobject]
      simp only [World.cast, if_true]
  · refine ⟨hregistered, fun actual hfound => ?_, cast_directType htype⟩
    obtain rfl := Option.some.inj ((typeOf_of_directType htype).symm.trans hfound)
    exact Registry.isAssignable_refl _ _

/-- Slot contents survive boxing, for all native types of slots, lists of any depth included, and
all contents.

The boxed value is unboxed to the content, and has a runtime type unless it is null, or cells around
null. That type can be stored at the type of the slot, and the conversion to the type of the slot
succeeds and changes nothing, unless the slot is for a list that was registered as another array
type than that of its items. The type of the slot is the registered one, and may be registered as
late as after the boxing.

Between requests there is no such list if none was asked for while it was itself under description
(`Registry.Grown.intact`, `Registry.Intact.agrees`). -/
theorem survives_box (h : SlotContent w.registry native content) :
    Survives (w.box native content).2 native content (w.box native content).1 ∧
      (w.registry.KeepsNatives → w.registry.Agrees native →
        Belongs (w.box native content).2 native (w.box native content).1) :=
  ⟨survives_of_content h, fun hkeeps hagrees => belongs_box hkeeps hagrees h⟩

/-- Marks are stored in place, and tones are members of an enumeration. -/
def palette : Family :=
  [(.struct "Mark", pure (Blueprint.struct "Mark" (.mk "Mark" none []))),
    (.enum "Tone" [0, 1],
      pure (((Blueprint.enumeration "Tone").variant "Low" 0).variant "High" 1))]

/-- A world with marks, tones, and rows of rows of marks. -/
def studio : World :=
  .ofRegistry (Registry.requestAll palette
    [.struct "Mark", .enum "Tone" [0, 1], .list (.list (.struct "Mark"))] .initial)

/-- Marks and tones are described without any request. -/
theorem described_palette {description : Description Blueprint}
    (hfound : palette.lookup native = some description) :
    ∃ b, description = .done b ∧ b.element = none ∧
      b.handles ⊆ Registry.builtins.map (·.handle) := by
  simp only [palette, List.lookup_cons, List.lookup_nil] at hfound
  split at hfound
  · exact ⟨_, (Option.some.inj hfound).symm, rfl, by decide⟩
  · split at hfound
    · exact ⟨_, (Option.some.inj hfound).symm, rfl, by decide⟩
    · cases hfound

/-- So they can be asked for in any order, and lists of them as well. -/
theorem intact_studio : Registry.Intact palette studio.registry := by
  have hclosed : palette.Closed := by
    intro native description hfound
    obtain ⟨b, rfl, -, hhandles⟩ := described_palette hfound
    exact hhandles
  have hfree : palette.ListFree := by
    intro native description hfound
    obtain ⟨b, rfl, helement, -⟩ := described_palette hfound
    exact ⟨trivial, helement⟩
  refine (Registry.grown_requestAll hfree _ (fun native hnative => ?_) .initial).intact hclosed
    (by decide)
  simp only [List.mem_cons, List.not_mem_nil, or_false] at hnative
  rcases hnative with rfl | rfl | rfl <;> exact .inr rfl

/-- A row of marks, and a row without any. -/
def rows : Datum :=
  .list [.list [.value (.struct (.ofIndex 8) (.mk "Mark" none []))], .list []]

/-- Both tones. -/
def tones : Datum := .list [.value (.enum (.ofIndex 9) 0), .value (.enum (.ofIndex 9) 1)]

/-- Rows of marks survive boxing and belong to their registered type. A list of tones belongs to a
type as well that is not registered when it is boxed. -/
theorem survives_box_studio :
    SlotContent studio.registry (.list (.list (.struct "Mark"))) rows ∧
      SlotContent studio.registry (.list (.enum "Tone" [0, 1])) tones ∧
      studio.registry.KeepsNatives ∧
      (∃ type, studio.registry.natives.lookup (.list (.list (.struct "Mark"))) = some type) ∧
      studio.registry.Agrees (.list (.list (.struct "Mark"))) ∧
      Survives (studio.box (.list (.list (.struct "Mark"))) rows).2
        (.list (.list (.struct "Mark"))) rows
        (studio.box (.list (.list (.struct "Mark"))) rows).1 ∧
      Belongs (studio.box (.list (.list (.struct "Mark"))) rows).2
        (.list (.list (.struct "Mark"))) (studio.box (.list (.list (.struct "Mark"))) rows).1 ∧
      studio.registry.known (.list (.enum "Tone" [0, 1])) = none ∧
      Belongs (studio.box (.list (.enum "Tone" [0, 1])) tones).2 (.list (.enum "Tone" [0, 1]))
        (studio.box (.list (.enum "Tone" [0, 1])) tones).1 := by
  have hintact := intact_studio
  have hagrees := hintact.agrees (rfl : studio.registry.pending = [])
  have hkeeps : studio.registry.KeepsNatives := hintact.builtin
  have hmark : SlotContent studio.registry (.struct "Mark")
      (.value (.struct (.ofIndex 8) (.mk "Mark" none []))) := .struct (.mk "Mark" none []) rfl
  have hrows : SlotContent studio.registry (.list (.list (.struct "Mark"))) rows := by
    refine .list fun row hrow => ?_
    rcases List.mem_pair.mp hrow with rfl | rfl
    · exact .list fun mark hmem => List.mem_singleton.mp hmem ▸ hmark
    · exact .list fun mark hmem => absurd hmem List.not_mem_nil
  have htones : SlotContent studio.registry (.list (.enum "Tone" [0, 1])) tones := by
    refine .list fun tone htone => ?_
    rcases List.mem_pair.mp htone with rfl | rfl
    · exact .enum rfl (by decide)
    · exact .enum rfl (by decide)
  obtain ⟨hsurvives, hbelongs⟩ := survives_box hrows
  exact ⟨hrows, htones, hkeeps, ⟨_, rfl⟩, hagrees _, hsurvives, hbelongs hkeeps (hagrees _), rfl,
    (survives_box htones).2 hkeeps (hagrees _)⟩

/-- A row is stored in place and holds rows of rows. -/
def table : Family :=
  [(.struct "Row", do
    let rows ← Description.typeOf (.list (.list (.struct "Row")))
    return (Blueprint.struct "Row" (.mk "Row" none [("rows", .list [])])).withField
      (.ofSlot "Row" "Rows" "rows" (.list (.list (.struct "Row"))) rows))]

/-- A world in which a list of rows was asked for first, and rows through it. -/
def office : World :=
  .ofRegistry (Registry.request table (.list (.struct "Row")) .initial).2

/-- The field of a row refuses a boxed list of lists of rows, although this is what it holds. The
list of rows was under description when the field asked for its own type, so the type is not that of
a list of what lists of rows are registered as. -/
theorem rows_refused :
    ∃ row info field actual, Registry.AtRest table office.registry ∧
      office.registry.KeepsNatives ∧
      ¬ office.registry.Agrees (.list (.list (.struct "Row"))) ∧
      office.registry.natives.lookup (.struct "Row") = some row ∧
      office.registry.get row = some info ∧ info.fields[0]? = some field ∧
      office.registry.natives.lookup (.list (.list (.struct "Row"))) = some field.type ∧
      SlotContent office.registry (.list (.list (.struct "Row"))) (.list []) ∧
      let boxed := office.box (.list (.list (.struct "Row"))) (.list [])
      boxed.2.typeOf boxed.1 = some actual ∧
      boxed.2.registry.isAssignable field.type actual = false ∧
      boxed.2.cast boxed.1 field.type = .error (.wrongType "<unregistered>[]" "Row[][]") := by
  have hrest : Registry.AtRest table office.registry := .request _ .initial
  refine ⟨_, _, _, _, hrest, hrest.reached.keepsNatives (by decide), ?disagrees, rfl, rfl, rfl, rfl,
    ?content, rfl, by decide, rfl⟩
  case disagrees =>
    intro h
    obtain ⟨item, hitem, harray⟩ := h _ _ rfl rfl
    obtain rfl := Option.some.inj hitem
    cases harray
  case content => exact .list fun content hmem => absurd hmem List.not_mem_nil

end World

end Introspect
