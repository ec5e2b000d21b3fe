import Introspect.Accessor.Call
import Introspect.Facet

/-!
# `Introspect.Accessor`: compiled accessors

An accessor is prepared once from a resolved signature and then runs without looking anything up by
name: it holds the code of the field, the prepared call, or the constructor. There are six forms of
accessors, and a `Compiler` for each. `Compiler.compile` resolves a request and prepares the
accessor; it counts successful resolutions, whether or not the preparation succeeds.

`compile_signature` says that an accessor asks for the same as the request that it was prepared for.
-/

set_option autoImplicit false

namespace Introspect

/-- How a field or property is read. -/
inductive Reader
  | constant (content : Value)
  | typeWide (get : Code (Except InvokeError Value))
  | field (declaring : TypeHandle) (get : Instance → Code (Except InvokeError Value))
  | call (plan : CallPlan)

/-- How a field or property is written. -/
inductive Writer
  | typeWide (type : TypeHandle) (set : Value → Code (Except InvokeError Unit))
  | field (declaring type : TypeHandle)
      (set : Instance → Value → Code (Except InvokeError Unit × Instance))
  | call (isStatic : Bool) (plan : CallPlan)

/-- How an instance is created. -/
inductive Creator
  /-- the default value of a type -/
  | zero (content : Value)
  /-- an array of a given length -/
  | allocation (element : TypeHandle)
  /-- a declared constructor -/
  | declared (arguments : ArgPlan) (body : ConstructorBody)

namespace Reader

/-- Prepares the read of a resolved member. -/
def ofMember (reg : Registry) (member : MemberHandle) : Except ReflectError Reader :=
  match member with
  | MemberHandle.field declaring index => do
    let info ← reg.info declaring
    match info.fields[index]? with
    | none => throw (.ambiguousOperation (.noSuchMember info.name "field" index))
    | some found =>
      match found.access with
      | .constant content => return .constant content
      | .typeWide get _ => return .typeWide get
      | .perInstance get _ => return .field declaring get
  | MemberHandle.property _ _ accessor =>
    return .call (← CallPlan.ofMethod reg accessor [] .discard)
  | other => .error (.ambiguousOperation (.wrongMember other "a readable member"))

/-- Reads the member of a target. -/
def run (reader : Reader) (target : Value) (w : World) : Except InvokeError Value × World :=
  match reader with
  | constant content => (.ok content, w)
  | typeWide get => get.run w
  | field declaring get => w.withShared target declaring fun view w => (get view).run w
  | call plan =>
    let ((result, _), w) := plan.invoke target [] w
    (result, w)

end Reader

namespace Writer

/-- Prepares the write of a resolved member. -/
def ofMember (reg : Registry) (member : MemberHandle) : Except ReflectError Writer :=
  match member with
  | MemberHandle.field declaring index => do
    let info ← reg.info declaring
    match info.fields[index]? with
    | none => throw (.ambiguousOperation (.noSuchMember info.name "field" index))
    | some found =>
      match found.access with
      | .typeWide _ (some set) => return .typeWide found.type set
      | .perInstance _ (some set) => return .field declaring found.type set
      | _ => throw (.memberNotFound (reg.nameOf declaring) found.name Flags.standard)
  | MemberHandle.property _ _ accessor => do
    let info ← reg.info accessor.declaring
    match info.methods[accessor.index]? with
    | none => throw (.ambiguousOperation (.noSuchMember info.name "method" accessor.index))
    | some method => return .call method.isStatic (← CallPlan.ofMethod reg accessor [] .store)
  | other => .error (.ambiguousOperation (.wrongMember other "a writable member"))

/-- Writes the member of a target. A boxed value type is refused before anything else. -/
def run (writer : Writer) (target v : Value) (w : World) : Except InvokeError Unit × World :=
  match writer with
  | typeWide type set =>
    match w.cast v type with
    | .error e => (.error e, w)
    | .ok v => (set v).run w
  | field declaring type set =>
    -- A boxed value type is refused even when the value would not fit either.
    match w.requireWritable target with
    | .error e => (.error e, w)
    | .ok _ =>
      match w.cast v type with
      | .error e => (.error e, w)
      | .ok v => w.withExclusive target declaring .store fun view w => (set view v).run w
  | call isStatic plan =>
    match (if isStatic then .ok () else w.requireWritable target) with
    | .error e => (.error e, w)
    | .ok _ =>
      let ((result, _), w) := plan.invoke target [v] w
      (result.map fun _ => (), w)

end Writer

namespace Creator

/-- Prepares a resolved constructor. -/
def ofMember (reg : Registry) (member : MemberHandle) : Except ReflectError Creator :=
  match member with
  | MemberHandle.zero type => .ok (.zero (reg.zeroOf type))
  | MemberHandle.allocation element => .ok (.allocation element)
  | MemberHandle.constructor declaring index => do
    let info ← reg.info declaring
    match info.constructors[index]? with
    | none => throw (.ambiguousOperation (.noSuchMember info.name "constructor" index))
    | some ctor => return .declared (.ofParams reg ctor.params) ctor.body
  | other => .error (.ambiguousOperation (.wrongMember other "a constructor"))

/-- The length that a value gives for a new array. -/
def lengthOf (w : World) (v : Value) : Except InvokeError Nat :=
  match w.content v with
  | .int32 n => natural n.toInt
  | .int64 n => natural n.toInt
  | other => .error (.wrongType "Int32" (w.describe other))
where
  /-- A length that is not negative. -/
  natural (n : Int) : Except InvokeError Nat :=
    if n < 0 then .error (.negativeLength n) else .ok n.toNat

/-- Creates an instance. -/
def run (creator : Creator) (args : List Value) (w : World) :
    (Except InvokeError Value × List Value) × World :=
  match creator with
  | zero content =>
    if args.isEmpty then ((.ok content, args), w)
    else ((.error (.argumentCount 0 args.length), args), w)
  | allocation element =>
    match args with
    | [length] =>
      match lengthOf w length with
      | .error e => ((.error e, args), w)
      | .ok n =>
        let (array, w) := w.newArray element (List.replicate n (w.registry.zeroOf element))
        ((.ok array, args), w)
    | _ => ((.error (.argumentCount 1 args.length), args), w)
  | declared arguments body => arguments.call args w fun locals w => (body locals).run w

end Creator

namespace World

/-- The array of a given type that a value stands for. -/
def arrayOf (w : World) (target : Value) (arrayType : TypeHandle) : Except InvokeError ArrayRef :=
  match w.content target with
  | .array array =>
    if array.type = arrayType then .ok array
    else .error (.wrongType (w.registry.nameOf arrayType) (w.registry.nameOf array.type))
  | .null => .error (.nullArray (w.registry.nameOf arrayType))
  | other => .error (.wrongType (w.registry.nameOf arrayType) (w.describe other))

/-- Reads an element of an array. -/
def getItem (w : World) (array : ArrayRef) (index : Nat) : Except InvokeError Value :=
  match (w.items array)[index]? with
  | some v => .ok v
  | none => .error (.indexOutOfRange index (w.items array).length)

/-- Writes an element of an array. -/
def setItem (w : World) (array : ArrayRef) (index : Nat) (v : Value) : Except InvokeError World :=
  if index < (w.items array).length then .ok (w.setItems array ((w.items array).set index v))
  else .error (.indexOutOfRange index (w.items array).length)

end World

/-- How elements of an array type are read. -/
structure ElementReader where
  array : TypeHandle

/-- How elements of an array type are written. -/
structure ElementWriter where
  array : TypeHandle
  element : TypeHandle

/-- Reads an element of an array. -/
def ElementReader.run (reader : ElementReader) (target : Value) (index : Nat) (w : World) :
    Except InvokeError Value := do
  let array ← w.arrayOf target reader.array
  w.getItem array index

/-- Writes an element of an array; the value is converted first. -/
def ElementWriter.run (writer : ElementWriter) (target : Value) (index : Nat) (v : Value)
    (w : World) : Except InvokeError World := do
  -- The value is converted before the target is looked at, so its failure goes first.
  let v ← w.cast v writer.element
  let array ← w.arrayOf target writer.array
  w.setItem array index v

/-- An action that is ready to run, with the resolved signature that it was made from. -/
structure Prepared (β : Type) where
  signature : Signature
  action : β

/-- A prepared accessor for one member. -/
inductive Accessor
  | getter (prepared : Prepared Reader)
  | setter (prepared : Prepared Writer)
  | method (prepared : Prepared CallPlan)
  | constructor (prepared : Prepared Creator)
  | elementGetter (prepared : Prepared ElementReader)
  | elementSetter (prepared : Prepared ElementWriter)

/-- The resolved signature that the accessor was made from. -/
def Accessor.signature : Accessor → Signature
  | getter prepared => prepared.signature
  | setter prepared => prepared.signature
  | method prepared => prepared.signature
  | constructor prepared => prepared.signature
  | elementGetter prepared => prepared.signature
  | elementSetter prepared => prepared.signature

/-- A way to prepare accessors of one form. -/
structure Compiler (β : Type) where
  /-- the direction that a request must have, if that matters -/
  direction : Option Direction
  /-- prepares the action for a resolved member -/
  prepare : Registry → Signature → MemberHandle → Except ReflectError β
  /-- the form of the accessors -/
  facet : Facet Accessor (Prepared β)

namespace Compiler

/-- Reads of fields and properties. -/
def getter : Compiler Reader where
  direction := some .read
  prepare reg _ member := Reader.ofMember reg member
  facet := ⟨.getter, (match · with | .getter a => some a | _ => none), fun _ => rfl⟩

/-- Writes of fields and properties. -/
def setter : Compiler Writer where
  direction := some .write
  prepare reg _ member := Writer.ofMember reg member
  facet := ⟨.setter, (match · with | .setter a => some a | _ => none), fun _ => rfl⟩

/-- Calls of methods, accessors of indexers among them. -/
def method : Compiler CallPlan where
  direction := none
  prepare reg sig member :=
    match member with
    | .method ref => CallPlan.ofMethod reg ref sig.typeArgs .store
    | other => .error (.ambiguousOperation (.wrongMember other "a method"))
  facet := ⟨.method, (match · with | .method a => some a | _ => none), fun _ => rfl⟩

/-- Creation of instances. -/
def constructor : Compiler Creator where
  direction := none
  prepare reg _ member := Creator.ofMember reg member
  facet := ⟨.constructor, (match · with | .constructor a => some a | _ => none), fun _ => rfl⟩

/-- Reads of array elements. -/
def elementGetter : Compiler ElementReader where
  direction := some .read
  prepare _ sig member :=
    match member with
    | .element _ => .ok ⟨sig.target⟩
    | other => .error (.ambiguousOperation (.wrongMember other "an array element"))
  facet := ⟨.elementGetter, (match · with | .elementGetter a => some a | _ => none), fun _ => rfl⟩

/-- Writes of array elements. -/
def elementSetter : Compiler ElementWriter where
  direction := some .write
  prepare _ sig member :=
    match member with
    | .element element => .ok ⟨sig.target, element⟩
    | other => .error (.ambiguousOperation (.wrongMember other "an array element"))
  facet := ⟨.elementSetter, (match · with | .elementSetter a => some a | _ => none), fun _ => rfl⟩

variable {β : Type}

/-- Whether a request has the direction that the compiler needs. -/
def checkDirection (compiler : Compiler β) (sig : Signature) : Except ReflectError Unit :=
  match compiler.direction with
  | some wanted =>
    if sig.direction = wanted then .ok ()
    else .error (.ambiguousOperation (.direction sig.direction wanted))
  | none => .ok ()

/-- Resolves a request and prepares its accessor. The second part counts the resolution. -/
def compile (compiler : Compiler β) (reg : Registry) (sig : Signature) :
    Except ReflectError (Prepared β) × Nat :=
  match compiler.checkDirection sig with
  | .error e => (.error e, 0)
  | .ok _ =>
    match Resolver.resolve reg sig with
    | .error e => (.error e, 0)
    | .ok found =>
      let sig := sig.withResolution found
      ((compiler.prepare reg sig found.member).map (⟨sig, ·⟩), 1)

/-- An accessor asks for the same as the request that it was prepared for. -/
theorem compile_signature (compiler : Compiler β) (reg : Registry) (sig : Signature)
    (accessor : Prepared β) (n : Nat) (h : compiler.compile reg sig = (.ok accessor, n)) :
    sig.same accessor.signature = true := by
  unfold compile at h
  split at h
  · simp at h
  · split at h
    · simp at h
    · next found _ =>
      cases hp : compiler.prepare reg (sig.withResolution found) found.member with
      | error e => simp [hp, Except.map] at h
      | ok action =>
        simp only [hp, Except.map, Prod.mk.injEq, Except.ok.injEq] at h
        rw [← h.1]
        exact sig.same_withResolution found

end Compiler

end Introspect
