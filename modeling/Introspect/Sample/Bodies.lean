import Introspect.Accessor.Adapter
import Introspect.Accessor.Arguments
import Introspect.Member.Typed
import Introspect.Sample.Storage

/-!
# `Introspect.Sample.Bodies`: bodies for the instance adapter and for argument plans

Some sample types have one number that stands for an instance: the age of a person, the amount of
money. These bodies read it and add to it, and fail for instances of any other type. A body for
argument plans stores values into locals.
-/

set_option autoImplicit false

namespace Introspect.Sample

/-- The slot of the number that stands for an instance. -/
def numberSlot : String → Option String
  | "Point" => some "x"
  | "Person" => some "age"
  | "Animal" => some "legs"
  | "Money" => some "amount"
  | _ => none

/-- The failure for an instance without a number. -/
def noNumber : InvokeError := .thrown "no number"

/-- Reads the number of an instance. -/
def readNumber : World.SharedBody Value := fun view w =>
  match numberSlot view.native with
  | some slot => (.ok (view.get slot).asValue, w)
  | none => (.error noNumber, w)

/-- A content with a number added to it, in its own width. -/
def added (amount : Int) : Datum → Datum
  | .value (.int64 n) => .ofInt64 (n + Int64.ofInt amount)
  | content => .ofInt32 (content.asInt32 + Int32.ofInt amount)

/-- Adds to the number of an instance, and then fails if a text to fail with is given. -/
def addNumber (amount : Int) (failure : Option String) : World.ExclusiveBody Unit := fun view w =>
  match numberSlot view.native with
  | none => ((.error noNumber, view), w)
  | some slot =>
    let view := view.set slot (added amount (view.get slot))
    match failure with
    | some text => ((.error (.thrown text), view), w)
    | none => ((.ok (), view), w)

/-- Stores values into locals by position, and then fails if a text to fail with is given. -/
def assignLocals (assigned : List (Nat × Value)) (failure : Option String) :
    LocalsBody Value := fun locals w =>
  let locals := assigned.foldl (fun locals (index, v) => locals.set index v) locals
  match failure with
  | some text => ((.error (.thrown text), locals), w)
  | none => ((.ok .null, locals), w)

/-- A person one year later. -/
def older (person : Instance) : Instance :=
  person.set "age" (.ofInt32 ((person.get "age").asInt32 + 1))

end Introspect.Sample
