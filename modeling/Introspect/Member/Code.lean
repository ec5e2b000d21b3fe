import Introspect.InvokeError
import Introspect.Value

/-!
# `Introspect.Member.Code`: member code as data

A body does not run by itself: it is a tree of requests to its surroundings, each with what to do on
the answer. Whoever runs it decides what the requests mean, so a body can be stored in a type
descriptor, and a statement about all bodies is a statement about all trees.

`Code.IsLocal` singles out the bodies that only compute: they may ask for names, types and
conversions, but neither touch other objects nor static storage. `isLocal_bind` says that putting
two such bodies after one another gives such a body.

`MemberM` is the monad in which bodies are written: failures keep the changes made before them, to
the receiver's view and to the argument locals alike.
-/

set_option autoImplicit false

namespace Introspect

/-- A computation that may ask its surroundings for something at each step. -/
inductive Code (α : Type) : Type
  /-- the result -/
  | done (result : α)
  /-- the registered name of a type -/
  | nameOf (type : TypeHandle) (next : String → Code α)
  /-- the name of a value's runtime type, or `null` -/
  | describe (v : Value) (next : String → Code α)
  /-- the default value of a type -/
  | zeroOf (type : TypeHandle) (next : Value → Code α)
  /-- a checked conversion -/
  | cast (v : Value) (type : TypeHandle) (next : Except InvokeError Value → Code α)
  /-- the slot content that a value stands for -/
  | unbox (native : NativeType) (v : Value) (next : Except InvokeError Datum → Code α)
  /-- the value that a slot content stands for -/
  | box (native : NativeType) (content : Datum) (next : Value → Code α)
  /-- a new object -/
  | create (type : TypeHandle) (data : Instance) (next : Value → Code α)
  /-- a static variable -/
  | load (key : String) (next : Value → Code α)
  /-- a new content for a static variable -/
  | store (key : String) (content : Value) (next : Code α)
  /-- the part of an object that belongs to a type, under a shared lock -/
  | inspect (target : ObjectRef) (type : TypeHandle) (native : String)
      (next : Except InvokeError Instance → Code α)
  /-- a change to the part of an object that belongs to a type, under an exclusive lock -/
  | update (target : ObjectRef) (type : TypeHandle) (native : String)
      (change : Instance → Instance) (next : Except InvokeError Unit → Code α)

namespace Code

/-- One computation after another. -/
def bind {α β : Type} : Code α → (α → Code β) → Code β
  | done a, f => f a
  | nameOf t next, f => nameOf t fun r => (next r).bind f
  | describe v next, f => describe v fun r => (next r).bind f
  | zeroOf t next, f => zeroOf t fun r => (next r).bind f
  | cast v t next, f => cast v t fun r => (next r).bind f
  | unbox n v next, f => unbox n v fun r => (next r).bind f
  | box n d next, f => box n d fun r => (next r).bind f
  | create t d next, f => create t d fun r => (next r).bind f
  | load x next, f => load x fun r => (next r).bind f
  | store x v next, f => store x v (next.bind f)
  | inspect o t n next, f => inspect o t n fun r => (next r).bind f
  | update o t n c next, f => update o t n c fun r => (next r).bind f

instance : Monad Code where
  pure := done
  bind := bind

/-- Only names, types and conversions are asked for: no object, no static variable. -/
inductive IsLocal {α : Type} : Code α → Prop
  | done (a : α) : IsLocal (done a)
  | nameOf (t : TypeHandle) {next : String → Code α} :
      (∀ r, IsLocal (next r)) → IsLocal (nameOf t next)
  | describe (v : Value) {next : String → Code α} :
      (∀ r, IsLocal (next r)) → IsLocal (describe v next)
  | zeroOf (t : TypeHandle) {next : Value → Code α} :
      (∀ r, IsLocal (next r)) → IsLocal (zeroOf t next)
  | cast (v : Value) (t : TypeHandle) {next : Except InvokeError Value → Code α} :
      (∀ r, IsLocal (next r)) → IsLocal (cast v t next)
  | unbox (n : NativeType) (v : Value) {next : Except InvokeError Datum → Code α} :
      (∀ r, IsLocal (next r)) → IsLocal (unbox n v next)
  | box (n : NativeType) (d : Datum) {next : Value → Code α} :
      (∀ r, IsLocal (next r)) → IsLocal (box n d next)

/-- Two local computations after one another are local. -/
theorem isLocal_bind {α β : Type} {code : Code α} {f : α → Code β} (h : code.IsLocal)
    (hf : ∀ a, (f a).IsLocal) : (code.bind f).IsLocal := by
  induction h with
  | done a => exact hf a
  | nameOf t _ ih => exact .nameOf t ih
  | describe v _ ih => exact .describe v ih
  | zeroOf t _ ih => exact .zeroOf t ih
  | cast v t _ ih => exact .cast v t ih
  | unbox n v _ ih => exact .unbox n v ih
  | box n d _ ih => exact .box n d ih

end Code

/-- What a body works on: the view of its receiver, its argument locals and its type arguments. -/
structure Frame where
  view : Instance
  args : List Value
  typeArgs : List TypeHandle

/-- The monad of member code. A failure keeps the changes made to the frame before it. -/
abbrev MemberM (α : Type) : Type := ExceptT InvokeError (StateT Frame Code) α

namespace MemberM

/-- Asks the surroundings. -/
def ask {α : Type} (request : Code α) : MemberM α :=
  ExceptT.lift (StateT.lift request)

/-- Asks the surroundings for something that may fail. -/
def attempt {α : Type} (request : Code (Except InvokeError α)) : MemberM α :=
  ExceptT.mk (StateT.lift request)

/-- The registered name of a type. -/
def nameOf (type : TypeHandle) : MemberM String := ask (.nameOf type .done)

/-- The name of a value's runtime type, or `null`. -/
def describe (v : Value) : MemberM String := ask (.describe v .done)

/-- The default value of a type. -/
def zeroOf (type : TypeHandle) : MemberM Value := ask (.zeroOf type .done)

/-- A checked conversion. -/
def cast (v : Value) (type : TypeHandle) : MemberM Value := attempt (.cast v type .done)

/-- The slot content that a value stands for. -/
def unbox (native : NativeType) (v : Value) : MemberM Datum := attempt (.unbox native v .done)

/-- The value that a slot content stands for. -/
def box (native : NativeType) (content : Datum) : MemberM Value := ask (.box native content .done)

/-- A new object. -/
def create (type : TypeHandle) (data : Instance) : MemberM Value := ask (.create type data .done)

/-- A static variable. -/
def load (key : String) : MemberM Value := ask (.load key .done)

/-- Writes a static variable. -/
def store (key : String) (content : Value) : MemberM Unit :=
  ask (.store key content (.done ()))

/-- Reads the part of an object that belongs to a type. -/
def inspect (target : ObjectRef) (type : TypeHandle) (native : String) : MemberM Instance :=
  attempt (.inspect target type native .done)

/-- Changes the part of an object that belongs to a type. -/
def update (target : ObjectRef) (type : TypeHandle) (native : String)
    (change : Instance → Instance) : MemberM Unit :=
  attempt (.update target type native change .done)

/-- Argument `index`, which must be there. -/
def arg (index : Nat) : MemberM Value := do
  let frame ← get
  match frame.args[index]? with
  | some v => pure v
  | none => throw (.argumentCount (index + 1) frame.args.length)

/-- Replaces argument local `index`. -/
def setArg (index : Nat) (v : Value) : MemberM Unit :=
  modify fun frame => { frame with args := frame.args.set index v }

/-- A slot of the receiver. -/
def slot (name : String) : MemberM Datum := do
  return (← get).view.get name

/-- Replaces a slot of the receiver. -/
def setSlot (name : String) (content : Datum) : MemberM Unit :=
  modify fun frame => { frame with view := frame.view.set name content }

end MemberM

end Introspect
