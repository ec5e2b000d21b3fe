import Introspect.Outline
import Introspect.ReflectError

/-!
# `Introspect.Outline.Failure`: outlines of failures

A failure is a record of the name of its kind and its text. Some texts name a handle or a native
type, which mean nothing outside of one run; those are left out.
-/

set_option autoImplicit false

namespace Introspect

/-- The name of a kind of failure. -/
def InvokeError.Kind.label : InvokeError.Kind → String
  | .invalidCast => "InvalidCast"
  | .nullReference => "NullReference"
  | .indexOutOfRange => "IndexOutOfRange"
  | .argumentCount => "ArgumentCount"
  | .targetMismatch => "TargetMismatch"
  | .invalidArgument => "InvalidArgument"
  | .reentrant => "Reentrant"
  | .lockTimeout => "LockTimeout"
  | .thrown => "Thrown"

namespace ReflectError

/-- The name of the kind of a failure. A call that fails has the kind of its cause. -/
def label : ReflectError → String
  | .memberNotFound .. => "MemberNotFound"
  | .methodNotFound .. => "MethodNotFound"
  | .constructorNotFound .. => "ConstructorNotFound"
  | .ambiguousOperation _ => "AmbiguousOperation"
  | .invalidShape .. => "InvalidArgumentShape"
  | .ambiguousMapping .. => "AmbiguousMapping"
  | .unknownType _ => "UnknownType"
  | .invoke e => e.kind.label

/-- The text of a failure, unless it names a handle or a native type. -/
def stableMessage? : ReflectError → Option String
  | .ambiguousOperation (.wrongMember ..) => none
  | .invoke (.foreignInstance _) => none
  | .invoke (.readOnlyReceiver _) => none
  | e => some e.message

end ReflectError

instance : Described ReflectError where
  parts p e := p.part "error" e.label :: (e.stableMessage?.map (p.part "message")).toList

end Introspect
