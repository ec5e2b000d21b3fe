import Introspect.Decimal.Integer

/-!
# `Introspect.InvokeError`: failures while an accessor or member code runs

One constructor for each cause. `kind` sorts the causes into the nine kinds that callers tell apart,
and `message` is the text of a failure.
-/

set_option autoImplicit false

namespace Introspect

/-- How a lock on an object is held. -/
inductive Hold
  | shared
  | exclusive
  deriving DecidableEq

namespace Hold

/-- The access that a hold allows. -/
def verb : Hold → String
  | .shared => "read"
  | .exclusive => "write"

end Hold

/-- Drops the zeros at the end of a list of digits. -/
def dropTrailingZeros (digits : List Char) : List Char :=
  (digits.reverse.dropWhile (· == '0')).reverse

/-- `count` in steps of `unit`, with the rest as decimal places and no zeros at the end. -/
def inUnits (count unit : Nat) (places : Nat) (label : String) : String :=
  let fraction := Nat.toDigits 10 (count % unit)
  let padded := List.replicate (places - fraction.length) '0' ++ fraction
  let shown := if count % unit = 0 then [] else '.' :: dropTrailingZeros padded
  Decimal.ofInt (count / unit) ++ String.ofList shown ++ label

/-- The text of a duration in microseconds, in the largest unit that it reaches. -/
def durationText (micros : Nat) : String :=
  if 1000000 ≤ micros then inUnits micros 1000000 6 "s"
  else if 1000 ≤ micros then inUnits micros 1000 3 "ms"
  else if 1 ≤ micros then inUnits micros 1 0 "µs"
  else "0ns"

/-- Why a call failed. -/
inductive InvokeError
  /-- the value has another type -/
  | wrongType (expected found : String)
  /-- null where a value type is required -/
  | nullToValueType (type : String)
  /-- null where a text is required -/
  | nullText
  /-- an instance member without a target -/
  | missingTarget (type : String)
  /-- an instance method called without a receiver -/
  | missingReceiver (method : String)
  /-- element access on null -/
  | nullArray (type : String)
  /-- null as the sample of a new instance -/
  | nullSample
  /-- null where a runtime type is needed -/
  | nullSubject
  /-- null rejected by member code -/
  | nullArgument (reason : String)
  /-- an index outside the range -/
  | indexOutOfRange (index length : Nat)
  /-- the number of arguments does not fit -/
  | argumentCount (expected received : Nat)
  /-- the target's type is not derived from the declaring type -/
  | notAnInstance (actual declaring : String)
  /-- the target is a value without members -/
  | noMembers (found declaring : String)
  /-- the target is a cell holding a value without members -/
  | cellWithoutMembers (found declaring : String)
  /-- a boxed value type cannot be modified in place -/
  | unwritableTarget (type : String)
  /-- the storage was made for another native type -/
  | foreignInstance (native : String)
  /-- member code that modifies its receiver got a read-only one -/
  | readOnlyReceiver (native : String)
  /-- an array cannot have a negative length -/
  | negativeLength (length : Int)
  /-- a number that no member of the enumeration has -/
  | unknownMember (value : Int) (type : String)
  /-- an argument rejected by member code -/
  | rejected (reason : String)
  /-- this thread already holds the object's lock in a conflicting mode -/
  | reentrant (type : String) (held : Hold)
  /-- another thread held the object's lock for longer than the limit, if there is one -/
  | lockTimeout (type : String) (wanted : Hold) (limit : Option Nat)
  /-- raised by member code itself -/
  | thrown (text : String)
  deriving DecidableEq

namespace InvokeError

/-- The kinds of failure that callers tell apart. -/
inductive Kind
  | invalidCast
  | nullReference
  | indexOutOfRange
  | argumentCount
  | targetMismatch
  | invalidArgument
  | reentrant
  | lockTimeout
  | thrown
  deriving DecidableEq

/-- The kind of a failure. -/
def kind : InvokeError → Kind
  | wrongType .. => .invalidCast
  | nullToValueType _ | nullText | missingTarget _ | missingReceiver _ | nullArray _ | nullSample
  | nullSubject | nullArgument _ => .nullReference
  | indexOutOfRange .. => .indexOutOfRange
  | argumentCount .. => .argumentCount
  | notAnInstance .. | noMembers .. | cellWithoutMembers .. | unwritableTarget _ | foreignInstance _
  | readOnlyReceiver _ => .targetMismatch
  | negativeLength _ | unknownMember .. | rejected _ => .invalidArgument
  | reentrant .. => .reentrant
  | lockTimeout .. => .lockTimeout
  | thrown _ => .thrown

/-- What a failure says about its cause, without its kind. -/
def detail : InvokeError → String
  | wrongType expected found => "expected " ++ expected ++ ", found " ++ found
  | nullToValueType type => "null cannot be converted to value type " ++ type
  | nullText => "null cannot be read as a String"
  | missingTarget type => "instance member of " ++ type ++ " needs a target"
  | missingReceiver method => "instance method " ++ method ++ " invoked without a target"
  | nullArray type => "element access on a null " ++ type
  | nullSample => "sample is null"
  | nullSubject => "reflection target is null"
  | nullArgument reason => reason
  | indexOutOfRange index length =>
    "Index " ++ toString index ++ " is out of range for length " ++ toString length
  | argumentCount expected received =>
    "Expected " ++ toString expected ++ " arguments, received " ++ toString received
  | notAnInstance actual declaring => actual ++ " is not an instance of " ++ declaring
  | noMembers found declaring => found ++ " has no members of " ++ declaring
  | cellWithoutMembers found declaring =>
    "cell holding " ++ found ++ " has no members of " ++ declaring
  | unwritableTarget type =>
    "value-type instance of " ++ type ++ " must be passed in a ValueCell to be modified"
  | foreignInstance expected => "expected an instance of " ++ expected
  | readOnlyReceiver native => native ++ " needs a mutable instance"
  | negativeLength length => "array length " ++ Decimal.ofInt length ++ " is negative"
  | unknownMember value type => Decimal.ofInt value ++ " is not a member of " ++ type
  | rejected reason => reason
  | reentrant type held =>
    type ++ " instance is already locked for " ++ held.verb ++ " by this thread"
  | lockTimeout type wanted limit =>
    type ++ " instance not available for " ++ wanted.verb ++
      (match limit with
        | some micros => " within " ++ durationText micros
        | none => "")
  | thrown text => text

/-- The text of a failure. -/
def message (e : InvokeError) : String :=
  match e.kind with
  | .invalidCast => "Invalid cast: " ++ e.detail
  | .nullReference => "Null reference: " ++ e.detail
  | .indexOutOfRange | .argumentCount | .thrown => e.detail
  | .targetMismatch => "Target mismatch: " ++ e.detail
  | .invalidArgument => "Invalid argument: " ++ e.detail
  | .reentrant => "Re-entrant access: " ++ e.detail
  | .lockTimeout => "Lock timeout: " ++ e.detail

end InvokeError

end Introspect
