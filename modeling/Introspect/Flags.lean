import Introspect.Text.Blank
import Introspect.Text.Lowercase

/-!
# `Introspect.Flags`: the rules that select members

A `Flags` value is a set of rules: how names are compared, which visibility and storage a member may
have, whether inherited members count, whether parameter types must match exactly.

`namesEqual` compares names; texts of ASCII letters only take a short cut. `matchesName` and
`matchesBinding` decide whether a member is selected.
-/

set_option autoImplicit false

namespace Introspect

/-- Member accessibility as seen by the flags. -/
inductive Visibility
  | isPublic
  | nonPublic
  deriving DecidableEq

/-- A set of selection rules, one bit each. -/
structure Flags where
  bits : UInt64
  deriving DecidableEq

namespace Flags

/-- The rule with the given bit. -/
def ofBit (n : UInt64) : Flags := ⟨1 <<< n⟩

/-- Both sets of rules together. -/
def union (a b : Flags) : Flags := ⟨a.bits ||| b.bits⟩

/-- The rules of `a` that are not in `b`. -/
def without (a b : Flags) : Flags := ⟨a.bits &&& ~~~b.bits⟩

instance : Union Flags := ⟨union⟩
instance : SDiff Flags := ⟨without⟩

/-- Whether every rule of `b` is in `a`. -/
def contains (a b : Flags) : Bool := a.bits &&& b.bits == b.bits

/-- No rule. -/
def empty : Flags := ⟨0⟩
/-- Names are compared without regard to case. -/
def ignoreCase : Flags := ofBit 0
/-- Only members declared on the type itself. -/
def declaredOnly : Flags := ofBit 1
/-- Instance members. -/
def instanceMembers : Flags := ofBit 2
/-- Static members. -/
def staticMembers : Flags := ofBit 3
/-- Public members. -/
def publicMembers : Flags := ofBit 4
/-- Members that are not public. -/
def nonPublicMembers : Flags := ofBit 5
/-- Parameter types must match exactly. -/
def exactBinding : Flags := ofBit 16
/-- A member matches when its name contains the requested name. -/
def partialNameMatch : Flags := ofBit 32
/-- Queries leave out backing fields and property accessors. -/
def excludeBackingMembers : Flags := ofBit 35

/-- Members of any visibility. -/
def anyVisibility : Flags := publicMembers ∪ nonPublicMembers
/-- Public instance members. -/
def instancePublic : Flags := instanceMembers ∪ publicMembers
/-- Instance members of any visibility. -/
def instanceAnyVisibility : Flags := instanceMembers ∪ anyVisibility
/-- Public static members. -/
def staticPublic : Flags := staticMembers ∪ publicMembers
/-- Static members of any visibility. -/
def staticAnyVisibility : Flags := staticMembers ∪ anyVisibility
/-- Static and instance members of any visibility. -/
def staticInstanceAnyVisibility : Flags := staticMembers ∪ instanceMembers ∪ anyVisibility

/-- The rules of requests that give none. -/
def standard : Flags := instanceAnyVisibility

/-- The names under which rules are asked for. -/
def constants : List (String × Flags) := [
  ("IGNORE_CASE", ignoreCase), ("DECLARED_ONLY", declaredOnly), ("INSTANCE", instanceMembers),
  ("STATIC", staticMembers), ("PUBLIC", publicMembers), ("NON_PUBLIC", nonPublicMembers),
  ("EXACT_BINDING", exactBinding), ("PARTIAL_NAME_MATCH", partialNameMatch),
  ("EXCLUDE_BACKING_MEMBERS", excludeBackingMembers), ("ANY_VISIBILITY", anyVisibility),
  ("INSTANCE_PUBLIC", instancePublic), ("INSTANCE_ANY_VISIBILITY", instanceAnyVisibility),
  ("STATIC_PUBLIC", staticPublic), ("STATIC_ANY_VISIBILITY", staticAnyVisibility),
  ("STATIC_INSTANCE_ANY_VISIBILITY", staticInstanceAnyVisibility)]

/-- The rules with a constant's name; blanks around it do not count. -/
def ofName? (name : String) : Option Flags :=
  constants.lookup (Text.trim name)

/-- The single rules in the order they are shown. -/
def labels : List (Flags × String) := [
  (declaredOnly, "DeclaredOnly"), (exactBinding, "ExactBinding"),
  (excludeBackingMembers, "ExcludeBackingMembers"), (ignoreCase, "IgnoreCase"),
  (instanceMembers, "Instance"), (nonPublicMembers, "NonPublic"),
  (partialNameMatch, "PartialNameMatch"), (publicMembers, "Public"), (staticMembers, "Static")]

/-- The rules by name, sorted. -/
def render (flags : Flags) : String :=
  match labels.filterMap fun (rule, label) => if flags.contains rule then some label else none with
  | [] => "None"
  | names => " | ".intercalate names

/-- Whether a member of this visibility and storage is selected. -/
def matchesBinding (flags : Flags) (visibility : Visibility) (isStatic : Bool) : Bool :=
  (match visibility with
    | .isPublic => flags.contains publicMembers
    | .nonPublic => flags.contains nonPublicMembers) &&
  (if isStatic then flags.contains staticMembers else flags.contains instanceMembers)

end Flags

/-- Whether every character is ASCII. -/
def isAscii (s : String) : Bool :=
  s.toList.all fun c => c.toNat < 128

/-- Whether two ASCII texts agree up to case. -/
def asciiEqual (a b : String) : Bool :=
  a.toList.map Char.toLower == b.toList.map Char.toLower

/-- Whether two names are equal, on request up to case. -/
def namesEqual (a b : String) (ignoreCase : Bool) : Bool :=
  if !ignoreCase then a == b
  else if isAscii a && isAscii b then asciiEqual a b
  else Text.lowercase a == Text.lowercase b

/-- Whether `member` matches the requested `name`. -/
def Flags.matchesName (flags : Flags) (member name : String) : Bool :=
  let ignoreCase := flags.contains ignoreCase
  if flags.contains partialNameMatch then
    if ignoreCase then Text.contains (Text.lowercase member) (Text.lowercase name)
    else Text.contains member name
  else namesEqual member name ignoreCase

/-- The kinds of data members that a mapping considers. -/
structure DataKinds where
  fields : Bool
  properties : Bool
  deriving DecidableEq

namespace DataKinds

/-- Fields and properties. -/
def all : DataKinds := ⟨true, true⟩
/-- Fields only. -/
def onlyFields : DataKinds := ⟨true, false⟩
/-- Properties only. -/
def onlyProperties : DataKinds := ⟨false, true⟩

/-- The set as a byte. -/
def toByte (kinds : DataKinds) : UInt8 :=
  (if kinds.fields then 1 else 0) + (if kinds.properties then 2 else 0)

end DataKinds

/-- Without ignoring case, names are equal exactly as texts. -/
theorem namesEqual_false (a b : String) : namesEqual a b false = true ↔ a = b := by
  simp [namesEqual]

end Introspect
