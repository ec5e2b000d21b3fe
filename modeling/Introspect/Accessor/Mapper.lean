import Introspect.Accessor

/-!
# `Introspect.Accessor.Mapper`: copying members from one instance to another

A mapper is prepared once for a pair of types. Every writable member of the target is paired with
the readable member of the source that has the same name and a type that the target member accepts.
A member that would be in two pairs makes the request fail, so what remains is one-to-one.

`run` copies pair after pair and stops at the first failure. `runSteps_append` says that a run over
two lists of steps is a run over the first, followed by one over the second if the first succeeds:
what was copied before a failure stays.
-/

set_option autoImplicit false

namespace Introspect

/-- The names of a source member and the target member it is copied to. -/
structure MappedMember where
  source : String
  target : String
  deriving DecidableEq

/-- One prepared copy. -/
structure MapStep where
  member : MappedMember
  read : Reader
  write : Writer

/-- Copies members from a source to a target. -/
structure ObjectMapper where
  signature : MapSignature
  steps : List MapStep

namespace MapSignature

/-- The rules for comparing names with the list of names to copy. -/
def nameFlags (sig : MapSignature) : Flags :=
  if sig.ignoresCase then sig.flags ∪ Flags.ignoreCase else sig.flags

/-- Whether members of a name are to be copied. -/
def admits (sig : MapSignature) (name : String) : Bool :=
  sig.names.isEmpty || sig.names.any fun wanted => sig.nameFlags.matchesName name wanted

/-- The readable members of the source that are to be copied. -/
def sources (sig : MapSignature) (reg : Registry) : Except ReflectError (List DataMember) := do
  let found ← Resolver.dataMembers reg sig.source sig.sourceKinds sig.flags
  return found.filter fun m => m.read.isSome && sig.admits m.name

/-- The writable members of the target that are to be copied to. -/
def targets (sig : MapSignature) (reg : Registry) : Except ReflectError (List DataMember) := do
  let found ← Resolver.dataMembers reg sig.target sig.targetKinds sig.flags
  return found.filter fun m => m.write.isSome && sig.admits m.name

/-- Whether a source member can be copied to a target member. -/
def isCandidate (sig : MapSignature) (reg : Registry) (source target : DataMember) : Bool :=
  namesEqual source.name target.name sig.ignoresCase && reg.isAssignable target.type source.type

/-- The source member that is copied to a target member, if there is one. -/
def partner (sig : MapSignature) (reg : Registry) (sources : List DataMember)
    (target : DataMember) : Except ReflectError (Option DataMember) :=
  match sources.filter fun source => sig.isCandidate reg source target with
  | [] => .ok none
  | [source] => .ok (some source)
  | candidates =>
    .error (.ambiguousMapping (reg.nameOf sig.target ++ "." ++ target.name)
      (candidates.map (·.name)))

/-- The pairs of source and target members, in the order of the targets. -/
def pair (sig : MapSignature) (reg : Registry) (sources : List DataMember) :
    List DataMember → Except ReflectError (List (DataMember × DataMember))
  | [] => .ok []
  | target :: rest => do
    let source ← sig.partner reg sources target
    let pairs ← pair sig reg sources rest
    return match source with
      | some source => (source, target) :: pairs
      | none => pairs

/-- The names of the target members that a source member is paired with. -/
def fed (pairs : List (DataMember × DataMember)) (source : DataMember) : List String :=
  (pairs.filter fun p => p.1.name == source.name).map (·.2.name)

/-- No source member is paired with two target members. -/
def checkFed (sig : MapSignature) (reg : Registry) (pairs : List (DataMember × DataMember)) :
    Except ReflectError Unit :=
  -- Sources are told apart by name, so a field and a property of one name count together.
  match pairs.find? fun p => 1 < (fed pairs p.1).length with
  | some (source, _) =>
    .error (.ambiguousMapping (reg.nameOf sig.source ++ "." ++ source.name) (fed pairs source))
  | none => .ok ()

/-- Prepares the copy of one pair. -/
def prepareStep (reg : Registry) (source target : DataMember) :
    Except ReflectError (Option MapStep) :=
  match source.read, target.write with
  | some read, some write => do
    return some {
      member := ⟨source.name, target.name⟩
      read := ← Reader.ofMember reg read
      write := ← Writer.ofMember reg write }
  | _, _ => .ok none

/-- Prepares a mapper. -/
def compile (sig : MapSignature) (reg : Registry) : Except ReflectError ObjectMapper := do
  let sources ← sig.sources reg
  let targets ← sig.targets reg
  -- A target with two sources is reported before a source with two targets.
  let pairs ← sig.pair reg sources targets
  sig.checkFed reg pairs
  let steps ← pairs.mapM fun (source, target) => prepareStep reg source target
  return ⟨sig, steps.filterMap id⟩

end MapSignature

namespace ObjectMapper

/-- Copies one member. -/
def runStep (step : MapStep) (source target : Value) (w : World) :
    Except InvokeError Unit × World :=
  match step.read.run source w with
  | (.error e, w) => (.error e, w)
  | (.ok v, w) => step.write.run target v w

/-- Copies members one after another, up to the first failure. -/
def runSteps (source target : Value) : List MapStep → World → Except InvokeError Unit × World
  | [], w => (.ok (), w)
  | step :: rest, w =>
    match runStep step source target w with
    | (.error e, w) => (.error e, w)
    | (.ok _, w) => runSteps source target rest w

/-- Copies every paired member. -/
def run (mapper : ObjectMapper) (source target : Value) (w : World) :
    Except InvokeError Unit × World :=
  runSteps source target mapper.steps w

/-- The paired members. -/
def members (mapper : ObjectMapper) : List MappedMember := mapper.steps.map (·.member)

/-- More steps run where the earlier ones ended, if those succeeded. -/
theorem runSteps_append (source target : Value) (first rest : List MapStep) (w : World) :
    runSteps source target (first ++ rest) w =
      match runSteps source target first w with
      | (.error e, w) => (.error e, w)
      | (.ok _, w) => runSteps source target rest w := by
  induction first generalizing w with
  | nil => rfl
  | cons step first ih =>
    simp only [List.cons_append, runSteps]
    rcases runStep step source target w with ⟨_ | _, after⟩
    · rfl
    · exact ih after

end ObjectMapper

end Introspect
