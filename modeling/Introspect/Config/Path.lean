/-!
# `Introspect.Config.Path`: ways to files

A path leads from the home directory to a file or directory, step by step: down to something by its
name, or up to the directory that holds the present one. Slashes separate the steps. An empty part
and a single dot are no steps; at the end they say that the path leads to a directory.

`ofParts_name` says that a plain name is one step down.
-/

set_option autoImplicit false

namespace Introspect

/-- One step of a path. -/
inductive PathStep
  /-- to the directory around the present one -/
  | up
  /-- to something in the present directory -/
  | down (name : String)
  deriving DecidableEq

/-- The step that a part of a path stands for, if it is one. -/
def PathStep.ofPart? (part : String) : Option PathStep :=
  if part = "" ∨ part = "." then none
  else if part = ".." then some .up
  else some (.down part)

/-- Whether a step can be taken at all: the zero character ends texts, so no name holds it. -/
def PathStep.isProper : PathStep → Bool
  | .up => true
  | .down name => !name.toList.contains '\x00'

/-- A way from the home directory. -/
structure Path where
  steps : List PathStep
  /-- only a directory can be meant -/
  isDirectory : Bool
  deriving DecidableEq

namespace Path

/-- The path with these parts. -/
def ofParts (parts : List String) : Path where
  steps := parts.filterMap PathStep.ofPart?
  isDirectory := parts.getLast? = some "" ∨ parts.getLast? = some "."

/-- The path that is written with slashes between its parts. -/
def parse (text : String) : Path := ofParts (text.splitOn "/")

/-- The steps to the directory that holds what the path leads to. -/
def leading (path : Path) : List PathStep := path.steps.dropLast

/-- A plain name is one step down. -/
theorem ofParts_name (name : String) (hEmpty : name ≠ "") (hDot : name ≠ ".")
    (hUp : name ≠ "..") : ofParts [name] = ⟨[.down name], false⟩ := by
  simp [ofParts, PathStep.ofPart?, hEmpty, hDot, hUp]

end Path

end Introspect
