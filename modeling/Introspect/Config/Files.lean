import Introspect.Config
import Introspect.Config.Path

/-!
# `Introspect.Config.Files`: settings in files

A `FileTree` holds directories and files by their places, which are lists of names. A path is
followed from the home directory, and every step starts from a directory that is there. Settings are
loaded from a file, which is written with the usual settings when nothing is there, and saved to a
file, for which missing directories are made first.

`read_write` says that a file holds what was written last.
-/

set_option autoImplicit false

namespace Introspect

/-- Directories and files. -/
structure FileTree where
  directories : List (List String)
  files : List (List String × String)

namespace FileTree

/-- The directory that paths start from. -/
def home : List String := ["home"]

/-- Nothing but the home directory. -/
def empty : FileTree := ⟨[home], []⟩

/-- Whether a place is that of a directory. The root directory is always there. -/
def isDirectory (tree : FileTree) (place : List String) : Bool :=
  place.isEmpty || tree.directories.contains place

/-- The most bytes that a name can have. -/
def maxName : Nat := 255

/-- Where a step from a directory leads. There need not be anything yet. -/
def next? (tree : FileTree) (place : List String) : PathStep → Option (List String)
  | .up => if tree.isDirectory place then some place.dropLast else none
  | .down name =>
    if tree.isDirectory place && name.utf8ByteSize ≤ maxName then some (place ++ [name]) else none

/-- Where a path leads. -/
def locate? (tree : FileTree) (path : Path) : Option (List String) := do
  guard (path.steps.all PathStep.isProper)
  let place ← path.steps.foldlM tree.next? home
  if path.isDirectory && !tree.isDirectory place then none else some place

/-- The text of a file. -/
def read? (tree : FileTree) (path : Path) : Option String := do
  tree.files.lookup (← tree.locate? path)

/-- Whether there is anything where a path leads. -/
def exists? (tree : FileTree) (path : Path) : Bool :=
  (tree.locate? path).any fun place =>
    tree.isDirectory place || (tree.files.lookup place).isSome

/-- Writes a file. Its directory must be there, and no directory may be in its place. -/
def write? (tree : FileTree) (path : Path) (text : String) : Option FileTree := do
  let place ← tree.locate? path
  if tree.isDirectory place then none
  else some { tree with files := (place, text) :: tree.files.filter (·.1 != place) }

/-- Makes the directories that steps lead through, and says whether all of them are there now. No
file may be in the place of one. -/
def makeDirectories (tree : FileTree) (place : List String) : List PathStep → Bool × FileTree
  | [] => (true, tree)
  | step :: rest =>
    match tree.next? place step with
    | none => (false, tree)
    | some next =>
      if (tree.files.lookup next).isSome then (false, tree)
      else if tree.isDirectory next then makeDirectories tree next rest
      else makeDirectories { tree with directories := next :: tree.directories } next rest

/-- Makes the directories that lead to what a path means. What was made stays if one of them cannot
be made. -/
def makeWay (tree : FileTree) (path : Path) : Bool × FileTree :=
  -- A step that cannot be taken anywhere is seen before the first directory is made.
  if path.leading.all PathStep.isProper then tree.makeDirectories home path.leading
  else (false, tree)

/-- A file holds what was written last. -/
theorem read_write (tree after : FileTree) (path : Path) (text : String)
    (h : tree.write? path text = some after) : after.read? path = some text := by
  simp only [write?, Option.bind_eq_bind, Option.bind_eq_some_iff] at h
  obtain ⟨place, hplace, h⟩ := h
  split at h
  · simp at h
  · simp only [Option.some.injEq] at h
    subst h
    -- Files do not change where a path leads.
    have hplace : { tree with files := (place, text) :: tree.files.filter (·.1 != place) }.locate?
        path = some place := hplace
    simp [read?, hplace]

end FileTree

namespace Config

/-- Writes settings to a file. -/
def save (config : Config) (path : Path) (tree : FileTree) :
    Except ConfigError Unit × FileTree :=
  -- Directories are made first, and stay when the settings cannot be written.
  match tree.makeWay path with
  | (false, tree) => (.error .file, tree)
  | (true, tree) =>
    match config.render with
    | .error e => (.error e, tree)
    | .ok text =>
      match tree.write? path text with
      | none => (.error .file, tree)
      | some tree => (.ok (), tree)

/-- Reads settings from a file that must be there. -/
def reload (path : Path) (tree : FileTree) : Except ConfigError Config :=
  match tree.read? path with
  | none => .error .file
  | some text => parse text

/-- Reads settings from a file. When nothing is there, the usual settings are written to it. -/
def load (path : Path) (tree : FileTree) : Except ConfigError Config × FileTree :=
  if tree.exists? path then (reload path tree, tree)
  else
    let (result, tree) := save standard path tree
    (result.map fun _ => standard, tree)

end Config

/-- Files, and the settings that are in force. -/
structure SettingsStore where
  tree : FileTree
  current : Config

namespace SettingsStore

/-- No files, and the usual settings. -/
def standard : SettingsStore := ⟨.empty, .standard⟩

/-- Puts settings into force, if they could be read. -/
def adopt (store : SettingsStore) (result : Except ConfigError Config) :
    Except ConfigError Config × SettingsStore :=
  (result, { store with current := result.toOption.getD store.current })

/-- Loads settings and puts them into force. -/
def load (store : SettingsStore) (path : Path) :
    Except ConfigError Config × SettingsStore :=
  let (result, tree) := Config.load path store.tree
  { store with tree }.adopt result

/-- Reads settings again and puts them into force. -/
def reload (store : SettingsStore) (path : Path) :
    Except ConfigError Config × SettingsStore :=
  store.adopt (Config.reload path store.tree)

/-- Saves settings without putting them into force. -/
def save (store : SettingsStore) (path : Path) (config : Config) :
    Except ConfigError Unit × SettingsStore :=
  let (result, tree) := config.save path store.tree
  (result, { store with tree })

/-- Writes a file, and says whether that was possible. -/
def write (store : SettingsStore) (path : Path) (text : String) : Bool × SettingsStore :=
  match store.tree.write? path text with
  | some tree => (true, { store with tree })
  | none => (false, store)

/-- Settings that cannot be read leave those in force as they are. -/
theorem adopt_error (store : SettingsStore) (e : ConfigError) :
    (store.adopt (.error e)).2 = store := rfl

end SettingsStore

end Introspect
