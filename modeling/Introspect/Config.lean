import Introspect.Cache
import Introspect.Flags
import Introspect.Toml.Document

/-!
# `Introspect.Config`: settings and their written form

Settings are kept in a TOML document. What the document leaves out has its usual value, and what it
has besides the settings is ignored. `parse` reads a document, `render` writes one.

The names of the flags are checked when a document is read. `flags` puts them together;
`flags_nil` says that without names the standard flags apply.
-/

set_option autoImplicit false

namespace Introspect

/-- Why settings could not be read or written. -/
inductive ConfigError
  /-- the file is missing or cannot be used -/
  | file
  /-- the document does not hold settings -/
  | document
  /-- a number is too large to be written -/
  | number
  /-- no flag has this name -/
  | unknownFlag (name : String)
  deriving DecidableEq

/-- The text of a failure whose wording belongs to the settings. -/
def ConfigError.message? : ConfigError → Option String
  | unknownFlag name => some ("Unknown binding flag: " ++ name)
  | _ => none

/-- The settings of a cache. -/
structure CacheConfig where
  strategy : CacheStrategy
  softLimit : Option Nat
  deriving DecidableEq

/-- The settings. -/
structure Config where
  version : Nat
  debug : Bool
  logLevel : String
  /-- names of flags, for requests that give none -/
  defaultFlags : List String
  /-- the longest wait for a lock, in milliseconds -/
  lockTimeout : Option Nat
  cache : CacheConfig
  deriving DecidableEq

/-- The name of a strategy in documents. -/
def CacheStrategy.name : CacheStrategy → String
  | temporary => "temporary"
  | permanent => "permanent"

/-- The strategy of a name. -/
def CacheStrategy.ofName? (name : String) : Option CacheStrategy :=
  [temporary, permanent].find? fun strategy => strategy.name == name

namespace CacheConfig

/-- The usual settings of a cache. -/
def standard : CacheConfig := ⟨.temporary, none⟩

end CacheConfig

namespace Config

/-- The usual settings. -/
def standard : Config :=
  { version := 1, debug := false, logLevel := "info"
    defaultFlags := ["INSTANCE_ANY_VISIBILITY"], lockTimeout := none, cache := .standard }

/-- The name of the file that settings are kept in. -/
def fileName : String := "rapidflect.toml"

/-- The path of the file in a directory. -/
def pathIn (directory : String) : String :=
  if directory.toList.getLast? = some '/' then directory ++ fileName
  else directory ++ "/" ++ fileName

/-- The flags for requests that give none. -/
def flags (config : Config) : Except ConfigError Flags :=
  if config.defaultFlags.isEmpty then .ok Flags.standard
  else config.defaultFlags.foldlM (fun flags name =>
    match Flags.ofName? name with
    | some more => .ok (flags ∪ more)
    | none => .error (.unknownFlag name)) Flags.empty

/-- What is logged. -/
def logFilter (config : Config) : String :=
  if config.debug then "debug" else config.logLevel

/-- The longest wait for a lock, in microseconds. -/
def waitLimit (config : Config) : Option Nat := config.lockTimeout.map (· * 1000)

/-! ### Reading -/

/-- The value of a key, or the usual value when the key is missing. -/
def fieldOr {α : Type} (entries : Toml.Entries) (key : String) (read : Toml → Option α)
    (usual : α) : Option α :=
  match entries.lookup key with
  | some v => read v
  | none => some usual

/-- A whole number from zero up to a bound. -/
def readNat (bound : Nat) : Toml → Option Nat
  | .integer n => if 0 ≤ n ∧ n ≤ bound then some n.toNat else none
  | _ => none

/-- A truth value. -/
def readBool : Toml → Option Bool
  | .bool b => some b
  | _ => none

/-- A text. -/
def readText : Toml → Option String
  | .string s => some s
  | _ => none

/-- A list of texts. -/
def readTexts : Toml → Option (List String)
  | .array items => items.mapM readText
  | _ => none

/-- Nothing but a pair of brackets or braces. -/
def isEmptyValue : Toml → Bool
  | .array items => items.isEmpty
  | .table _ entries => entries.isEmpty
  | _ => false

/-- A strategy: its name, or a table whose only key is the name. -/
def readStrategy : Toml → Option CacheStrategy
  | .string name => CacheStrategy.ofName? name
  | .table _ [(name, content)] =>
    if isEmptyValue content then CacheStrategy.ofName? name else none
  | _ => none

/-- The settings of a cache from values in order. -/
def readCacheItems : List Toml → Option CacheConfig
  | [] => some .standard
  | [strategy] => do return { CacheConfig.standard with strategy := ← readStrategy strategy }
  | strategy :: limit :: _ => do
    return ⟨← readStrategy strategy, some (← readNat (UInt64.size - 1) limit)⟩

/-- The settings of a cache. -/
def readCache : Toml → Option CacheConfig
  | .table _ entries => do
    return {
      strategy := ← fieldOr entries "strategy" readStrategy .temporary
      softLimit := ←
        fieldOr entries "soft_limit" (fun v => (readNat (UInt64.size - 1) v).map some) none }
  | .array items => readCacheItems items
  | .tables items => readCacheItems (items.map (.table .header))
  | .dateTime => some .standard
  | _ => none

/-- The settings in a document. -/
def ofEntries (entries : Toml.Entries) : Option Config := do
  return {
    version := ← fieldOr entries "version" (readNat (UInt32.size - 1)) standard.version
    debug := ← fieldOr entries "debug" readBool standard.debug
    logLevel := ← fieldOr entries "log_level" readText standard.logLevel
    defaultFlags := ← fieldOr entries "default_flags" readTexts standard.defaultFlags
    lockTimeout := ←
      fieldOr entries "lock_timeout_ms" (fun v => (readNat (UInt64.size - 1) v).map some) none
    cache := ← fieldOr entries "cache" readCache standard.cache }

/-- Reads settings, and checks that every flag has a name that is known. -/
def parse (text : String) : Except ConfigError Config :=
  -- The document is read as a whole before any name of a flag is looked up.
  match (Toml.parse? text).bind ofEntries with
  | none => .error .document
  | some config => config.flags.map fun _ => config

/-! ### Writing -/

/-- A number that a document can hold. -/
def renderNat (n : Nat) : Except ConfigError String :=
  if n < 0x8000000000000000 then .ok (Decimal.ofInt n) else .error .number

/-- A list of texts: on one line when there is at most one, or else one on each line. -/
def renderTexts : List String → String
  | [] => "[]"
  | [one] => "[" ++ Toml.render one ++ "]"
  | many => "[\n" ++ String.join (many.map fun s => "    " ++ Toml.render s ++ ",\n") ++ "]"

/-- The line of a key. -/
def renderLine (key content : String) : String := key ++ " = " ++ content ++ "\n"

/-- The line of a number, if there is one. -/
def renderOptional (key : String) : Option Nat → Except ConfigError String
  | none => .ok ""
  | some n => (renderNat n).map (renderLine key)

/-- Writes settings as a document. -/
def render (config : Config) : Except ConfigError String := do
  let timeout ← renderOptional "lock_timeout_ms" config.lockTimeout
  let limit ← renderOptional "soft_limit" config.cache.softLimit
  return String.join [
    renderLine "version" (Decimal.ofInt config.version),
    renderLine "debug" (if config.debug then "true" else "false"),
    renderLine "log_level" (Toml.render config.logLevel),
    renderLine "default_flags" (renderTexts config.defaultFlags),
    timeout,
    "\n[cache]\n",
    renderLine "strategy" (Toml.render config.cache.strategy.name),
    limit]

/-- Without names the standard flags apply. -/
theorem flags_nil (config : Config) (h : config.defaultFlags = []) :
    config.flags = .ok Flags.standard := by
  simp [flags, h]

end Config

end Introspect
