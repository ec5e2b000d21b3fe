import Introspect.Config
import Introspect.Outline

/-!
# `Introspect.Outline.Settings`: outlines of settings

A configuration is a record of its settings and of what they amount to. Flags that cannot be read
are shown as the failure to read them.
-/

set_option autoImplicit false

namespace Introspect

/-- The name of a kind of failure. -/
def ConfigError.label : ConfigError → String
  | .file => "IoError"
  | .document => "ParseError"
  | .number => "SerializeError"
  | .unknownFlag _ => "InvalidFlag"

/-- A failure with its text, if the text is known. -/
instance : Described ConfigError where
  parts p e := p.part "error" e.label :: (e.message?.map (p.part "message")).toList

instance : Described Config where
  parts p config := [
    p.part "version" config.version, p.part "debug" config.debug,
    p.part "log_level" config.logLevel, p.part "default_flags" config.defaultFlags,
    p.part "lock_timeout_ms" config.lockTimeout,
    p.part "permanent" (config.cache.strategy == .permanent),
    p.part "soft_limit" config.cache.softLimit, p.part "filter" config.logFilter,
    p.part "timeout_us" (config.waitLimit.map fun limit => Decimal.ofInt limit),
    match config.flags with
    | .ok flags => p.part "flags" flags.render
    | .error e => p.part "flags" e]

end Introspect
