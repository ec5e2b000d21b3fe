import Introspect.Text.Lowercase
import Introspect.Text.PrintTable

/-!
# `Introspect.Text.Quoted`: text between double quotes, with escapes

`quoted` writes a text so that it can be told apart in a message: quotes and backslashes are
escaped, tab, line feed, carriage return and NUL have their short forms, and a character that has no
printed form of its own is written by its code point.
-/

set_option autoImplicit false

namespace Introspect.Text

/-- A number in base sixteen, without leading zeros. -/
def hex (n : Nat) : String :=
  String.ofList (Nat.toDigits 16 n)

/-- The escape that names a code point. -/
def codePointEscape (c : Char) : String :=
  "\\u\x7b" ++ hex c.toNat ++ "\x7d"

/-- Whether a character is written as itself inside quotes. -/
def isPlain (c : Char) : Bool :=
  !inRanges extendingRanges c.toNat && !inRanges unprintableRanges c.toNat

/-- One character inside quotes. -/
def escapeChar (c : Char) : String :=
  if c = '\x00' then "\\0"
  else if c = '\t' then "\\t"
  else if c = '\r' then "\\r"
  else if c = '\n' then "\\n"
  else if c = '"' then "\\\""
  else if c = '\\' then "\\\\"
  else if isPlain c then c.toString
  else codePointEscape c

/-- The text between double quotes. -/
def quoted (s : String) : String :=
  "\"" ++ s.toList.foldl (fun acc c => acc ++ escapeChar c) "" ++ "\""

/-- A list of texts between brackets, each one quoted. -/
def quotedList (items : List String) : String :=
  "[" ++ ", ".intercalate (items.map quoted) ++ "]"

end Introspect.Text
