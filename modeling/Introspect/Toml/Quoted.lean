import Introspect.Decimal.Integer

/-!
# `Introspect.Toml.Quoted`: texts in TOML documents

A text stands between double quotes, with escapes, or between single quotes, as it is; three quotes
hold a text of several lines. `render` chooses among the four: escapes are avoided where another
form does without, and a text of several lines gets three quotes and starts on a new line.

`readString?` reads any of the four and answers with what follows.
-/

set_option autoImplicit false

namespace Introspect.Toml

/-! ### Writing -/

/-- The four forms of a text. -/
inductive StringForm
  | basic
  | literal
  | basicBlock
  | literalBlock
  deriving DecidableEq

namespace StringForm

/-- What stands before and after the text. -/
def delimiter : StringForm → List Char
  | basic => ['"']
  | literal => ['\'']
  | basicBlock => ['"', '"', '"']
  | literalBlock => ['\'', '\'', '\'']

/-- Whether the form may have several lines. -/
def isBlock : StringForm → Bool
  | basicBlock | literalBlock => true
  | _ => false

/-- Whether the form has escapes. -/
def hasEscapes : StringForm → Bool
  | basic | basicBlock => true
  | _ => false

end StringForm

/-- A control character that no form holds as it is. -/
def isControl (c : Char) : Bool :=
  (c.toNat ≤ 0x1f && c != '\t' && c != '\n') || c.toNat == 0x7f

/-- The longest run of a character, after a run that has `current` of them so far. -/
def longestRun (c : Char) (current : Nat) : List Char → Nat
  | [] => current
  | d :: rest =>
    if d = c then longestRun c (current + 1) rest else max current (longestRun c 0 rest)

/-- The form in which a text is written. -/
def StringForm.of (cs : List Char) : StringForm :=
  let lines := cs.contains '\n'
  let controls := cs.any isControl
  let escapes := controls || cs.contains '\\'
  let doubles := longestRun '"' 0 cs
  let singles := longestRun '\'' 0 cs
  if !escapes && doubles = 0 && !lines then .basic
  else if !controls && singles = 0 && !lines then .literal
  else if !escapes && doubles ≤ 2 then .basicBlock
  else if !controls && singles ≤ 2 then .literalBlock
  else if lines then .basicBlock
  else .basic

/-- Four digits of base sixteen. -/
def hex4 (n : Nat) : List Char :=
  let digits := (Nat.toDigits 16 n).map Char.toUpper
  List.replicate (4 - digits.length) '0' ++ digits

/-- The escape of a character, if it needs one. -/
def escape? (block : Bool) (c : Char) : Option (List Char) :=
  if c = '\x08' then some ['\\', 'b']
  else if c = '\t' then some ['\\', 't']
  else if c = '\n' then if block then none else some ['\\', 'n']
  else if c = '\x0c' then some ['\\', 'f']
  else if c = '\r' then some ['\\', 'r']
  else if c = '\\' then some ['\\', '\\']
  else if isControl c then some ('\\' :: 'u' :: hex4 c.toNat)
  else none

/-- A text with escapes, after `quotes` double quotes in a row. A block holds two in a row as they
are. -/
def escaped (block : Bool) (quotes : Nat) : List Char → List Char
  | [] => []
  | c :: rest =>
    if c = '"' then
      if quotes < (if block then 2 else 0) then '"' :: escaped block (quotes + 1) rest
      else '\\' :: '"' :: escaped block 0 rest
    else match escape? block c with
      | some text => text ++ escaped block 0 rest
      | none => c :: escaped block 0 rest

/-- A text as it is written. -/
def render (s : String) : String :=
  let cs := s.toList
  let form := StringForm.of cs
  let start := if form.isBlock && cs.contains '\n' then ['\n'] else []
  let body := if form.hasEscapes then escaped form.isBlock 0 cs else cs
  String.ofList (form.delimiter ++ start ++ body ++ form.delimiter)

/-! ### Reading -/

/-- A character that stands for itself in a text; quotes and backslashes are treated first. -/
def isTextChar (c : Char) : Bool :=
  c = '\t' || (0x20 ≤ c.toNat && c.toNat ≠ 0x7f)

/-- What a digit of base sixteen stands for. -/
def hexDigit? (c : Char) : Option Nat :=
  if Decimal.isDigit c then some (Decimal.digitValue c)
  else if 'a' ≤ c ∧ c ≤ 'f' then some (c.toNat - 'a'.toNat + 10)
  else if 'A' ≤ c ∧ c ≤ 'F' then some (c.toNat - 'A'.toNat + 10)
  else none

/-- The character with a code point in base sixteen. -/
def codePoint? (digits : List Char) : Option Char := do
  let values ← digits.mapM hexDigit?
  let n := values.foldl (fun n d => 16 * n + d) 0
  if h : n.isValidChar then some (Char.ofNatAux n h) else none

/-- The character behind a backslash, and what follows. -/
def readEscape? : List Char → Option (Char × List Char)
  | 'b' :: rest => some ('\x08', rest)
  | 't' :: rest => some ('\t', rest)
  | 'n' :: rest => some ('\n', rest)
  | 'f' :: rest => some ('\x0c', rest)
  | 'r' :: rest => some ('\r', rest)
  | '"' :: rest => some ('"', rest)
  | '\\' :: rest => some ('\\', rest)
  | 'u' :: rest =>
    if rest.length < 4 then none
    else (codePoint? (rest.take 4)).map fun c => (c, rest.drop 4)
  | 'U' :: rest =>
    if rest.length < 8 then none
    else (codePoint? (rest.take 8)).map fun c => (c, rest.drop 8)
  | _ => none

/-- Drops blanks and line ends. -/
def dropSpace : List Char → List Char
  | ' ' :: rest | '\t' :: rest | '\n' :: rest => dropSpace rest
  | '\r' :: '\n' :: rest => dropSpace rest
  | rest => rest

/-- What follows a backslash at the end of a line. -/
def afterLine? (cs : List Char) : Option (List Char) :=
  match cs.dropWhile fun c => c = ' ' || c = '\t' with
  | '\n' :: rest => some (dropSpace rest)
  | '\r' :: '\n' :: rest => some (dropSpace rest)
  | _ => none

/-- The rest of a text between double quotes, in reverse, and what follows it. -/
def readBasic? : Nat → List Char → List Char → Option (List Char × List Char)
  | 0, _, _ => none
  | _, _, [] => none
  | fuel + 1, acc, c :: rest =>
    if c = '"' then some (acc, rest)
    else if c = '\\' then do
      let (d, rest) ← readEscape? rest
      readBasic? fuel (d :: acc) rest
    else if isTextChar c then readBasic? fuel (c :: acc) rest
    else none

/-- The rest of a text between single quotes, in reverse, and what follows it. -/
def readLiteral? (acc : List Char) : List Char → Option (List Char × List Char)
  | [] => none
  | c :: rest =>
    if c = '\'' then some (acc, rest)
    else if isTextChar c then readLiteral? (c :: acc) rest
    else none

/-- Up to two quotes may stand directly before the three that end a block. -/
def blockEnd? (quote : Char) (acc cs : List Char) : Option (List Char × List Char) :=
  -- Five quotes are two that belong to the text and three that end it.
  let run := (cs.takeWhile (· = quote)).length
  if run < 3 then none
  else if run < 5 then some (List.replicate (run - 3) quote ++ acc, cs.drop run)
  else some (quote :: quote :: acc, cs.drop 5)

/-- The rest of a block, in reverse, and what follows it. -/
def readBlock? (quote : Char) (escapes : Bool) :
    Nat → List Char → List Char → Option (List Char × List Char)
  | 0, _, _ => none
  | _, _, [] => none
  | fuel + 1, acc, c :: rest =>
    if c = quote then
      match blockEnd? quote acc (c :: rest) with
      | some found => some found
      | none => readBlock? quote escapes fuel (c :: acc) rest
    else if escapes && c = '\\' then
      -- A backslash at the end of a line joins it with the next text.
      match afterLine? rest with
      | some rest => readBlock? quote escapes fuel acc rest
      | none => do
        let (d, rest) ← readEscape? rest
        readBlock? quote escapes fuel (d :: acc) rest
    else if c = '\n' then readBlock? quote escapes fuel ('\n' :: acc) rest
    else if c = '\r' then
      match rest with
      | '\n' :: rest => readBlock? quote escapes fuel ('\n' :: acc) rest
      | _ => none
    else if isTextChar c then readBlock? quote escapes fuel (c :: acc) rest
    else none

/-- A line end directly behind the opening quotes of a block does not count. -/
def dropFirstLine : List Char → List Char
  | '\n' :: rest => rest
  | '\r' :: '\n' :: rest => rest
  | rest => rest

/-- A text on one line, and what follows it. -/
def readLine? : List Char → Option (String × List Char)
  | '"' :: rest =>
    (readBasic? (rest.length + 1) [] rest).map fun (acc, rest) => (String.ofList acc.reverse, rest)
  | '\'' :: rest =>
    (readLiteral? [] rest).map fun (acc, rest) => (String.ofList acc.reverse, rest)
  | _ => none

/-- A text in any form, and what follows it. -/
def readString? : List Char → Option (String × List Char)
  | '"' :: '"' :: '"' :: rest =>
    (readBlock? '"' true (rest.length + 1) [] (dropFirstLine rest)).map
      fun (acc, rest) => (String.ofList acc.reverse, rest)
  | '\'' :: '\'' :: '\'' :: rest =>
    (readBlock? '\'' false (rest.length + 1) [] (dropFirstLine rest)).map
      fun (acc, rest) => (String.ofList acc.reverse, rest)
  | cs => readLine? cs

end Introspect.Toml
