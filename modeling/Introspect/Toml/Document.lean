import Introspect.Toml.Scalar

/-!
# `Introspect.Toml.Document`: reading a document

`parse?` reads a whole document: lines that hold a key with its value, or a header, with blanks,
comments and empty lines around them. Keys and values are read by small readers that take what they
need from the front of the characters and answer with the rest.

Arrays and tables between braces nest to a fixed depth, and so do the steps of a dotted key.
-/

set_option autoImplicit false

namespace Introspect.Toml

/-- A reader takes something from the front of the characters, or fails. -/
abbrev Reader (α : Type) : Type := StateT (List Char) Option α

/-- What a document may nest. -/
def nestingLimit : Nat := 79

/-- Drops blanks within a line. -/
def dropBlanks (cs : List Char) : List Char := cs.dropWhile fun c => c = ' ' || c = '\t'

/-- Drops blanks, line ends and comments. -/
def dropTrivia (inComment : Bool) : List Char → List Char
  | [] => []
  | '\r' :: '\n' :: rest => dropTrivia false rest
  | '\n' :: rest => dropTrivia false rest
  | c :: rest =>
    if inComment then if isTextChar c then dropTrivia true rest else c :: rest
    else if c = ' ' || c = '\t' then dropTrivia false rest
    else if c = '#' then dropTrivia true rest
    else c :: rest

/-- What follows the end of a line, a comment before it included. The end of the text ends a
line. -/
def afterLineEnd? (cs : List Char) : Option (List Char) :=
  let rest := match dropBlanks cs with
    | '#' :: rest => rest.dropWhile isTextChar
    | rest => rest
  match rest with
  | [] => some []
  | '\n' :: rest => some rest
  | '\r' :: '\n' :: rest => some rest
  | _ => none

/-- Takes a character that must be there. -/
def expect (c : Char) : Reader Unit := fun cs => (skip? c cs).map fun rest => ((), rest)

/-- Whether a character comes next; it is taken if so. -/
def accept (c : Char) : Reader Bool := fun cs =>
  match skip? c cs with
  | some rest => some (true, rest)
  | none => some (false, cs)

/-- Drops what a function drops. -/
def dropping (f : List Char → List Char) : Reader Unit := modify f

/-- One step of a key: quoted, or a word of letters, digits, underscores and dashes. -/
def keyStep : Reader String := fun cs =>
  match cs with
  | '"' :: _ | '\'' :: _ => readLine? cs
  | _ =>
    let isKeyChar (c : Char) : Bool := c.isAlphanum || c = '_' || c = '-'
    match cs.takeWhile isKeyChar with
    | [] => none
    | word => some (String.ofList word, cs.dropWhile isKeyChar)

/-- The further steps of a key, at most `limit` of them. -/
def keySteps : Nat → Reader (List String)
  | 0 => failure
  | limit + 1 => do
    dropping dropBlanks
    let step ← keyStep
    dropping dropBlanks
    if ← accept '.' then return step :: (← keySteps limit) else return [step]

/-- A dotted key: the steps before the last one, and the last one. -/
def key : Reader (List String × String) := do
  let steps ← keySteps nestingLimit
  match steps.getLast? with
  | some last => return (steps.dropLast, last)
  | none => failure

/-- A key and its value. -/
def pair (value : Reader Toml) : Reader (List String × String × Toml) := do
  let (path, last) ← key
  expect '='
  dropping dropBlanks
  return (path, last, ← value)

/-- The items of an array up to its end. -/
def items (item : Reader Toml) : Nat → Reader (List Toml)
  | 0 => failure
  | fuel + 1 => do
    dropping (dropTrivia false)
    if ← accept ']' then return []
    let first ← item
    dropping (dropTrivia false)
    -- After a comma the array may end.
    if ← accept ',' then return first :: (← items item fuel)
    expect ']'
    return [first]

/-- The pairs of a table between braces up to its end, at least one. -/
def pairs (item : Reader Toml) : Nat → Reader (List (List String × String × Toml))
  | 0 => failure
  | fuel + 1 => do
    let first ← pair item
    dropping dropBlanks
    -- After a comma another pair must come: braces have no trailing comma.
    if ← accept ',' then return first :: (← pairs item fuel)
    expect '}'
    return [first]

/-- The table between braces whose opening brace has been taken. -/
def inlineTable (item : Reader Toml) : Reader Toml := do
  dropping dropBlanks
  if ← accept '}' then return .table .inline []
  let found ← pairs item ((← get).length + 1)
  StateT.lift (ofInline found)

/-- A text, or a word that denotes a value. -/
def plainValue : Reader Toml := fun cs =>
  match cs with
  | '"' :: _ | '\'' :: _ => (readString? cs).map fun (s, rest) => (.string s, rest)
  | _ =>
    let (word, rest) := spanWord cs
    (scalar? word).map fun v => (v, rest)

/-- A value that nests to at most a depth. -/
def value : Nat → Reader Toml
  | 0 => do
    if (← accept '[') || (← accept '\x7b') then failure else plainValue
  | depth + 1 => do
    if ← accept '[' then return .array (← items (value depth) ((← get).length + 1))
    if ← accept '\x7b' then inlineTable (value depth) else plainValue

/-- A document while it is read. -/
structure Draft where
  entries : Entries
  /-- the header that keys belong to -/
  header : List String

/-- A header, whose opening bracket has been taken, as a change to the document. -/
def headerLine (draft : Draft) : Reader Draft := do
  let isElement ← accept '['
  let (path, last) ← key
  expect ']'
  if isElement then expect ']'
  -- The steps before the last one are only passed through.
  let change := if isElement then openElement last else openTable last
  let entries ← StateT.lift (update change path draft.entries)
  return ⟨entries, path ++ [last]⟩

/-- A key with its value, as a change to the document. -/
def pairLine (draft : Draft) : Reader Draft := do
  let (path, last, v) ← pair (value nestingLimit)
  let entries ← StateT.lift (update (define path last v) draft.header draft.entries)
  return { draft with entries }

/-- One line of a document. -/
def line (draft : Draft) : Reader Draft := do
  dropping dropBlanks
  match (← get).head? with
  | none | some '#' | some '\n' | some '\r' => pure draft
  | some '[' => do
    expect '['
    headerLine draft
  | _ => pairLine draft

/-- All lines of a document. -/
def lines : Nat → Draft → List Char → Option Entries
  | 0, _, _ => none
  | fuel + 1, draft, cs =>
    if cs.isEmpty then some draft.entries
    else do
      let (draft, rest) ← (line draft).run cs
      let rest ← afterLineEnd? rest
      lines fuel draft rest

/-- Reads a document. A byte order mark in front does not count. -/
def parse? (text : String) : Option Entries :=
  let cs := match text.toList with
    | '\ufeff' :: rest => rest
    | cs => cs
  lines (cs.length + 1) ⟨[], []⟩ cs

end Introspect.Toml
