import Introspect.Decimal.Reading
import Introspect.Toml
import Introspect.Toml.Quoted

/-!
# `Introspect.Toml.Scalar`: numbers, truth values and points in time

`scalar?` reads a word as one of these. Digits may be grouped by single underscores. A whole number
must fit 64 bits, in whichever base it is written; a number with a point or an exponent must not be
too large; dates and times must exist, except that a minute may have a sixty-first second.
-/

set_option autoImplicit false

namespace Introspect.Toml

/-- The characters of words that are not quoted. -/
def isWordChar (c : Char) : Bool :=
  c.isAlphanum || c = '_' || c = '+' || c = '-' || c = '.' || c = ':'

/-- The digits in front, with the underscores between them. -/
def isGrouped (isDigit : Char → Bool) (c : Char) : Bool := isDigit c || c = '_'

/-- The digits of a group, without its underscores, each of which stands between two digits. -/
def ungroup? (isDigit : Char → Bool) (cs : List Char) : Option (List Char) :=
  let pieces := cs.splitOn '_'
  if pieces.all fun piece => !piece.isEmpty && piece.all isDigit then some pieces.flatten else none

/-- A whole number that fits 64 bits. -/
def inRange? (n : Int) : Option Int :=
  if -0x8000000000000000 ≤ n ∧ n < 0x8000000000000000 then some n else none

/-- The digits of a decimal whole number, which has no leading zeros. -/
def wholeDigits? (cs : List Char) : Option (List Char) :=
  match ungroup? Decimal.isDigit cs with
  | some ['0'] => some ['0']
  | some ('0' :: _) => none
  | digits => digits

/-- A whole number in base ten. -/
def decimal? (cs : List Char) : Option Int := do
  let (negative, rest) := Decimal.splitSign cs
  let n := Decimal.ofDigits (← wholeDigits? rest)
  inRange? (if negative then -(n : Int) else n)

/-- A whole number in another base. -/
def inBase? (base : Nat) (cs : List Char) : Option Int := do
  let isDigit (c : Char) : Bool := match hexDigit? c with
    | some d => decide (d < base)
    | none => false
  let values ← (← ungroup? isDigit cs).mapM hexDigit?
  inRange? (values.foldl (fun n d => base * n + d) 0 : Nat)

/-- A whole number. -/
def integer? : List Char → Option Int
  | '0' :: 'x' :: rest => inBase? 16 rest
  | '0' :: 'o' :: rest => inBase? 8 rest
  | '0' :: 'b' :: rest => inBase? 2 rest
  | cs => decimal? cs

/-- The digits behind a point, if there is one. -/
def fraction? : List Char → Option (List Char × List Char)
  | '.' :: rest => do
    let digits ← ungroup? Decimal.isDigit (rest.takeWhile (isGrouped Decimal.isDigit))
    return (digits, rest.dropWhile (isGrouped Decimal.isDigit))
  | rest => some ([], rest)

/-- An exponent, if there is one. -/
def exponent? : List Char → Option Int
  | [] => some 0
  | c :: rest =>
    if c = 'e' ∨ c = 'E' then do
      let (negative, rest) := Decimal.splitSign rest
      let n := Decimal.ofDigits (← ungroup? Decimal.isDigit rest)
      return if negative then -(n : Int) else n
    else none

/-- Whether a word is a number with a point or an exponent that is not too large. -/
def isFloat (cs : List Char) : Bool :=
  let (negative, rest) := Decimal.splitSign cs
  if rest = ['i', 'n', 'f'] ∨ rest = ['n', 'a', 'n'] then true
  else
    let whole := rest.takeWhile (isGrouped Decimal.isDigit)
    let rest := rest.dropWhile (isGrouped Decimal.isDigit)
    match rest, wholeDigits? whole, fraction? rest with
    | _ :: _, some whole, some (digits, rest) =>
      match exponent? rest with
      | some e =>
        -- Only the upper end is checked: a negative number may be too large.
        negative ||
          Decimal.nearest (Decimal.ofDigits (whole ++ digits)) (e - digits.length) !=
            Float64.infinity
      | none => false
    | _, _, _ => false

/-- A number of exactly `count` digits in front, and what follows it. -/
def fixed? (count : Nat) (cs : List Char) : Option (Nat × List Char) :=
  let digits := cs.take count
  if digits.length = count && digits.all Decimal.isDigit then
    some (Decimal.ofDigits digits, cs.drop count)
  else none

/-- Drops a character that must be there. -/
def skip? (c : Char) : List Char → Option (List Char)
  | d :: rest => if d = c then some rest else none
  | [] => none

/-- The number of days of a month. -/
def daysOf (year month : Nat) : Nat :=
  if month = 2 then
    if (year % 4 = 0 && year % 100 ≠ 0) || year % 400 = 0 then 29 else 28
  else if [4, 6, 9, 11].contains month then 30
  else 31

/-- What follows a date. -/
def afterDate? (cs : List Char) : Option (List Char) := do
  let (year, rest) ← fixed? 4 cs
  let (month, rest) ← fixed? 2 (← skip? '-' rest)
  let (day, rest) ← fixed? 2 (← skip? '-' rest)
  if 1 ≤ month ∧ month ≤ 12 ∧ 1 ≤ day ∧ day ≤ daysOf year month then some rest else none

/-- What follows a time of day. -/
def afterTime? (cs : List Char) : Option (List Char) := do
  let (hour, rest) ← fixed? 2 cs
  let (minute, rest) ← fixed? 2 (← skip? ':' rest)
  let (second, rest) ← fixed? 2 (← skip? ':' rest)
  if hour < 24 ∧ minute < 60 ∧ second ≤ 60 then
    match rest with
    | '.' :: rest =>
      if (rest.takeWhile Decimal.isDigit).isEmpty then none
      else some (rest.dropWhile Decimal.isDigit)
    | rest => some rest
  else none

/-- Whether the characters are nothing, or a distance from universal time. -/
def isOffset : List Char → Bool
  | [] => true
  | ['Z'] | ['z'] => true
  | '+' :: rest | '-' :: rest =>
    match (do
      let (hour, rest) ← fixed? 2 rest
      let (minute, rest) ← fixed? 2 (← skip? ':' rest)
      if hour < 24 ∧ minute < 60 then some rest else none) with
    | some [] => true
    | _ => false
  | _ => false

/-- Whether a word is a date, a time, or both. -/
def isDateTime (cs : List Char) : Bool :=
  match afterDate? cs with
  | some [] => true
  | some (c :: rest) =>
    (c = 'T' || c = 't' || c = ' ') && ((afterTime? rest).map isOffset).getD false
  | none => match afterTime? cs with
    | some [] => true
    | _ => false

/-- Whether a time of day follows a blank. -/
def timeFollows : List Char → Bool
  | ' ' :: a :: b :: ':' :: _ => Decimal.isDigit a && Decimal.isDigit b
  | _ => false

/-- The word in front. A blank may stand between a date and a time. -/
def spanWord (cs : List Char) : List Char × List Char :=
  let word := cs.takeWhile isWordChar
  let rest := cs.dropWhile isWordChar
  if afterDate? word = some [] && timeFollows rest then
    (word ++ ' ' :: (rest.drop 1).takeWhile isWordChar, (rest.drop 1).dropWhile isWordChar)
  else (word, rest)

/-- The value that a word denotes. -/
def scalar? (word : List Char) : Option Toml :=
  if word = "true".toList then some (.bool true)
  else if word = "false".toList then some (.bool false)
  else if isDateTime word then some .dateTime
  else match integer? word with
    | some n => some (.integer n)
    | none => if isFloat word then some .float else none

end Introspect.Toml
