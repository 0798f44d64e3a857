import Patchbay.Text.Hex

/-!
# Strings in settings files

A string is written in the plainest way that can hold it: between quotes, between apostrophes, or
between triple ones, and with escapes only where none of these will do.
-/

namespace Patchbay.Toml

/-! ### Ways to write a string -/

inductive StringStyle where
  /-- Between quotes, on one line. -/
  | basic
  /-- Between apostrophes, as it is, on one line. -/
  | literal
  /-- Between triple quotes. -/
  | triple
  /-- Between triple apostrophes, as it is. -/
  | literalTriple
deriving DecidableEq, Repr

def needsEscape (c : Char) : Bool :=
  (c.toNat < 0x20 && c ≠ '\t' && c ≠ '\n') || c.toNat = 0x7f

/-- Whether a text has three of a character in a row. -/
def hasTriple (q : Char) : List Char → Bool
  | a :: b :: c :: s => (a = q && b = q && c = q) || hasTriple q (b :: c :: s)
  | _ => false

/-- The plainest way to write a text. -/
def StringStyle.of (s : List Char) : StringStyle :=
  let escapes := s.any needsEscape
  let lines := s.contains '\n'
  if !escapes && !s.contains '\\' && !s.contains '"' && !lines then .basic
  else if !escapes && !s.contains '\'' && !lines then .literal
  else if !escapes && !s.contains '\\' && !hasTriple '"' s then .triple
  else if !escapes && !hasTriple '\'' s then .literalTriple
  else if lines then .triple
  else .basic

/-! ### Writing -/

/-- A character by its escape, if it has one. A line break has none of its own here. -/
def escape? (c : Char) : Option (List Char) :=
  if c = '\x08' then some ['\\', 'b']
  else if c = '\t' then some ['\\', 't']
  else if c = '\x0c' then some ['\\', 'f']
  else if c = '\r' then some ['\\', 'r']
  else if c = '\\' then some ['\\', '\\']
  else if needsEscape c then
    some ['\\', 'u', '0', '0', (Text.hexDigit (c.toNat / 16)).toUpper,
      (Text.hexDigit (c.toNat % 16)).toUpper]
  else none

/-- The inside of a string between quotes. -/
def basicText : List Char → List Char
  | [] => []
  | c :: s =>
    (if c = '"' then ['\\', '"'] else if c = '\n' then ['\\', 'n'] else (escape? c).getD [c]) ++
      basicText s

/-- The inside of a string between triple quotes, after so many quotes: every third quote in a row
is escaped. -/
def tripleText (quotes : Nat) : List Char → List Char
  | [] => []
  | c :: s =>
    if c = '"' then
      if quotes < 2 then '"' :: tripleText (quotes + 1) s else '\\' :: '"' :: tripleText 0 s
    else (escape? c).getD [c] ++ tripleText 0 s

/-- What follows an opening triple quote: a line break, if the string has one. -/
def leadingLine (s : List Char) : List Char := if s.contains '\n' then ['\n'] else []

/-- A string between its quotes, in a certain way. -/
def StringStyle.write (s : List Char) : StringStyle → List Char
  | .basic => '"' :: basicText s ++ ['"']
  | .literal => '\'' :: s ++ ['\'']
  | .triple => ['"', '"', '"'] ++ leadingLine s ++ tripleText 0 s ++ ['"', '"', '"']
  | .literalTriple => ['\'', '\'', '\''] ++ leadingLine s ++ s ++ ['\'', '\'', '\'']

def quoted (s : String) : String :=
  String.ofList ((StringStyle.of s.toList).write s.toList)

end Patchbay.Toml
