import Patchbay.Number.Decimal
import Patchbay.Number.Natural
import Patchbay.Text.Hex
import Patchbay.Toml.Draft

/-!
# Reading settings files

A settings file has one statement on a line. Keys are bare words or quoted texts, joined by points;
values are strings of four kinds, numbers, truth values, dates and times, arrays, and tables within
a line. Each reading function takes the text and gives what it read and the text after it, or
nothing if the text is not as it should be.

A key has at most 79 parts, and arrays and tables may be nested 79 deep.
-/

namespace Patchbay.Toml

open Datetime (mark?)

/-- The longest key and the deepest nesting. -/
def maxDepth : Nat := 79

/-! ### Space and comments -/

def isSpace (c : Char) : Bool := c = ' ' || c = '\t'

/-- Whether a character may stand in a comment and, quotes and backslashes aside, in a string. -/
def isPlain (c : Char) : Bool := c = '\t' || (0x20 ≤ c.toNat && c.toNat ≠ 0x7f)

/-- The text after leading space on a line. -/
def skipSpace (s : List Char) : List Char := s.dropWhile isSpace

def newline? : List Char → Option (List Char)
  | '\n' :: s => some s
  | '\r' :: '\n' :: s => some s
  | _ => none

/-- The text after a comment, if there is one. -/
def skipComment : List Char → List Char
  | '#' :: s => s.dropWhile isPlain
  | s => s

def lineEnd? (s : List Char) : Option (List Char) :=
  match skipComment (skipSpace s) with
  | [] => some []
  | s => newline? s

/-- The text after space, line breaks and comments. A comment is cut off where it may not go on, so
that the text after it is none that can be read. -/
def skipLines (comment : Bool) : List Char → List Char
  | [] => []
  | '\r' :: '\n' :: s => skipLines false s
  | c :: s =>
    if c = '\n' then skipLines false s
    else if comment then if isPlain c then skipLines true s else c :: s
    else if isSpace c then skipLines false s
    else if c = '#' then skipLines true s
    else c :: s

/-! ### Strings -/

/-- The character with a hexadecimal code. -/
def charOfHex? (ds : List Char) : Option Char := do
  let code ← ds.foldlM (fun n d => return 16 * n + (← Text.hexValue? d)) 0
  if code < 0x110000 ∧ ¬ (0xd800 ≤ code ∧ code < 0xe000) then some (Char.ofNat code) else none

/-- The character that a letter after a backslash stands for. -/
def escaped? : Char → Option Char
  | '"' => some '"'
  | '\\' => some '\\'
  | 'b' => some '\x08'
  | 'f' => some '\x0c'
  | 'n' => some '\n'
  | 'r' => some '\r'
  | 't' => some '\t'
  | _ => none

/-- The rest of a string on one line, after its opening quote. -/
def basicTail (acc : List Char) : List Char → Option (String × List Char)
  | '"' :: s => some (String.ofList acc.reverse, s)
  | '\\' :: 'u' :: a :: b :: c :: d :: s => do basicTail ((← charOfHex? [a, b, c, d]) :: acc) s
  | '\\' :: 'U' :: a :: b :: c :: d :: e :: f :: g :: h :: s => do
    basicTail ((← charOfHex? [a, b, c, d, e, f, g, h]) :: acc) s
  | '\\' :: c :: s => do basicTail ((← escaped? c) :: acc) s
  | c :: s => if isPlain c ∧ c ≠ '\\' then basicTail (c :: acc) s else none
  | [] => none

/-- The end of a string between triple quotes: up to two more quotes before the last three belong
to the string. -/
def closeTriple (quote : Char) (acc : List Char) : List Char → String × List Char
  | c :: d :: s =>
    if c = quote ∧ d = quote then (String.ofList (d :: c :: acc).reverse, s)
    else if c = quote then (String.ofList (c :: acc).reverse, d :: s)
    else (String.ofList acc.reverse, c :: d :: s)
  | [c] =>
    if c = quote then (String.ofList (c :: acc).reverse, [])
    else (String.ofList acc.reverse, [c])
  | [] => (String.ofList acc.reverse, [])

/-- The rest of a string between triple quotes. A backslash at the end of a line takes away all
space and line breaks after it; `folding` says that this goes on. -/
def tripleTail (acc : List Char) (folding : Bool) : List Char → Option (String × List Char)
  | '"' :: '"' :: '"' :: s => some (closeTriple '"' acc s)
  | '\\' :: 'u' :: a :: b :: c :: d :: s => do
    tripleTail ((← charOfHex? [a, b, c, d]) :: acc) false s
  | '\\' :: 'U' :: a :: b :: c :: d :: e :: f :: g :: h :: s => do
    tripleTail ((← charOfHex? [a, b, c, d, e, f, g, h]) :: acc) false s
  | '\\' :: c :: s =>
    if (newline? (skipSpace (c :: s))).isSome then tripleTail acc true (c :: s)
    else do tripleTail ((← escaped? c) :: acc) false s
  | '\r' :: '\n' :: s => tripleTail (if folding then acc else '\n' :: acc) folding s
  | '\n' :: s => tripleTail (if folding then acc else '\n' :: acc) folding s
  | c :: s =>
    if folding ∧ isSpace c then tripleTail acc true s
    else if isPlain c ∧ c ≠ '\\' then tripleTail (c :: acc) false s
    else none
  | [] => none

def literalTail (acc : List Char) : List Char → Option (String × List Char)
  | '\'' :: s => some (String.ofList acc.reverse, s)
  | c :: s => if isPlain c then literalTail (c :: acc) s else none
  | [] => none

/-- The rest of a string between triple apostrophes. -/
def literalTripleTail (acc : List Char) : List Char → Option (String × List Char)
  | '\'' :: '\'' :: '\'' :: s => some (closeTriple '\'' acc s)
  | '\r' :: '\n' :: s => literalTripleTail ('\n' :: acc) s
  | '\n' :: s => literalTripleTail ('\n' :: acc) s
  | c :: s => if isPlain c then literalTripleTail (c :: acc) s else none
  | [] => none

/-- The text after a line break, if it begins with one. -/
def skipNewline (s : List Char) : List Char := (newline? s).getD s

/-- A string of any kind. A line break right after an opening triple quote is no part of it. -/
def string? : List Char → Option (String × List Char)
  | '"' :: '"' :: '"' :: s => tripleTail [] false (skipNewline s)
  | '\'' :: '\'' :: '\'' :: s => literalTripleTail [] (skipNewline s)
  | '"' :: s => basicTail [] s
  | '\'' :: s => literalTail [] s
  | _ => none

/-! ### Keys -/

def isBare (c : Char) : Bool := c.isAlphanum || c = '-' || c = '_'

/-- One part of a key. -/
def keyPart? : List Char → Option (String × List Char)
  | '"' :: s => basicTail [] s
  | '\'' :: s => literalTail [] s
  | s =>
    match s.takeWhile isBare with
    | [] => none
    | word => some (String.ofList word, s.dropWhile isBare)

/-- A key with at most so many parts, and the text after it and the space that follows. -/
def key? : Nat → List Char → Option (List String × List Char)
  | 0, _ => none
  | parts + 1, s => do
    let (part, s) ← keyPart? (skipSpace s)
    match skipSpace s with
    | '.' :: s => do
      let (rest, s) ← key? parts s
      return (part :: rest, s)
    | s => return ([part], s)

/-! ### Words and numbers -/

/-- Digits with single underscores between them. -/
def separatedDigits? (isDigit : Char → Bool) : List Char → Option (List Char)
  | [] => none
  | [c] => if isDigit c then some [c] else none
  | c :: '_' :: s => if isDigit c then (separatedDigits? isDigit s).map (c :: ·) else none
  | c :: s => if isDigit c then (separatedDigits? isDigit s).map (c :: ·) else none

/-- The number that digits of a base stand for, if it fits a signed word. -/
def wordOfBase? (base : Nat) (s : List Char) : Option Toml := do
  let value? (c : Char) := (Text.hexValue? c).filter (· < base)
  let ds ← separatedDigits? (fun c => (value? c).isSome) s
  let n := ds.foldl (fun n c => base * n + (value? c).getD 0) 0
  if n < signedWordBound then some (.integer n) else none

/-- The digits of a whole decimal number: more than one only if the first is no zero. -/
def wholeDigits? (s : List Char) : Option (List Char) :=
  (separatedDigits? Char.isDigit s).filter fun ds => ds.head? ≠ some '0' ∨ s = ['0']

/-- The exponent after its mark. -/
def exponent? : List Char → Option Int
  | '-' :: s => (separatedDigits? Char.isDigit s).map fun ds => -(ofDigits ds : Int)
  | '+' :: s => (separatedDigits? Char.isDigit s).map fun ds => (ofDigits ds : Int)
  | s => (separatedDigits? Char.isDigit s).map fun ds => (ofDigits ds : Int)

/-- Whether a character marks an exponent. -/
def isExponentMark (c : Char) : Bool := c = 'e' || c = 'E'

/-- The floating-point number with a fraction, an exponent or both. One beyond all finite numbers is
not allowed, unless it is negative. -/
def floatOfParts? (negative : Bool) (whole fraction : List Char) (exponent : Int) : Option Toml :=
  let x : Double := ⟨negative, (Decimal.ofParts whole fraction exponent).nearest .double⟩
  if x.isFinite ∨ negative then some (.float x) else none

/-- A decimal number without its sign. -/
def decimal? (negative : Bool) (s : List Char) : Option Toml := do
  let (mantissa, mark) := s.span (!isExponentMark ·)
  let (whole, point) := mantissa.span (· ≠ '.')
  let whole ← wholeDigits? whole
  match point, mark with
  | [], [] =>
    let n : Int := if negative then -(ofDigits whole : Int) else ofDigits whole
    if -(signedWordBound : Int) ≤ n ∧ n < signedWordBound then some (.integer n) else none
  | [], _ :: e => floatOfParts? negative whole [] (← exponent? e)
  | _ :: f, [] => floatOfParts? negative whole (← separatedDigits? Char.isDigit f) 0
  | _ :: f, _ :: e =>
    floatOfParts? negative whole (← separatedDigits? Char.isDigit f) (← exponent? e)

/-- A number that may have a sign, without it. -/
def signed? (negative : Bool) (s : List Char) : Option Toml :=
  if s = ['i', 'n', 'f'] then some (.float ⟨negative, BinaryFormat.double.infinity⟩)
  else if s = ['n', 'a', 'n'] then some (.float ⟨negative, BinaryFormat.double.infinity + 1⟩)
  else decimal? negative s

/-- A word that is a number or a truth value. -/
def ofWord? : List Char → Option Toml
  | ['t', 'r', 'u', 'e'] => some (.boolean true)
  | ['f', 'a', 'l', 's', 'e'] => some (.boolean false)
  | '0' :: 'x' :: s => wordOfBase? 16 s
  | '0' :: 'o' :: s => wordOfBase? 8 s
  | '0' :: 'b' :: s => wordOfBase? 2 s
  | '+' :: s => signed? false s
  | '-' :: s => signed? true s
  | s => signed? false s

def isWordPart (c : Char) : Bool := c.isAlphanum || c = '_' || c = '+' || c = '-' || c = '.'

def word? (s : List Char) : Option (Toml × List Char) :=
  (ofWord? (s.takeWhile isWordPart)).map (·, s.dropWhile isWordPart)

/-! ### Values -/

mutual

def value? (fuel depth : Nat) (s : List Char) : Option (Draft × List Char) :=
  match fuel with
  | 0 => none
  | fuel + 1 =>
    match s with
    | '"' :: _ | '\'' :: _ => (string? s).map fun (t, s) => (.value (.string t), s)
    | '[' :: s =>
      if depth = 0 then none
      else (items? fuel (depth - 1) s).map fun (vs, s) => (.array vs, s)
    | '\x7b' :: s =>
      if depth = 0 then none
      else do
        let (assignments, s) ← assignments? fuel (depth - 1) true s
        return (← Draft.ofAssignments? assignments, s)
    | s =>
      match Datetime.prefix? s with
      | some (text, s) => some (.value (.datetime (String.ofList text)), s)
      | none => (word? s).map fun (v, s) => (.value v, s)

/-- The items of an array up to its end. A comma may stand after the last one. -/
def items? (fuel depth : Nat) (s : List Char) : Option (List Draft × List Char) :=
  match fuel with
  | 0 => none
  | fuel + 1 =>
    match skipLines false s with
    | ']' :: s => some ([], s)
    | s => do
      let (v, s) ← value? fuel depth s
      match skipLines false s with
      | ']' :: s => return ([v], s)
      | ',' :: s => do
        let (vs, s) ← items? fuel depth s
        return (v :: vs, s)
      | _ => none

/-- The assignments of a table within a line, up to its end. -/
def assignments? (fuel depth : Nat) (first : Bool) (s : List Char) :
    Option (List (List String × Draft) × List Char) :=
  match fuel with
  | 0 => none
  | fuel + 1 =>
    match first, skipSpace s with
    | true, '\x7d' :: s => some ([], s)
    | _, s => do
      let (key, s) ← key? maxDepth s
      let (v, s) ← value? fuel depth (skipSpace (← mark? '=' s))
      match skipSpace s with
      | '\x7d' :: s => return ([(key, v)], s)
      | ',' :: s => do
        let (rest, s) ← assignments? fuel depth false s
        return ((key, v) :: rest, s)
      | _ => none

end

/-! ### Files -/

/-- A statement at the start of a text that is not blank. -/
def statement? : List Char → Option (Statement × List Char)
  | '[' :: '[' :: s => do
    let (key, s) ← key? maxDepth s
    return (.itemHeader key, ← mark? ']' (← mark? ']' s))
  | '[' :: s => do
    let (key, s) ← key? maxDepth s
    return (.header key, ← mark? ']' s)
  | s => do
    let (key, s) ← key? maxDepth s
    let s := skipSpace (← mark? '=' s)
    let (v, s) ← value? (3 * s.length + 3) maxDepth s
    return (.assignment key v, s)

def statements? : Nat → List Char → Option (List Statement)
  | 0, s => if s = [] then some [] else none
  | fuel + 1, s =>
    match skipSpace s with
    | [] => some []
    | s =>
      match lineEnd? s with
      | some s => statements? fuel s
      | none => do
        let (statement, s) ← statement? s
        return statement :: (← statements? fuel (← lineEnd? s))

/-- The text after a byte order mark, if it begins with one. -/
def skipByteOrderMark : List Char → List Char
  | '\ufeff' :: s => s
  | s => s

/-- The table that a settings file holds. -/
def Table.ofText? (text : String) : Option Table := do
  let s := skipByteOrderMark text.toList
  Table.ofStatements? (← statements? (s.length + 1) s)

end Patchbay.Toml
