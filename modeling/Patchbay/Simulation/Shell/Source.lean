import Patchbay.Simulation.Shell.Grammar

/-!
# Scripts as they are read

A script is read character by character. This module says what a reader of scripts keeps in mind,
and which signs, keys and names it knows.
-/

namespace Patchbay.Shell

/-- Where a script goes wrong, and how. -/
structure ParseFault where
  line : Nat
  message : String
deriving Repr

inductive Token where
  | word (w : Word)
  | keyword (k : String)
  | sign (s : String)
  | redirection (channel : Nat) (direction : Direction) (stripsTabs : Bool)
  | newline
  | eof
deriving Inhabited

/-- A text that follows after the line. -/
structure Wanted where
  number : Nat
  delimiter : List Char
  /-- Whether the text stands for itself. -/
  literal : Bool
  /-- Whether tabs at the start of lines are left out. -/
  stripsTabs : Bool

/-- A word in whose place other text is read. -/
structure Replacement where
  word : String
  /-- How many characters come after the text. -/
  after : Nat
  /-- Whether the text ends in a blank, so that the next word may stand for other text too. -/
  goesOn : Bool

/-- A script in the middle of being read. -/
structure Source where
  rest : List Char
  line : Nat := 1
  /-- A token that was put back. -/
  ahead : Option Token := none
  wanted : List Wanted := []
  /-- The texts that were read, by their numbers. -/
  texts : List (Nat × Word) := []
  nextText : Nat := 0
  /-- Words that stand for other text where a command begins. -/
  aliases : List (String × String) := []
  /-- The words whose text is being read. -/
  replaced : List Replacement := []

abbrev Parser := StateT Source (Except ParseFault)

namespace Parser

def fail {α : Type} (message : String) : Parser α := do
  throw ⟨(← get).line, s!"Syntax error: {message}"⟩

def tokenText : Token → String
  | .word _ => "word"
  | .keyword k => s!"\"{k}\""
  | .sign t => s!"\"{t}\""
  | .redirection .. => "redirection"
  | .newline => "newline"
  | .eof => "end of file"

def unexpected {α : Type} (t : Token) : Parser α := fail s!"{tokenText t} unexpected"

/-- A token stands where another one has to. -/
def expected {α : Type} (t : Token) (other : String) : Parser α :=
  fail s!"{tokenText t} unexpected (expecting \"{other}\")"

def keywords : List String :=
  ["!", "case", "do", "done", "elif", "else", "esac", "fi", "for", "if", "in", "then", "until",
    "while", "\x7b", "\x7d"]

/-- Commands that belong to the shell and cannot be defined anew. -/
def specialCommands : List String :=
  [".", ":", "break", "continue", "eval", "exec", "exit", "export", "local", "readonly", "return",
    "set", "shift", "times", "trap", "unset"]

def isNameStart (c : Char) : Bool := c.isAlpha || c = '_'

def isNamePart (c : Char) : Bool := c.isAlphanum || c = '_'

def isName (t : List Char) : Bool := (t.head?.any isNameStart) && t.all isNamePart

/-- Whether a character alone is the name of a parameter. -/
def isSpecial (c : Char) : Bool := c ∈ ['*', '@', '#', '?', '-', '$', '!'] || c.isDigit

def isBreak (c : Char) : Bool := c ∈ [' ', '\t', '\n', ';', '&', '|', '(', ')', '<', '>']

def linesIn (s : List Char) : Nat := s.count '\n'

def skip (s rest : List Char) : Parser Unit :=
  modify fun source => { source with rest, line := source.line + linesIn s }

/-- Neighbouring texts of a kind joined. -/
def join : List Piece → List Piece
  | .text t q :: ps =>
    match join ps with
    | .text u r :: ps => if q = r then .text (t ++ u) q :: ps else .text t q :: .text u r :: ps
    | ps => .text t q :: ps
  | p :: ps => p :: join ps
  | [] => []

/-- Where pieces of a word stand. -/
inductive Mode where
  | plain
  /-- Between double quotes. -/
  | quoted
  /-- In braces, up to their end. -/
  | brace
  | quotedBrace
  /-- In a calculation, with so many open brackets. -/
  | calculation (brackets : Nat)
  /-- In a text of its own. -/
  | document
deriving DecidableEq

namespace Mode

def isQuoted : Mode → Bool
  | plain | brace => false
  | _ => true

/-- The characters that a backslash takes the meaning from. -/
def escapable : Mode → List Char
  | quoted | calculation _ => ['$', '\x60', '"', '\\']
  | quotedBrace => ['$', '\x60', '"', '\\', '\x7d']
  | document => ['$', '\x60', '\\']
  | plain | brace => []

/-- What is wrong when the script ends here, if anything is. -/
def endFault? : Mode → Option String
  | plain | document => none
  | brace => some "Missing '\x7d'"
  | quoted | quotedBrace => some "Unterminated quoted string"
  | calculation _ => some "Missing '))'"

end Mode

/-- The text between backquotes, and what follows them. -/
def backquoted? (inQuotes : Bool) : List Char → Option (List Char × List Char)
  | [] => none
  | '\x60' :: s => some ([], s)
  | '\\' :: c :: s =>
    let escaped := c ∈ ['\\', '$', '\x60'] || (inQuotes && c = '"')
    (backquoted? inQuotes s).map fun (t, s) => (if escaped then c :: t else '\\' :: c :: t, s)
  | c :: s => (backquoted? inQuotes s).map fun (t, s) => (c :: t, s)

/-- The text after blanks and a comment. -/
def dropBlanks : List Char → List Char
  | '\\' :: '\n' :: s => dropBlanks s
  | ' ' :: s | '\t' :: s => dropBlanks s
  | '#' :: s => s.dropWhile (· ≠ '\n')
  | s => s

def skipBlanks : Parser Unit := do
  let s := (← get).rest
  let rest := dropBlanks s
  skip (s.take (s.length - rest.length)) rest

/-- The delimiter of a text, whether it is quoted, and what follows it. In a quoted part, only its
quote ends the part. -/
def delimiter (quote : Option Char) : List Char → List Char × Bool × List Char
  | [] => ([], false, [])
  | '\\' :: c :: s =>
    if quote = some '\'' then
      let (t, q, s) := delimiter quote (c :: s)
      ('\\' :: t, q, s)
    else
      let (t, _, s) := delimiter quote s
      (c :: t, true, s)
  | c :: s =>
    if quote = some c then
      let (t, _, s) := delimiter none s
      (t, true, s)
    else if quote.isNone && (c = '\'' || c = '"') then
      let (t, _, s) := delimiter (some c) s
      (t, true, s)
    else if quote.isNone && isBreak c then ([], false, c :: s)
    else
      let (t, q, s) := delimiter quote s
      (c :: t, q, s)

def direction : Char → List Char → Direction × Bool × List Char
  | '<', '<' :: '-' :: s => (.here 0, true, s)
  | '<', '<' :: s => (.here 0, false, s)
  | '<', '&' :: s => (.likeInput, false, s)
  | '<', '>' :: s => (.both, false, s)
  | '>', '>' :: s => (.append, false, s)
  | '>', '&' :: s => (.likeOutput, false, s)
  | '>', '|' :: s => (.overwrite, false, s)
  | c, s => (if c = '<' then .input else .output, false, s)

def sign? : List Char → Option (String × List Char)
  | '&' :: '&' :: s => some ("&&", s)
  | '&' :: s => some ("&", s)
  | '|' :: '|' :: s => some ("||", s)
  | '|' :: s => some ("|", s)
  | ';' :: ';' :: s => some (";;", s)
  | ';' :: s => some (";", s)
  | '(' :: s => some ("(", s)
  | ')' :: s => some (")", s)
  | _ => none

/-- The use that follows a name in braces, and whether a word follows. -/
def useOf : List Char → Option (Use × List Char)
  | ':' :: '-' :: s => some (.orElse true, s)
  | '-' :: s => some (.orElse false, s)
  | ':' :: '=' :: s => some (.orAssign true, s)
  | '=' :: s => some (.orAssign false, s)
  | ':' :: '?' :: s => some (.orFail true, s)
  | '?' :: s => some (.orFail false, s)
  | ':' :: '+' :: s => some (.andThen true, s)
  | '+' :: s => some (.andThen false, s)
  | '%' :: '%' :: s => some (.withoutEnd true, s)
  | '%' :: s => some (.withoutEnd false, s)
  | '#' :: '#' :: s => some (.withoutStart true, s)
  | '#' :: s => some (.withoutStart false, s)
  | _ => none

/-- The name of a parameter at the start of a text in braces. -/
def bracedName? : List Char → Option (List Char × List Char)
  | [] => none
  | c :: s =>
    if isNameStart c then some ((c :: s).takeWhile isNamePart, (c :: s).dropWhile isNamePart)
    else if c.isDigit then some ((c :: s).takeWhile Char.isDigit, (c :: s).dropWhile Char.isDigit)
    else if isSpecial c then some ([c], s)
    else none

/-- Whether a token ends a row of commands. -/
def isEnd : Token → Bool
  | .eof => true
  | .sign t => t ∈ [")", ";;"]
  | .keyword k => k ∈ ["do", "done", "elif", "else", "esac", "fi", "then", "\x7d"]
  | _ => false

def assignment? : Word → Option (String × Word)
  | .text t false :: ps =>
    let (name, rest) := t.toList.span (· ≠ '=')
    match rest with
    | '=' :: value =>
      if isName name then
        some (String.ofList name,
          if value = [] then ps else .text (String.ofList value) false :: ps)
      else none
    | _ => none
  | _ => none

def putBack (t : Token) : Parser Unit := modify fun source => { source with ahead := some t }

/-- The lines up to a delimiter, and the text after it. -/
def hereLines (w : Wanted) : Nat → List Char → List Char × List Char
  | 0, s => ([], s)
  | fuel + 1, s =>
    let s := if w.stripsTabs then s.dropWhile (· = '\t') else s
    let line := s.takeWhile (· ≠ '\n')
    let rest := s.drop (line.length + 1)
    if line = w.delimiter then ([], rest)
    else if line.length = s.length then (line, [])
    else
      let (t, s) := hereLines w fuel rest
      (line ++ '\n' :: t, s)

end Parser

end Patchbay.Shell
