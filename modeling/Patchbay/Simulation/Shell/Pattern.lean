/-!
# Patterns

A pattern is a text in which a star stands for any characters, a question mark for one, and
brackets for one of those between them. Quoted characters stand for themselves.
-/

namespace Patchbay.Shell

abbrev Letter := Char × Bool

inductive Members where
  | range (first last : Char)
  | named (contains : Char → Bool)

inductive PatternPart where
  | one (c : Char)
  | any
  | many
  | ofSet (negated : Bool) (members : List Members)

abbrev Pattern := List PatternPart

namespace Pattern

/-- The classes of characters that have a name. -/
def classes : List (String × (Char → Bool)) :=
  [("alpha", Char.isAlpha), ("digit", Char.isDigit), ("alnum", Char.isAlphanum),
    ("upper", Char.isUpper), ("lower", Char.isLower),
    ("space", fun c => c ∈ [' ', '\t', '\n', '\x0b', '\x0c', '\r']),
    ("blank", fun c => c ∈ [' ', '\t']), ("cntrl", fun c => c.toNat < 0x20 || c.toNat = 0x7f),
    ("graph", fun c => 0x20 < c.toNat && c.toNat < 0x7f),
    ("print", fun c => 0x20 ≤ c.toNat && c.toNat < 0x7f),
    ("punct", fun c => 0x20 < c.toNat && c.toNat < 0x7f && !c.isAlphanum),
    ("xdigit", fun c => c.isDigit || ('a' ≤ c && c ≤ 'f') || ('A' ≤ c && c ≤ 'F'))]

def className? (s : List Char) : Option (String × Nat) :=
  match s with
  | '[' :: ':' :: s =>
    let name := s.takeWhile Char.isAlpha
    match s.drop name.length with
    | ':' :: ']' :: _ => some (String.ofList name, name.length + 4)
    | _ => none
  | _ => none

/-- The members of a set up to its closing bracket, and what follows it. -/
def members (first : Bool) : Nat → List Letter → Option (List Members × List Letter)
  | 0, _ => none
  | _, [] => none
  | fuel + 1, (c, quoted) :: s =>
    let go (m : Members) (s : List Letter) : Option (List Members × List Letter) :=
      (members false fuel s).map fun (ms, s) => (m :: ms, s)
    if c = ']' ∧ ¬ quoted ∧ ¬ first then some ([], s)
    else
      match className? ((c, quoted) :: s |>.map Prod.fst) with
      | some (name, length) =>
        go (.named ((classes.lookup name).getD fun _ => false)) (s.drop (length - 1))
      | none =>
        match s with
        | ('-', false) :: (d, q) :: s =>
          if d = ']' ∧ ¬ q then go (.range c c) (('-', false) :: (d, q) :: s)
          else go (.range c d) s
        | s => go (.range c c) s

def ofLetters : Nat → List Letter → Pattern
  | 0, _ => []
  | _, [] => []
  | fuel + 1, (c, true) :: s => .one c :: ofLetters fuel s
  | fuel + 1, ('*', false) :: s => .many :: ofLetters fuel s
  | fuel + 1, ('?', false) :: s => .any :: ofLetters fuel s
  | fuel + 1, ('[', false) :: s =>
    let (negated, inner) :=
      match s with
      | ('!', false) :: s => (true, s)
      | s => (false, s)
    match members true (inner.length + 1) inner with
    | some (ms, s) => .ofSet negated ms :: ofLetters fuel s
    | none => .one '[' :: ofLetters fuel s
  | fuel + 1, (c, false) :: s => .one c :: ofLetters fuel s

def Members.contains (c : Char) : Members → Bool
  | .range first last => first ≤ c && c ≤ last
  | .named contains => contains c

def fits : Pattern → List Char → Bool
  | [], s => s.isEmpty
  | .many :: ps, [] => fits ps []
  | .many :: ps, c :: s => fits ps (c :: s) || fits (.many :: ps) s
  | .any :: ps, _ :: s => fits ps s
  | .one d :: ps, c :: s => c = d && fits ps s
  | .ofSet negated ms :: ps, c :: s => (ms.any (Members.contains c) != negated) && fits ps s
  | _ :: _, [] => false
termination_by ps s => ps.length + s.length

end Pattern

def patternOf (letters : List Letter) : Pattern := Pattern.ofLetters (letters.length + 1) letters

/-- Whether letters make a pattern that more than one text can fit. -/
def isOpen (letters : List Letter) : Bool :=
  letters.any fun (c, quoted) => !quoted && c ∈ ['*', '?', '[']

/-- A text without the start that fits a pattern: the shortest or the longest one. -/
def cutStart (p : Pattern) (longest : Bool) (s : List Char) : List Char :=
  let lengths := List.range (s.length + 1)
  let lengths := if longest then lengths.reverse else lengths
  match lengths.find? fun n => p.fits (s.take n) with
  | some n => s.drop n
  | none => s

/-- A text without the end that fits a pattern: the shortest or the longest one. -/
def cutEnd (p : Pattern) (longest : Bool) (s : List Char) : List Char :=
  let lengths := List.range (s.length + 1)
  let lengths := if longest then lengths else lengths.reverse
  match lengths.find? fun n => p.fits (s.drop n) with
  | some n => s.take n
  | none => s

end Patchbay.Shell
