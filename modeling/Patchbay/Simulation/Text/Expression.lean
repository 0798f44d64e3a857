/-!
# Regular expressions

A regular expression says which texts fit. Of the places where one fits, the first counts, and there
the longest text. It has two notations, in one of which signs stand for themselves unless a
backslash comes before them.
-/

namespace Patchbay.Text

/-- A regular expression. -/
inductive Expression where
  | empty
  /-- A character of which something holds. -/
  | one (fits : Char → Bool)
  | both (a b : Expression)
  | either (a b : Expression)
  /-- So often at least, and at most. -/
  | times (a : Expression) (least : Nat) (most : Option Nat)
  | group (n : Nat) (a : Expression)
  | again (n : Nat)
  | start
  | stop
  /-- Whether the place is at the edge of a word. -/
  | edge (isEdge : Bool)
  | wordStart
  | wordStop

/-- Where a text has fit so far: the characters before in reverse, those that come, and groups. -/
structure Cursor where
  before : List Char
  rest : List Char
  groups : List (Nat × List Char) := []

namespace Cursor

def isWordPart (c : Char) : Bool := c.isAlphanum || c = '_'

/-- Whether there is a word before the place, and after it. -/
def wordAround (p : Cursor) : Bool × Bool :=
  (p.before.head?.any isWordPart, p.rest.head?.any isWordPart)

def position (p : Cursor) : Nat := p.before.length

/-- The place after a text, if it comes. -/
def skip? (ignoresCase : Bool) (p : Cursor) (t : List Char) : Option Cursor :=
  let same (a b : Char) : Bool := a = b || (ignoresCase && a.toLower = b.toLower)
  let taken := p.rest.take t.length
  if taken.length = t.length && (taken.zip t).all fun (a, b) => same a b then
    some { p with before := taken.reverse ++ p.before, rest := p.rest.drop t.length }
  else none

end Cursor

namespace Expression

/-- All places up to which a text fits, as the expression prefers them. -/
def places (ignoresCase : Bool) : Nat → Expression → Cursor → List Cursor
  | 0, _, _ => []
  | fuel + 1, e, p =>
    let on (b : Bool) : List Cursor := if b then [p] else []
    match e with
    | empty => [p]
    | one fits =>
      match p.rest with
      | [] => []
      | c :: s =>
        if fits c || (ignoresCase && (fits c.toLower || fits c.toUpper)) then
          [{ p with before := c :: p.before, rest := s }]
        else []
    | both a b => (places ignoresCase fuel a p).flatMap (places ignoresCase fuel b)
    | either a b => places ignoresCase fuel a p ++ places ignoresCase fuel b p
    | times a least most =>
      if most = some 0 then [p]
      else
        let more := (places ignoresCase fuel a p).flatMap fun q =>
          if q.position = p.position ∧ least = 0 then []
          else places ignoresCase fuel (.times a (least - 1) (most.map (· - 1))) q
        if least = 0 then more ++ [p] else more
    | group n a =>
      (places ignoresCase fuel a p).map fun q =>
        let t := (q.before.take (q.position - p.position)).reverse
        { q with groups := (n, t) :: q.groups.filter (·.1 ≠ n) }
    | again n =>
      match p.groups.lookup n with
      | some t => (p.skip? ignoresCase t).toList
      | none => []
    | start => on p.before.isEmpty
    | stop => on p.rest.isEmpty
    | edge isEdge => on ((p.wordAround.1 != p.wordAround.2) = isEdge)
    | wordStart => on (!p.wordAround.1 && p.wordAround.2)
    | wordStop => on (p.wordAround.1 && !p.wordAround.2)

def size : Expression → Nat
  | both a b | either a b => a.size + b.size + 1
  | times a _ _ | group _ a => a.size + 1
  | _ => 1

structure Found where
  /-- How many characters lie before it. -/
  position : Nat
  text : List Char
  groups : List (Nat × List Char)

/-- The longest text that fits at a place. -/
def longestAt (e : Expression) (ignoresCase : Bool) (p : Cursor) : Option Found :=
  let ends := places ignoresCase (e.size * (p.rest.length + 2) + 64) e p
  let best := ends.foldl (fun best q =>
    match best with
    | some b => if b.position < q.position then some q else best
    | none => some q) (none : Option Cursor)
  best.map fun q =>
    { position := p.position, text := (q.before.take (q.position - p.position)).reverse
      groups := q.groups }

def findFrom (e : Expression) (ignoresCase : Bool) (before : List Char) :
    List Char → Option Found
  | [] => e.longestAt ignoresCase { before, rest := [] }
  | c :: s =>
    match e.longestAt ignoresCase { before, rest := c :: s } with
    | some found => some found
    | none => findFrom e ignoresCase (c :: before) s

/-! ### Notation -/

def class? (name : String) : Option (Char → Bool) :=
  match name with
  | "alpha" => some Char.isAlpha
  | "digit" => some Char.isDigit
  | "alnum" => some Char.isAlphanum
  | "upper" => some Char.isUpper
  | "lower" => some Char.isLower
  | "space" => some fun c => c ∈ [' ', '\t', '\n', '\x0b', '\x0c', '\r']
  | "blank" => some fun c => c = ' ' || c = '\t'
  | "punct" => some fun c => 32 < c.toNat && c.toNat < 127 && !c.isAlphanum
  | "print" => some fun c => 32 ≤ c.toNat && c.toNat < 127
  | "graph" => some fun c => 32 < c.toNat && c.toNat < 127
  | "cntrl" => some fun c => c.toNat < 32 || c.toNat = 127
  | "xdigit" => some fun c => c.isDigit || ('a' ≤ c && c ≤ 'f') || ('A' ≤ c && c ≤ 'F')
  | _ => none

def bracket : Nat → Bool → List Char → Except String ((Char → Bool) × List Char)
  | 0, _, _ | _, _, [] => .error "Unmatched [, [^, [:, [., or [="
  | fuel + 1, isFirst, c :: s => do
    let more (fits : Char → Bool) (s : List Char) : Except String ((Char → Bool) × List Char) := do
      let (others, rest) ← bracket fuel false s
      return (fun d => fits d || others d, rest)
    match c, s with
    | ']', s => if isFirst then more (· = ']') s else return (fun _ => false, s)
    | '[', ':' :: s =>
      let name := s.takeWhile (· ≠ ':')
      match class? (String.ofList name), s.drop name.length with
      | some fits, ':' :: ']' :: rest => more fits rest
      | _, _ => throw "Invalid character class name"
    | c, '-' :: d :: s =>
      if d = ']' then more (· = c) ('-' :: d :: s)
      else if d < c then throw "Invalid range end"
      else more (fun x => c ≤ x && x ≤ d) s
    | c, s => more (· = c) s

def bounds (closing : List Char) (s : List Char) :
    Option (Nat × Option Nat × List Char) :=
  let number (ds : List Char) : Nat := ds.foldl (fun n c => 10 * n + (c.toNat - '0'.toNat)) 0
  let (a, rest) := s.span Char.isDigit
  let after (rest : List Char) : Option (List Char) :=
    if closing.isPrefixOf rest then some (rest.drop closing.length) else none
  match rest with
  | ',' :: rest =>
    let (b, rest) := rest.span Char.isDigit
    (after rest).map fun s => (number a, if b.isEmpty then none else some (number b), s)
  | rest => if a.isEmpty then none else (after rest).map fun s => (number a, some (number a), s)

/-- A reader's place: what comes, and how many groups there have been. -/
abbrev Reader := List Char × Nat

inductive Sign where
  | opening | closing | bar | star | plus | question | brace
deriving DecidableEq

def signs : List (Char × Sign) :=
  [('(', .opening), (')', .closing), ('|', .bar), ('+', .plus), ('?', .question), ('\x7b', .brace)]

/-- The sign that a text begins with. In the extended notation signs have no backslash. -/
def sign? (extended : Bool) : List Char → Option (Sign × List Char)
  | '*' :: s => some (.star, s)
  | '\\' :: c :: s => if extended then none else (signs.lookup c).map (·, s)
  | c :: s => if extended then (signs.lookup c).map (·, s) else none
  | [] => none

mutual

def alternatives (extended : Bool) (fuel depth : Nat) (r : Reader) :
    Except String (Expression × Reader) :=
  match fuel with
  | 0 => throw "Regular expression too big"
  | fuel + 1 => do
    let (a, r) ← sequence extended fuel depth true .empty r
    match sign? extended r.1 with
    | some (.bar, s) =>
      let (b, r) ← alternatives extended fuel depth (s, r.2)
      return (.either a b, r)
    | _ => return (a, r)

/-- Expressions one after the other, after some of them. -/
def sequence (extended : Bool) (fuel depth : Nat) (isFirst : Bool) (before : Expression)
    (r : Reader) : Except String (Expression × Reader) :=
  match fuel with
  | 0 => throw "Regular expression too big"
  | fuel + 1 => do
    let go (a : Expression) (r : Reader) : Except String (Expression × Reader) := do
      let (a, r) ← repeated extended fuel a r
      sequence extended fuel depth false (.both before a) r
    match r.1, sign? extended r.1 with
    | [], _ => return (before, r)
    | _, some (.bar, _) => return (before, r)
    | _, some (.closing, s) =>
      if depth = 0 then
        if extended then go (.one (· = ')')) (s, r.2) else throw "Unmatched ) or \\)"
      else return (before, r)
    | _, some (.opening, s) =>
      let n := r.2 + 1
      let (a, rest, count) ← alternatives extended fuel (depth + 1) (s, n)
      match sign? extended rest with
      | some (.closing, s) => go (.group n a) (s, count)
      | _ => throw "Unmatched ( or \\("
    | c :: s, some (_, rest) =>
      if extended && isFirst then sequence extended fuel depth true before (rest, r.2)
      else
        let literal := if c = '\\' then s.headD c else c
        go (.one (· = literal)) (rest, r.2)
    | '.' :: s, none => go (.one fun _ => true) (s, r.2)
    | '[' :: '^' :: s, none =>
      let (fits, rest) ← bracket (s.length + 1) true s
      go (.one fun c => !fits c) (rest, r.2)
    | '[' :: s, none =>
      let (fits, rest) ← bracket (s.length + 1) true s
      go (.one fits) (rest, r.2)
    | '^' :: s, none =>
      if extended || isFirst then sequence extended fuel depth true (.both before .start) (s, r.2)
      else go (.one (· = '^')) (s, r.2)
    | '$' :: s, none =>
      let isLast :=
        match s, sign? extended s with
        | [], _ => true
        | _, some (.closing, _) | _, some (.bar, _) => true
        | _, _ => false
      if extended || isLast then sequence extended fuel depth false (.both before .stop) (s, r.2)
      else go (.one (· = '$')) (s, r.2)
    | ['\\'], none => throw "Trailing backslash"
    | '\\' :: c :: s, none =>
      let isWordPart := Cursor.isWordPart
      let isSpace (c : Char) : Bool := c ∈ [' ', '\t', '\n', '\x0b', '\x0c', '\r']
      let a : Except String Expression :=
        match c with
        | 'w' => .ok (.one isWordPart)
        | 'W' => .ok (.one fun c => !isWordPart c)
        | 's' => .ok (.one isSpace)
        | 'S' => .ok (.one fun c => !isSpace c)
        | 'b' => .ok (.edge true)
        | 'B' => .ok (.edge false)
        | '<' => .ok .wordStart
        | '>' => .ok .wordStop
        | 'n' => .ok (.one (· = '\n'))
        | 't' => .ok (.one (· = '\t'))
        | c =>
          if c.isDigit ∧ c ≠ '0' then
            let n := c.toNat - '0'.toNat
            if n ≤ r.2 then .ok (.again n) else .error "Invalid back reference"
          else .ok (.one (· = c))
      go (← a) (s, r.2)
    | c :: s, none => go (.one (· = c)) (s, r.2)

/-- An expression with the repetitions that follow it. -/
def repeated (extended : Bool) (fuel : Nat) (a : Expression) (r : Reader) :
    Except String (Expression × Reader) :=
  match fuel with
  | 0 => throw "Regular expression too big"
  | fuel + 1 =>
    match sign? extended r.1 with
    | some (.star, s) => repeated extended fuel (.times a 0 none) (s, r.2)
    | some (.plus, s) => repeated extended fuel (.times a 1 none) (s, r.2)
    | some (.question, s) => repeated extended fuel (.times a 0 (some 1)) (s, r.2)
    | some (.brace, s) =>
      match bounds (if extended then ['\x7d'] else ['\\', '\x7d']) s with
      | some (least, most, s) => repeated extended fuel (.times a least most) (s, r.2)
      | none => if extended then return (a, r) else throw "Invalid content of \\\x7b\\\x7d"
    | _ => return (a, r)

end

def ofText (extended : Bool) (t : String) : Except String Expression := do
  let (e, _) ← alternatives extended (8 * (t.length + 2)) 0 (t.toList, 0)
  return e

/-- The expression that only a text fits. -/
def ofPlain (t : List Char) : Expression :=
  t.foldr (fun c e => .both (.one (· = c)) e) .empty

end Expression

end Patchbay.Text
