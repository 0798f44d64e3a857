import Patchbay.Simulation.Programs.Streams
import Patchbay.Simulation.Text.Expression

/-!
# Scripts that edit lines

A script is a row of commands. A command can hold for certain lines only, or for the lines from one
to another; groups of commands stand in braces.
-/

namespace Patchbay.Programs.Sed

open Text (Expression)

inductive Address where
  | line (n : Nat)
  | last
  | fits (e : Expression) (ignoresCase : Bool)
  /-- From a line on, each so many lines. -/
  | step (first every : Nat)

/-- What is put in the place of a text: characters, or a group of what was found. -/
inductive Part where
  | char (c : Char)
  | group (n : Nat)
  /-- The letters that follow become large or small, one or all, or stay. -/
  | case (mode : Char)

inductive Action where
  | replace (e : Expression) (parts : List Part) (each : Bool) (nth : Nat) (prints : Bool)
    (ignoresCase : Bool)
  | print
  | drop
  | dropFirst
  | quit (code : Nat) (prints : Bool)
  | next
  | appendNext
  | printFirst
  | hold (appends : Bool)
  | fetch (appends : Bool)
  | swap
  | number
  | list
  | translate (pairs : List (Char × Char))
  | before (text : List Char)
  | after (text : List Char)
  | instead (text : List Char)
  | label (name : String)
  | go (condition : Option Bool) (name : String)
  | group (size : Nat)
  | nothing

structure Command where
  first : Option Address := none
  last : Option Address := none
  negated : Bool := false
  action : Action

/-! ### Reading -/

def delimited (d : Char) : List Char → Option (List Char × List Char)
  | [] => none
  | '\\' :: c :: s =>
    (delimited d s).map fun (t, rest) =>
      (if c = d ∧ d ≠ '\\' then (if c.isAlphanum ∨ c = '&' then '\\' :: c :: t else c :: t)
        else '\\' :: c :: t, rest)
  | c :: s => if c = d then some ([], s) else (delimited d s).map fun (t, rest) => (c :: t, rest)

/-- The text of an expression up to a delimiter, which in brackets is none. -/
def delimitedExpression (d : Char) : Bool → List Char → Option (List Char × List Char)
  | _, [] => none
  | inside, '\\' :: c :: s =>
    (delimitedExpression d inside s).map fun (t, rest) =>
      (if c = d then c :: t else '\\' :: c :: t, rest)
  | inside, c :: s =>
    if c = d && !inside then some ([], s)
    else
      let inside := if c = '[' then true else if c = ']' then false else inside
      (delimitedExpression d inside s).map fun (t, rest) => (c :: t, rest)

/-- The parts of a text that is put in the place of another. -/
def partsOf : List Char → List Part
  | [] => []
  | '&' :: s => .group 0 :: partsOf s
  | '\\' :: c :: s =>
    let p : Part :=
      if c.isDigit then .group (c.toNat - '0'.toNat)
      else if c = 'n' then .char '\n'
      else if c = 't' then .char '\t'
      else if c ∈ ['U', 'L', 'E', 'u', 'l'] then .case c
      else .char c
    p :: partsOf s
  | c :: s => .char c :: partsOf s

def number (s : List Char) : Nat × List Char :=
  let ds := s.takeWhile Char.isDigit
  (ds.foldl (fun n c => 10 * n + (c.toNat - '0'.toNat)) 0, s.drop ds.length)

def skip (s : List Char) : List Char := s.dropWhile fun c => c = ' ' || c = '\t'

def address (extended : Bool) (s : List Char) : Except String (Option Address × List Char) := do
  match s with
  | '$' :: s => return (some .last, s)
  | '/' :: s | '\\' :: '/' :: s =>
    match delimitedExpression '/' false s with
    | none => throw "unterminated address regex"
    | some (t, rest) =>
      let e ← Expression.ofText extended (String.ofList t)
      match rest with
      | 'I' :: rest => return (some (.fits e true), rest)
      | rest => return (some (.fits e false), rest)
  | c :: _ =>
    if c.isDigit then
      let (n, rest) := number s
      match rest with
      | '~' :: rest =>
        let (every, rest) := number rest
        return (some (.step n every), rest)
      | rest => return (some (.line n), rest)
    else return (none, s)
  | [] => return (none, [])

structure Flags where
  each : Bool := false
  nth : Nat := 1
  prints : Bool := false
  ignoresCase : Bool := false

def flags : Nat → Flags → List Char → Flags × List Char
  | 0, f, s => (f, s)
  | fuel + 1, f, s =>
    match s with
    | 'g' :: s => flags fuel { f with each := true } s
    | 'p' :: s => flags fuel { f with prints := true } s
    | 'i' :: s | 'I' :: s => flags fuel { f with ignoresCase := true } s
    | c :: _ =>
      if c.isDigit then
        let (n, rest) := number s
        flags fuel { f with nth := n } rest
      else (f, s)
    | [] => (f, [])

/-- The text of a command up to the end of its line, where a backslash takes the line end in. -/
def textOf : List Char → List Char × List Char
  | [] => ([], [])
  | '\\' :: c :: s =>
    let (t, rest) := textOf s
    (c :: t, rest)
  | '\n' :: s => ([], s)
  | c :: s =>
    let (t, rest) := textOf s
    (c :: t, rest)

/-- A command without its addresses, and what follows. -/
def action (extended : Bool) (s : List Char) : Except String (Action × List Char) := do
  let text (s : List Char) (f : List Char → Action) : Except String (Action × List Char) := do
    let s := skip s
    let s :=
      match s with
      | '\\' :: '\n' :: s => s
      | '\\' :: s => s
      | s => s
    let (t, rest) := textOf s
    return (f t, rest)
  let name (s : List Char) : String × List Char :=
    let s := skip s
    let t := s.takeWhile fun c => c ≠ '\n' && c ≠ ';'
    (String.ofList t, s.drop t.length)
  match s with
  | 's' :: d :: s =>
    match delimitedExpression d false s with
    | none => throw "unterminated `s' command"
    | some (pattern, s) =>
      match delimited d s with
      | none => throw "unterminated `s' command"
      | some (replacement, s) =>
        let e ← Expression.ofText extended (String.ofList pattern)
        let (f, rest) := flags (s.length + 1) {} s
        return (.replace e (partsOf replacement) f.each f.nth f.prints f.ignoresCase, rest)
  | 'y' :: d :: s =>
    match delimited d s with
    | none => throw "unterminated `y' command"
    | some (a, s) =>
      match delimited d s with
      | none => throw "unterminated `y' command"
      | some (b, rest) =>
        if a.length ≠ b.length then throw "strings for `y' command are different lengths"
        return (.translate (a.zip b), rest)
  | 'p' :: s => return (.print, s)
  | 'd' :: s => return (.drop, s)
  | 'D' :: s => return (.dropFirst, s)
  | 'P' :: s => return (.printFirst, s)
  | 'n' :: s => return (.next, s)
  | 'N' :: s => return (.appendNext, s)
  | 'h' :: s => return (.hold false, s)
  | 'H' :: s => return (.hold true, s)
  | 'g' :: s => return (.fetch false, s)
  | 'G' :: s => return (.fetch true, s)
  | 'x' :: s => return (.swap, s)
  | '=' :: s => return (.number, s)
  | 'l' :: s => return (.list, s)
  | 'q' :: s =>
    let (n, rest) := number (skip s)
    return (.quit n true, rest)
  | 'Q' :: s =>
    let (n, rest) := number (skip s)
    return (.quit n false, rest)
  | 'i' :: s => text s .before
  | 'a' :: s => text s .after
  | 'c' :: s => text s .instead
  | ':' :: s =>
    let (n, rest) := name s
    return (.label n, rest)
  | 'b' :: s =>
    let (n, rest) := name s
    return (.go none n, rest)
  | 't' :: s =>
    let (n, rest) := name s
    return (.go (some true) n, rest)
  | 'T' :: s =>
    let (n, rest) := name s
    return (.go (some false) n, rest)
  | '#' :: s => return (.nothing, s.dropWhile (· ≠ '\n'))
  | '\x7b' :: s => return (.group 0, s)
  | '\x7d' :: s => return (.nothing, s)
  | c :: _ => throw s!"unknown command: `{c}'"
  | [] => throw "missing command"

/-- The commands of a script, each with how many groups are open around it. -/
def commands (extended : Bool) : Nat → Nat → List Char → Except String (List (Nat × Command))
  | 0, _, _ => .ok []
  | fuel + 1, depth, s => do
    let s := s.dropWhile fun c => c ∈ [' ', '\t', '\n', ';']
    match s with
    | [] => return []
    | '\x7d' :: s =>
      if depth = 0 then throw "unexpected `\x7d'"
      commands extended fuel (depth - 1) s
    | s =>
      let (first, s) ← address extended s
      let (last, s) ←
        match first, skip s with
        | some _, ',' :: s => address extended (skip s)
        | _, _ => pure (none, s)
      let s := skip s
      let (negated, s) :=
        match s with
        | '!' :: s => (true, skip s)
        | s => (false, s)
      let (a, rest) ← action extended s
      let c : Command := { first, last, negated, action := a }
      let inner := if a matches .group _ then depth + 1 else depth
      let rest' := skip rest
      match rest'.head? with
      | none | some '\n' | some ';' | some '\x7d' => pure ()
      | some _ =>
        match a with
        | .group _ | .before _ | .after _ | .instead _ | .nothing => pure ()
        | _ => throw "unknown option to command"
      return (depth, c) :: (← commands extended fuel inner rest)

/-- A script: groups know how many of the commands that follow belong to them. -/
def script (extended : Bool) (t : String) : Except String (List Command) := do
  let cs ← commands extended (t.length + 1) 0 t.toList
  let rec sized : List (Nat × Command) → List Command
    | [] => []
    | (depth, c) :: rest =>
      let c :=
        match c.action with
        | .group _ => { c with action := .group (rest.takeWhile fun (d, _) => depth < d).length }
        | _ => c
      c :: sized rest
  return sized cs

end Patchbay.Programs.Sed
