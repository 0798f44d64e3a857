import Patchbay.Simulation.Programs.Sed.Script

/-!
# The program that edits lines

The commands of a script are run on each line: texts that fit give way to others, lines are printed,
dropped, put in front or behind.

The script is an argument or stands in files; it is run on the lines of files, and what comes of it
is printed or put into the files.
-/

namespace Patchbay.Programs.Sed

open Text (Expression)

structure Editor where
  pattern : List Char := []
  held : List Char := []
  /-- The lines that come. -/
  rest : List (List Char)
  line : Nat := 0
  printed : List (List Char) := []
  /-- What is printed after the line. -/
  behind : List (List Char) := []
  hasReplaced : Bool := false
  /-- The numbers of the commands that hold until a line comes. -/
  begun : List Nat := []
  stops : Option Nat := none

namespace Editor

def print (e : Editor) (t : List Char) : Editor := { e with printed := t :: e.printed }

def fits (e : Editor) : Address → Bool
  | .line n => e.line = n
  | .last => e.rest.isEmpty
  | .fits x ignoresCase => (x.findFrom ignoresCase [] e.pattern).isSome
  | .step first every =>
    if every = 0 then e.line = first else first ≤ e.line && (e.line - first) % every = 0

/-- Whether a command holds for the line. -/
def holds (e : Editor) (index : Nat) (c : Command) : Bool × Editor :=
  let (r, e) :=
    match c.first, c.last with
    | none, _ => (true, e)
    | some a, none => (e.fits a, e)
    | some a, some b =>
      let close : Editor := { e with begun := e.begun.filter (· ≠ index) }
      if e.begun.contains index then
        let ends : Bool :=
          match b with
          | .line n => n ≤ e.line
          | b => e.fits b
        let past : Bool :=
          match b with
          | .line n => n < e.line
          | _ => false
        (!past || e.fits a, if ends then close else e)
      else if e.fits a then
        let ends : Bool :=
          match b with
          | .line n => n ≤ e.line
          | _ => false
        (true, if ends then e else { e with begun := index :: e.begun })
      else (false, e)
  (r != c.negated, e)

/-- The text that is put in the place of what was found. -/
def replacement (f : Expression.Found) : List Part → Option Char → Option Char → List Char
  | [], _, _ => []
  | .case m :: ps, _, all =>
    if m = 'u' ∨ m = 'l' then replacement f ps (some m) all
    else replacement f ps none (if m = 'E' then none else some m)
  | p :: ps, once, all =>
    let t :=
      match p with
      | .char c => [c]
      | .group 0 => f.text
      | .group n => (f.groups.lookup n).getD []
      | .case _ => []
    let t :=
      match all with
      | some 'U' => t.map Char.toUpper
      | some 'L' => t.map Char.toLower
      | _ => t
    match t, once with
    | [], _ => replacement f ps once all
    | c :: t, some m =>
      (if m = 'u' then c.toUpper else c.toLower) :: t ++ replacement f ps none all
    | t, none => t ++ replacement f ps none all

/-- Replaces what fits from a place on: the first so many stay. -/
def replace (x : Expression) (parts : List Part) (each ignoresCase : Bool) :
    Nat → Nat → Bool → List Char → List Char → List Char × Bool
  | 0, _, _, _, s => (s, false)
  | fuel + 1, stays, afterFound, before, s =>
    match x.findFrom ignoresCase before s with
    | none => (s, false)
    | some f =>
      let gap := f.position - before.length
      let skipped := s.take gap
      let after := s.drop (gap + f.text.length)
      let moved := f.text.reverse ++ skipped.reverse ++ before
      let isEmptyAgain := f.text.isEmpty && gap = 0 && afterFound
      let (own, changes) :=
        if isEmptyAgain then ([], false)
        else if stays = 0 then (replacement f parts none none, true)
        else (f.text, false)
      let stays := if isEmptyAgain then stays else stays - 1
      if changes && !each then (skipped ++ own ++ after, true)
      else
        let (rest, hasMore) :=
          if f.text.isEmpty then
            match after with
            | [] => ([], false)
            | c :: after =>
              let (rest, hasMore) :=
                replace x parts each ignoresCase fuel stays false (c :: moved) after
              (c :: rest, hasMore)
          else replace x parts each ignoresCase fuel stays true moved after
        (skipped ++ own ++ rest, changes || hasMore)

/-- A line with what is hard to see in it written out. -/
def listed (s : List Char) : List Char :=
  let letters : List (Char × Char) :=
    [('\\', '\\'), ('\x07', 'a'), ('\x08', 'b'), ('\x0c', 'f'), ('\n', 'n'), ('\r', 'r'),
      ('\t', 't'), ('\x0b', 'v')]
  let one (c : Char) : List Char :=
    match letters.lookup c with
    | some l => ['\\', l]
    | none =>
      if c.toNat < 32 ∨ c.toNat = 127 then
        let ds := Nat.toDigits 8 c.toNat
        '\\' :: List.replicate (3 - ds.length) '0' ++ ds
      else [c]
  s.flatMap one ++ ['$']

inductive Onward where
  | on
  | to (label : String)
  /-- The line is done with, and printed or not. -/
  | done (prints : Bool)
  /-- The commands begin anew without another line. -/
  | anew

/-- Runs a command on the line. -/
def act (quiet : Bool) (e : Editor) (c : Command) : Editor × Onward :=
  match c.action with
  | .replace x parts each nth prints ignoresCase =>
    let (t, changes) :=
      replace x parts each ignoresCase (e.pattern.length + 2) (nth - 1) false [] e.pattern
    let e := { e with pattern := t, hasReplaced := e.hasReplaced || changes }
    (if changes && prints then e.print t else e, .on)
  | .print => (e.print e.pattern, .on)
  | .drop => (e, .done false)
  | .dropFirst =>
    if e.pattern.contains '\n' then
      ({ e with pattern := (e.pattern.dropWhile (· ≠ '\n')).drop 1 }, .anew)
    else (e, .done false)
  | .printFirst => (e.print (e.pattern.takeWhile (· ≠ '\n')), .on)
  | .quit code prints => ({ e with stops := some code }, .done prints)
  | .next =>
    match e.rest with
    | [] => ({ e with stops := some 0 }, .done true)
    | l :: rest =>
      let e := if quiet then e else e.print e.pattern
      ({ e with pattern := l, rest, line := e.line + 1 }, .on)
  | .appendNext =>
    match e.rest with
    | [] => ({ e with stops := some 0 }, .done true)
    | l :: rest => ({ e with pattern := e.pattern ++ '\n' :: l, rest, line := e.line + 1 }, .on)
  | .hold appends =>
    ({ e with held := if appends then e.held ++ '\n' :: e.pattern else e.pattern }, .on)
  | .fetch appends =>
    ({ e with pattern := if appends then e.pattern ++ '\n' :: e.held else e.held }, .on)
  | .swap => ({ e with pattern := e.held, held := e.pattern }, .on)
  | .number => (e.print (Nat.toDigits 10 e.line), .on)
  | .list => (e.print (listed e.pattern), .on)
  | .translate pairs =>
    ({ e with pattern := e.pattern.map fun x => (pairs.lookup x).getD x }, .on)
  | .before t => (e.print t, .on)
  | .after t => ({ e with behind := e.behind ++ [t] }, .on)
  | .instead t =>
    let isOver := c.last.isNone || c.negated || e.begun.isEmpty
    (if isOver then e.print t else e, .done false)
  | .label _ | .nothing => (e, .on)
  | .go none name => (e, if name = "" then .done true else .to name)
  | .go (some wanted) name =>
    if e.hasReplaced = wanted then
      ({ e with hasReplaced := false }, if name = "" then .done true else .to name)
    else ({ e with hasReplaced := false }, .on)
  | .group _ => (e, .on)

/-- Runs commands on the line; says whether it is printed, or `none` to begin anew. -/
def runCommands (quiet : Bool) (all : List Command) :
    Nat → List (Command × Nat) → Editor → Editor × Option Bool
  | 0, _, e => (e, some true)
  | _, [], e => (e, some true)
  | fuel + 1, (c, index) :: cs, e =>
    let (isMeant, e) := e.holds index c
    if !isMeant then
      match c.action with
      | .group size => runCommands quiet all fuel (cs.drop size) e
      | _ => runCommands quiet all fuel cs e
    else
      match e.act quiet c with
      | (e, .on) => runCommands quiet all fuel cs e
      | (e, .to name) =>
        let rest := all.zipIdx.dropWhile fun (c, _) =>
          match c.action with
          | .label n => n ≠ name
          | _ => true
        runCommands quiet all fuel rest e
      | (e, .done prints) => (e, some prints)
      | (e, .anew) => (e, none)

def run (quiet : Bool) (all : List Command) : Nat → Bool → Editor → Editor
  | 0, _, e => e
  | fuel + 1, isAnew, e =>
    let start? : Option Editor :=
      if isAnew then some e
      else
        match e.rest with
        | [] => none
        | l :: rest =>
          some { e with pattern := l, rest, line := e.line + 1, hasReplaced := false }
    match start? with
    | none => e
    | some e =>
      let (e, prints) := runCommands quiet all 1000000 all.zipIdx e
      let e := if prints = some true && !quiet then e.print e.pattern else e
      let e := { e with printed := e.behind.reverse ++ e.printed, behind := [] }
      if e.stops.isSome then e else run quiet all fuel (prints = none) e

end Editor

def work : Work := fun c =>
  let table : OptionTable :=
    { plain := ['n', 'E', 'r', 's', 'u', 'z', 'i'], withText := ['e', 'f', 'l']
      names := [("quiet", 'n'), ("silent", 'n'), ("regexp-extended", 'E'), ("expression", 'e'),
        ("in-place", 'i'), ("file", 'f')] }
  c.withOptions table 1 fun o => do
    let given := (o.given.filter (·.1 = 'e')).map Prod.snd
    let (text, ws) :=
      if ¬ given.isEmpty then ("\n".intercalate given, o.operands)
      else (o.operands.headD "", o.operands.drop 1)
    if given.isEmpty ∧ o.operands.isEmpty then
      let _ ← c.send 2 s!"Usage: {c.name} [OPTION]... [script-if-no-other-script] [input-file]...\n"
      return 1
    match script (o.has 'E' || o.has 'r') text with
    | .error e =>
      c.complain s!"-e expression #1, char {text.length}: {e}"
      return 1
    | .ok commands =>
      let edit (t : String) : String × Nat :=
        let lines := linesOf t
        let e : Editor := { rest := lines }
        let e := e.run (o.has 'n') commands (2 * lines.length + t.length + 8) false
        let shown := ofLines e.printed.reverse
        let isWhole := t.endsWith "\n" || t = "" || e.stops.isSome
        (if isWhole then shown else String.ofList shown.toList.dropLast, e.stops.getD 0)
      let complaint (w : String) (e : OsError) : String := s!"can't read {w}: {e.text}"
      if o.has 'i' then
        let mut code := 0
        for w in ws do
          match ← c.texts [w] complaint with
          | ([(_, t)], true) =>
            let (shown, _) := edit t
            let _ ← c.changeTree fun t => t.write ⟨w⟩ shown
          | _ => code := 4
        return code
      else
        let (inputs, isFine) ← c.texts ws complaint
        let whole := String.join (inputs.map fun (_, t) => t)
        let (shown, code) := edit whole
        c.put shown
        return if isFine then code else 2

end Patchbay.Programs.Sed
