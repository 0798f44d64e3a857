import Patchbay.Simulation.Programs.Streams
import Patchbay.Simulation.Text.Expression

/-!
# Lines that fit

The program prints the lines of files in which an expression fits somewhere, or counts them, or only
answers whether there are any.
-/

namespace Patchbay.Programs

open Text (Expression)

def grepTable : OptionTable where
  plain := ['E', 'F', 'G', 'P', 'c', 'i', 'y', 'v', 'n', 'q', 's', 'o', 'l', 'L', 'h', 'H', 'w',
    'x', 'r', 'R', 'a', 'b', 'Z', 'z']
  withText := ['e', 'f', 'm', 'A', 'B', 'C', 'X']
  names := [("extended-regexp", 'E'), ("fixed-strings", 'F'), ("basic-regexp", 'G'),
    ("count", 'c'), ("ignore-case", 'i'), ("invert-match", 'v'), ("line-number", 'n'),
    ("quiet", 'q'), ("silent", 'q'), ("no-messages", 's'), ("only-matching", 'o'),
    ("files-with-matches", 'l'), ("files-without-match", 'L'), ("no-filename", 'h'),
    ("with-filename", 'H'), ("word-regexp", 'w'), ("line-regexp", 'x'), ("recursive", 'r'),
    ("regexp", 'e'), ("max-count", 'm'), ("after-context", 'A'), ("before-context", 'B'),
    ("context", 'C'), ("color", 'X'), ("colour", 'X')]

def grepExpressions (o : Options) (patterns : List String) : Except String (List Expression) :=
  (patterns.flatMap fun p => (Text.splitAt '\n' p.toList).map String.ofList).mapM fun p =>
    if o.has 'F' then .ok (Expression.ofPlain p.toList)
    else Expression.ofText (o.has 'E' || o.has 'P') p

/-- Whether a text that was found counts: as a whole word or line if asked for. -/
def counts (o : Options) (line : List Char) (f : Expression.Found) : Bool :=
  let after := line.drop (f.position + f.text.length)
  let before := line.take f.position
  (!o.has 'x' || (before.isEmpty && after.isEmpty)) &&
    (!o.has 'w' || (!(before.getLast?.any Text.Cursor.isWordPart) &&
      !(after.head?.any Text.Cursor.isWordPart)))

/-- The texts of a line that fit, one after the other. -/
def foundIn (o : Options) (es : List Expression) (line : List Char) :
    Nat → Nat → List Expression.Found
  | 0, _ => []
  | fuel + 1, start =>
    let ignores := o.has 'i' || o.has 'y'
    let before := (line.take start).reverse
    let found := es.filterMap fun e => e.findFrom ignores before (line.drop start)
    let best := found.foldl (fun best f =>
      match best with
      | some (b : Expression.Found) =>
        if f.position < b.position ∨ (f.position = b.position ∧ b.text.length < f.text.length) then
          some f
        else best
      | none => some f) none
    match best with
    | none => []
    | some f =>
      let next := f.position + max 1 f.text.length
      let rest := if line.length < next then [] else foundIn o es line fuel next
      if counts o line f then f :: rest
      else if line.length < f.position + 1 then []
      else foundIn o es line fuel (f.position + 1)

def isWanted (o : Options) (es : List Expression) (line : List Char) : Bool :=
  let whole : Bool :=
    if o.has 'x' then
      es.any fun e =>
        (e.findFrom (o.has 'i' || o.has 'y') [] line).any fun f =>
          f.position = 0 && f.text.length = line.length
    else !(foundIn o es line (line.length + 2) 0).isEmpty
  whole != o.has 'v'

/-- The lines to be shown with what is around them: the number, whether the line is wanted, and the
text. -/
def withContext (before after : Nat) (rows : List (Nat × Bool × List Char)) :
    List (Nat × Bool × List Char) :=
  let wanted := (rows.filter fun (_, w, _) => w).map Prod.fst
  rows.filter fun (n, w, _) =>
    w || wanted.any fun m => (n ≤ m && m ≤ n + before) || (m ≤ n && n ≤ m + after)

def filesBelow : Nat → String → List (String × Entry) → List String
  | 0, _, _ => []
  | fuel + 1, path, es =>
    es.flatMap fun (name, e) =>
      let inner := if path = "" ∨ path.endsWith "/" then path ++ name else path ++ "/" ++ name
      match e with
      | .file _ => [inner]
      | .directory es => filesBelow fuel inner es

/-- The inputs that arguments name. Directories stand for the files below them if `isDeep` says so,
and nothing stands for the working directory then. -/
def inputNames (t : FileTree) (isDeep : Bool) (ws : List String) : List String :=
  let below (path shown : String) : List String :=
    match t.locate ⟨path⟩ with
    | .ok (_, .directory es) => filesBelow 4096 shown es
    | _ => [shown]
  match isDeep, ws with
  | false, [] => ["-"]
  | false, ws => ws
  | true, [] => below "." ""
  | true, ws => ws.flatMap fun w => below w w

def grep (flags : List Char) : Work := fun c =>
  c.withOptions grepTable 2 fun o => do
    let o := flags.foldl (fun o l => o.give l "") o
    let given := (o.given.filter (·.1 = 'e')).map Prod.snd
    let usage : Act Nat := do
      let _ ← c.send 2 (s!"Usage: {c.name} [OPTION]... PATTERNS [FILE]...\n" ++
        s!"Try '{c.name} --help' for more information.\n")
      return 2
    let (patterns, ws) :=
      if ¬ given.isEmpty then (given, o.operands) else (o.operands.take 1, o.operands.drop 1)
    if patterns.isEmpty then return ← usage
    match grepExpressions o patterns with
    | .error e =>
      c.complain e
      return 2
    | .ok es =>
      let isDeep := o.has 'r' || o.has 'R'
      let titled := (isDeep || 1 < ws.length || o.has 'H') && !o.has 'h'
      let number (l : Char) : Option Nat := (o.text? l).bind String.toNat?
      let around := (number 'C').getD 0
      let (before, after) := ((number 'B').getD around, (number 'A').getD around)
      let mut isFine := true
      let mut hasFound := false
      for w in inputNames (← c.tree) isDeep ws do
        match ← c.openInput w with
        | .error e =>
          isFine := false
          if !o.has 's' then c.complain (Context.usualComplaint w e)
        | .ok i =>
          let name := if w = "-" then "(standard input)" else w
          let lines := linesOf (← i.takeAll)
          let rows := (lines.zipIdx 1).map fun (l, n) => (n, isWanted o es l, l)
          let rows :=
            match number 'm' with
            | none => rows
            | some m =>
              let last := ((rows.filter fun (_, wanted, _) => wanted).take m).getLast?
              rows.map fun (n, wanted, l) => (n, wanted && last.any fun (k, _) => n ≤ k, l)
          let count := (rows.filter fun (_, wanted, _) => wanted).length
          if 0 < count then hasFound := true
          let start (n : Nat) (mark : String) : String :=
            (if titled then name ++ mark else "") ++ if o.has 'n' then s!"{n}{mark}" else ""
          if o.has 'q' then pure ()
          else if o.has 'l' || o.has 'L' then
            if (0 < count) = o.has 'l' then c.put (name ++ "\n")
          else if o.has 'c' then c.put ((if titled then name ++ ":" else "") ++ s!"{count}\n")
          else if o.has 'o' then
            for (n, wanted, l) in rows do
              if wanted && !o.has 'v' then
                for f in foundIn o es l (l.length + 2) 0 do
                  if ¬ f.text.isEmpty then c.put (start n ":" ++ String.ofList f.text ++ "\n")
          else
            let shown := withContext before after rows
            let mut last := 0
            for (n, wanted, l) in shown do
              if (0 < before || 0 < after) && 0 < last && last + 1 < n then c.put "--\n"
              last := n
              c.put (start n (if wanted then ":" else "-") ++ String.ofList l ++ "\n")
      return if hasFound && (isFine || o.has 'q') then 0 else if isFine then 1 else 2

end Patchbay.Programs
