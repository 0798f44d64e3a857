import Patchbay.Simulation.Programs.Streams

/-!
# Counting and comparing

Programs that tell how many lines, words, characters and bytes there are in files, and where two
files differ first.
-/

namespace Patchbay.Programs

structure Counts where
  lines : Nat := 0
  words : Nat := 0
  chars : Nat := 0
  bytes : Nat := 0
  longest : Nat := 0

namespace Counts

def isBlank (c : Char) : Bool := c ∈ [' ', '\t', '\n', '\x0b', '\x0c', '\r']

/-- How many words characters make up, after a blank or not. -/
def wordsIn : Bool → List Char → Nat
  | _, [] => 0
  | wasBlank, c :: s =>
    (if wasBlank && !isBlank c then 1 else 0) + wordsIn (isBlank c) s

/-- How wide a line is: a tab leads to the next multiple of eight. -/
def widthOf (s : List Char) : Nat :=
  s.foldl (fun n c => if c = '\t' then n + (8 - n % 8) else if c.toNat < 32 then n else n + 1) 0

def ofText (t : String) : Counts :=
  let s := t.toList
  { lines := s.count '\n', words := wordsIn true s, chars := s.length, bytes := bytesOf s
    longest := (linesOf t).foldl (fun n l => max n (widthOf l)) 0 }

def add (a b : Counts) : Counts :=
  { lines := a.lines + b.lines, words := a.words + b.words, chars := a.chars + b.chars
    bytes := a.bytes + b.bytes, longest := max a.longest b.longest }

/-- The numbers that are asked for, in a fixed order. -/
def asked (letters : List Char) (k : Counts) : List Nat :=
  ([('l', k.lines), ('w', k.words), ('m', k.chars), ('c', k.bytes), ('L', k.longest)].filter
    fun (c, _) => letters.contains c).map Prod.snd

/-- A line of numbers in columns, and a name. -/
def shown (width : Nat) (numbers : List Nat) (name : String) : String :=
  let columns := numbers.map fun n =>
    let ds := Nat.toDigits 10 n
    String.ofList (List.replicate (width - ds.length) ' ' ++ ds)
  " ".intercalate columns ++ (if name = "" then "" else " " ++ name) ++ "\n"

end Counts

def wc : Work := fun c =>
  let table : OptionTable :=
    { plain := ['l', 'w', 'm', 'c', 'L']
      names := [("lines", 'l'), ("words", 'w'), ("chars", 'm'), ("bytes", 'c'),
        ("max-line-length", 'L')] }
  c.withOptions table 1 fun o => do
    let letters := if o.given.isEmpty then ['l', 'w', 'c'] else o.given.map Prod.fst
    let ws := if o.operands.isEmpty then ["-"] else o.operands
    let count (w : String) : Act (Option (String × Bool)) := do
      match ← c.openInput w with
      | .error e =>
        c.complain (Context.usualComplaint w e)
        return none
      | .ok i => return some (← i.takeAll, i.channel matches .file _)
    let counted ← ws.mapM fun w => do return (w, ← count w)
    let known := counted.filterMap fun (w, r) =>
      r.map fun (t, isFile) => (w, Counts.ofText t, isFile)
    let size := known.foldl (fun n (_, k, isFile) => if isFile then n + k.bytes else n) 0
    let usual := if known.any fun (_, _, isFile) => !isFile then 7 else 1
    let numbers := (Counts.asked letters {}).length
    let width :=
      if ws.length = 1 ∧ numbers = 1 then 1 else max usual (Nat.toDigits 10 size).length
    for (w, k, _) in known do
      let name := if o.operands.isEmpty then "" else w
      c.put (Counts.shown width (Counts.asked letters k) name)
    if 1 < ws.length then
      let total := known.foldl (fun a (_, k, _) => a.add k) {}
      c.put (Counts.shown width (Counts.asked letters total) "total")
    return if known.length = ws.length then 0 else 1

/-! ### Comparing -/

/-- Tells the first difference between two files. -/
def cmp : Work := fun c =>
  let table : OptionTable :=
    { plain := ['s', 'l', 'b'], names := [("silent", 's'), ("quiet", 's')] }
  c.withOptions table 2 fun o => do
    match o.operands with
    | a :: rest =>
      let b := rest.headD "-"
      let (inputs, isFine) ← c.texts [a, b] Context.usualComplaint
      match inputs, isFine with
      | [(_, s), (_, t)], true =>
        if s = t then return 0
        if !o.has 's' then
          let same := ((s.toList.zip t.toList).takeWhile fun (x, y) => x = y).map Prod.fst
          let n := same.length
          let lines := same.count '\n'
          if n = s.length ∨ n = t.length then
            let shorter := if n = s.length then a else b
            c.complain <|
              if n = 0 then s!"EOF on {shorter} which is empty"
              else if same.getLast? = some '\n' then
                s!"EOF on {shorter} after byte {n}, line {lines}"
              else s!"EOF on {shorter} after byte {n}, in line {lines + 1}"
          else c.put s!"{a} {b} differ: char {n + 1}, line {lines + 1}\n"
        return 1
      | _, _ => return 2
    | [] => c.misuse s!"missing operand after '{c.name}'" 2

end Patchbay.Programs
