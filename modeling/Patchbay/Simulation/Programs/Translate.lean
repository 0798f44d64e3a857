import Patchbay.Simulation.Programs.Streams
import Patchbay.Simulation.Text.Escaped

/-!
# Translating characters

Characters of one set give way to those of another, or are dropped, or squeezed where they are
repeated. A set is written with ranges, classes, repetitions and escapes.
-/

namespace Patchbay.Programs

inductive SetPart where
  | chars (cs : List Char)
  | lower
  | upper
  /-- A character so often, or as often as the other set needs. -/
  | repeated (c : Char) (times : Option Nat)

namespace SetPart

def range (first last : Char) : List Char :=
  (List.range (last.toNat + 1 - first.toNat)).map fun n => Char.ofNat (first.toNat + n)

def class? (name : String) : Option SetPart :=
  let ascii : List Char := (List.range 128).map Char.ofNat
  match name with
  | "lower" => some .lower
  | "upper" => some .upper
  | "alpha" => some (.chars (range 'A' 'Z' ++ range 'a' 'z'))
  | "digit" => some (.chars (range '0' '9'))
  | "alnum" => some (.chars (range '0' '9' ++ range 'A' 'Z' ++ range 'a' 'z'))
  | "space" => some (.chars ['\t', '\n', '\x0b', '\x0c', '\r', ' '])
  | "blank" => some (.chars ['\t', ' '])
  | "cntrl" => some (.chars (range '\x00' '\x1f' ++ ['\x7f']))
  | "punct" => some (.chars (ascii.filter fun c =>
      32 < c.toNat && c.toNat < 127 && !c.isAlphanum))
  | "print" => some (.chars (range ' ' '~'))
  | "graph" => some (.chars (range '!' '~'))
  | "xdigit" => some (.chars (range '0' '9' ++ range 'A' 'F' ++ range 'a' 'f'))
  | _ => none

end SetPart

def setEscapes : Text.Escapes := { leadingZero := false, stops := false }

/-- The character at the start of a set, whether it is escaped, and what follows. -/
def setChar : List Char → Option (Char × Bool × List Char)
  | [] => none
  | '\\' :: s =>
    match setEscapes.read? s, s with
    | some (c, n), _ => some (c, true, s.drop n)
    | none, c :: s => some (c, true, s)
    | none, [] => some ('\\', false, [])
  | c :: s => some (c, false, s)

def setParts : Nat → List Char → Except String (List SetPart)
  | 0, _ => .ok []
  | _, [] => .ok []
  | fuel + 1, s => do
    let plain (s : List Char) : Except String (List SetPart) := do
      match setChar s with
      | none => return []
      | some (c, _, rest) =>
        match rest with
        | '-' :: d :: more =>
          match setChar (d :: more) with
          | some (last, _, rest) =>
            if last < c then
              throw (s!"range-endpoints of '{c}-{last}' are in reverse collating sequence order")
            else return .chars (SetPart.range c last) :: (← setParts fuel rest)
          | none => return .chars [c] :: (← setParts fuel rest)
        | rest => return .chars [c] :: (← setParts fuel rest)
    match s with
    | '[' :: ':' :: rest =>
      let name := rest.takeWhile (· ≠ ':')
      match rest.drop name.length with
      | ':' :: ']' :: after =>
        match SetPart.class? (String.ofList name) with
        | some p => return p :: (← setParts fuel after)
        | none => throw s!"invalid character class '{String.ofList name}'"
      | _ => plain s
    | '[' :: '=' :: c :: '=' :: ']' :: after => return .chars [c] :: (← setParts fuel after)
    | '[' :: rest =>
      match setChar rest with
      | some (c, _, '*' :: after) =>
        let ds := after.takeWhile Char.isDigit
        match after.drop ds.length with
        | ']' :: after =>
          let base := if ds.head? = some '0' then 8 else 10
          let n := ds.foldl (fun n c => base * n + (c.toNat - '0'.toNat)) 0
          return .repeated c (if n = 0 then none else some n) :: (← setParts fuel after)
        | _ => plain s
      | _ => plain s
    | s => plain s

/-- The characters of a set that is to have so many if it can. -/
def setChars (size : Nat) (parts : List SetPart) : List Char :=
  let fixed : SetPart → List Char
    | .chars cs => cs
    | .lower => SetPart.range 'a' 'z'
    | .upper => SetPart.range 'A' 'Z'
    | .repeated c times => List.replicate (times.getD 0) c
  let missing := size - (parts.flatMap fixed).length
  parts.flatMap fun
    | .repeated c none => List.replicate missing c
    | p => fixed p

def squeeze (isIn : Char → Bool) : Option Char → List Char → List Char × Option Char
  | last, [] => ([], last)
  | last, c :: s =>
    if some c = last && isIn c then squeeze isIn last s
    else
      let (t, last) := squeeze isIn (some c) s
      (c :: t, last)

/-- Hands on what is read after a change that may depend on the last character. -/
def copyChanged (c : Context) (change : Option Char → List Char → List Char × Option Char) :
    Nat → Option Char → Act Unit
  | 0, _ => return ()
  | fuel + 1, last => do
    let text ← c.ownInput.take
    if text ≠ "" then
      let (changed, last) := change last text.toList
      if ¬ changed.isEmpty then c.put (String.ofList changed)
      copyChanged c change fuel last

def tr : Work := fun c =>
  let table : OptionTable :=
    { plain := ['c', 'C', 'd', 's', 't'], stopsEarly := true
      names := [("complement", 'c'), ("delete", 'd'), ("squeeze-repeats", 's'),
        ("truncate-set1", 't')] }
  c.withOptions table 1 fun o => do
    let complement := o.has 'c' || o.has 'C'
    let (drops, squeezes) := (o.has 'd', o.has 's')
    let most := if drops && !squeezes then 1 else 2
    let least := if drops != squeezes then 1 else 2
    match o.operands with
    | [] => c.missingOperand 1
    | first :: rest =>
      if rest.length + 1 < least then
        let what := if drops && squeezes then
          "Two strings must be given when both deleting and squeezing repeats."
        else "Two strings must be given when translating."
        c.complain s!"missing operand after '{first}'"
        let _ ← c.send 2 s!"{what}\nTry '{c.name} --help' for more information.\n"
        return 1
      if most < rest.length + 1 then
        let extra := rest.getD (most - 1) ""
        c.complain s!"extra operand '{extra}'"
        if most = 1 then
          let _ ← c.send 2 "Only one string may be given when deleting without squeezing repeats.\n"
        let _ ← c.send 2 s!"Try '{c.name} --help' for more information.\n"
        return 1
      match setParts (first.length + 1) first.toList,
        setParts ((rest.headD "").length + 1) (rest.headD "").toList with
      | .error e, _ | _, .error e =>
        c.complain e
        return 1
      | .ok parts, .ok others =>
        let chars := setChars 0 parts
        let isIn (x : Char) : Bool := chars.contains x != complement
        let size := if complement then 256 - chars.length else chars.length
        let targets := setChars size others
        if !rest.isEmpty && !drops && targets.isEmpty then
          c.complain "when not truncating set1, string2 must be non-empty"
          return 1
        let last := targets.getLast?.getD ' '
        let isTarget (x : Char) : Bool := targets.contains x
        let order : List Char :=
          if complement then
            ((List.range 256).map Char.ofNat).filter fun x => !chars.contains x
          else chars
        let targetOf (x : Char) : Char :=
          if !isIn x then x
          else
            let positions := order.zipIdx.filter fun (y, _) => y = x
            match positions.getLast? with
            | some (_, n) =>
              match targets[n]? with
              | some y => y
              | none => if o.has 't' then x else last
            | none => last
        let change (before : Option Char) (s : List Char) : List Char × Option Char :=
          if drops then
            let kept := s.filter fun x => !isIn x
            if squeezes then squeeze isTarget before kept else (kept, before)
          else if rest.isEmpty then squeeze isIn before s
          else
            let moved := s.map targetOf
            if squeezes then squeeze isTarget before moved else (moved, before)
        copyChanged c change maxReads none
        return 0

end Patchbay.Programs
