import Patchbay.Simulation.Programs.Streams

/-!
# Programs that hand text on

They print what they read: all of it, perhaps with marks or numbers; its start or its end; or to
several places at once.
-/

namespace Patchbay.Programs

/-! ### All of it -/

structure Showing where
  numbers : Bool := false
  numbersFilled : Bool := false
  squeezes : Bool := false
  ends : Bool := false
  tabs : Bool := false
  controls : Bool := false

/-- A character with its controls shown. -/
def shownControl (c : Char) : List Char :=
  let n := c.toNat
  if c = '\t' ∨ c = '\n' then [c]
  else if n < 32 then ['^', Char.ofNat (n + 64)]
  else if n = 127 then ['^', '?']
  else if n < 127 then [c]
  else
    (String.singleton c).toUTF8.toList.flatMap fun b =>
      let n := b.toNat - 128
      'M' :: '-' ::
        if n < 32 then ['^', Char.ofNat (n + 64)]
        else if n = 127 then ['^', '?']
        else [Char.ofNat n]

/-- Where the text that is shown has got to. -/
structure ShowState where
  line : Nat := 0
  /-- How many line ends were the last thing. -/
  gap : Nat := 1

namespace Showing

def number (n : Nat) : List Char :=
  let ds := Nat.toDigits 10 n
  List.replicate (6 - ds.length) ' ' ++ ds ++ ['\t']

def line (o : Showing) (s : List Char) : List Char :=
  s.flatMap fun c =>
    if c = '\n' then (if o.ends then ['$', '\n'] else ['\n'])
    else if c = '\t' then (if o.tabs then ['^', 'I'] else ['\t'])
    else if o.controls then shownControl c
    else [c]

def lines (o : Showing) : ShowState → List (List Char) → List Char × ShowState
  | s, [] => ([], s)
  | s, l :: ls =>
    let startsLine := s.gap ≠ 0
    let isEmpty := startsLine && l = ['\n']
    if o.squeezes && isEmpty && 2 ≤ s.gap then lines o s ls
    else
      let isNumbered := startsLine && (if o.numbersFilled then !isEmpty else o.numbers)
      let s' : ShowState :=
        { line := if isNumbered then s.line + 1 else s.line
          gap := if isEmpty then s.gap + 1 else if l.getLast? = some '\n' then 1 else 0 }
      let (rest, final) := lines o s' ls
      ((if isNumbered then number s'.line else []) ++ o.line l ++ rest, final)

/-- Whether text is shown as it is. -/
def isPlain (o : Showing) : Bool :=
  !(o.numbers || o.numbersFilled || o.squeezes || o.ends || o.tabs || o.controls)

end Showing

/-- Hands an input on as it comes. -/
def copy (c : Context) (i : Input) : Nat → Act Unit
  | 0 => return ()
  | fuel + 1 => do
    let text ← i.take
    if text ≠ "" then
      c.put text
      copy c i fuel

def catTable : OptionTable where
  plain := ['A', 'b', 'e', 'E', 'n', 's', 't', 'T', 'u', 'v']
  names := [("show-all", 'A'), ("number-nonblank", 'b'), ("show-ends", 'E'), ("number", 'n'),
    ("squeeze-blank", 's'), ("show-tabs", 'T'), ("show-nonprinting", 'v')]

def cat : Work := fun c =>
  c.withOptions catTable 1 fun o => do
    let has (cs : List Char) : Bool := cs.any o.has
    let showing : Showing :=
      { numbers := o.has 'n', numbersFilled := o.has 'b', squeezes := o.has 's'
        ends := has ['A', 'e', 'E'], tabs := has ['A', 't', 'T']
        controls := has ['A', 'e', 't', 'v'] }
    if showing.isPlain then
      c.eachInput o.operands 1 Context.usualComplaint fun i => do
        copy c i maxReads
        return 0
    else
      let mut state : ShowState := {}
      let mut code := 0
      for w in (if o.operands.isEmpty then ["-"] else o.operands) do
        match ← c.openInput w with
        | .error e =>
          c.complain (Context.usualComplaint w e)
          code := 1
        | .ok i =>
          let (text, s) := showing.lines state (wholeLinesOf (← i.takeAll))
          state := s
          c.put (String.ofList text)
      return code

/-! ### A part of it -/

/-- A number of lines or bytes in an option: how many, and with which sign. -/
def amount? (text : String) : Option (Option Char × Nat) :=
  let (sign, s) :=
    match text.toList with
    | '+' :: s => (some '+', s)
    | '-' :: s => (some '-', s)
    | s => (none, s)
  let (ds, unit) := s.span Char.isDigit
  let factor : Option Nat :=
    match String.ofList unit with
    | "" => some 1
    | "b" => some 512
    | "k" | "K" => some 1024
    | "M" => some 1048576
    | "kB" => some 1000
    | _ => none
  if ds.isEmpty then none
  else factor.map fun f => (sign, f * ds.foldl (fun n c => 10 * n + (c.toNat - '0'.toNat)) 0)

def firstBytes : Nat → List Char → List Char
  | _, [] => []
  | n, c :: s => if c.utf8Size ≤ n then c :: firstBytes (n - c.utf8Size) s else []

/-- Hands on the first lines of an input; what is taken of a pipe is taken. -/
def copyLines (c : Context) (i : Input) : Nat → Nat → Act Unit
  | 0, _ => return ()
  | fuel + 1, n => do
    if n = 0 then return ()
    let text ← i.take
    if text = "" then return ()
    let lines := wholeLinesOf text
    let taken := lines.take n
    c.put (String.ofList taken.flatten)
    let whole := (taken.filter fun l => l.getLast? = some '\n').length
    copyLines c i fuel (n - whole)

/-- Arguments in the new form where they have the old one, a number after a minus. -/
def newForm (ws : List String) : List String :=
  match ws with
  | w :: rest =>
    match w.toList with
    | '-' :: c :: cs =>
      if c.isDigit && cs.all Char.isDigit then "-n" :: String.ofList (c :: cs) :: rest else ws
    | _ => ws
  | [] => []

def partTable : OptionTable where
  plain := ['q', 'v', 'z', 'f', 'F']
  withText := ['c', 'n', 's']
  names := [("bytes", 'c'), ("lines", 'n'), ("quiet", 'q'), ("silent", 'q'), ("verbose", 'v'),
    ("follow", 'f')]

/-- The amount that is asked for, and whether it is one of bytes. -/
def asked (c : Context) (o : Options) : Act (Bool × Option Char × Nat) := do
  let last := (o.given.reverse.find? fun (l, _) => l = 'c' || l = 'n')
  match last with
  | none => return (false, none, 10)
  | some (l, text) =>
    match amount? text with
    | some (sign, n) => return (l = 'c', sign, n)
    | none =>
      let what := if l = 'c' then "bytes" else "lines"
      c.complain s!"invalid number of {what}: '{text}'"
      Act.quit 1

/-- Prints a part of each file, with a title if there are several. -/
def parts (c : Context) (o : Options) (work : Input → Act Unit) : Act Nat := do
  let ws := if o.operands.isEmpty then ["-"] else o.operands
  let titled := if o.has 'v' then true else if o.has 'q' then false else 1 < ws.length
  let mut code := 0
  let mut isFirst := true
  for w in ws do
    let title := if w = "-" then "standard input" else w
    match ← c.openInput w with
    | .error .isDirectory =>
      if titled then
        c.put ((if isFirst then "" else "\n") ++ s!"==> {title} <==\n")
        isFirst := false
      c.complain s!"error reading '{w}': Is a directory"
      code := 1
    | .error e =>
      c.complain s!"cannot open '{w}' for reading: {e.text}"
      code := 1
    | .ok i =>
      if titled then
        c.put ((if isFirst then "" else "\n") ++ s!"==> {title} <==\n")
        isFirst := false
      work i
  return code

def head : Work := fun c => do
  let c := { c with arguments := newForm c.arguments }
  c.withOptions partTable 1 fun o => do
    let (isBytes, sign, n) ← asked c o
    parts c o fun i => do
      if sign = some '-' then
        let text ← i.takeAll
        if isBytes then
          c.put (String.ofList (firstBytes (text.utf8ByteSize - n) text.toList))
        else
          let ls := wholeLinesOf text
          c.put (String.ofList (ls.take (ls.length - n)).flatten)
      else if isBytes then
        let text ← i.takeAll
        c.put (String.ofList (firstBytes n text.toList))
      else copyLines c i maxReads n

def tail : Work := fun c => do
  let c := { c with arguments := newForm c.arguments }
  c.withOptions partTable 1 fun o => do
    let (isBytes, sign, n) ← asked c o
    parts c o fun i => do
      let text ← i.takeAll
      let total := text.utf8ByteSize
      if isBytes then
        let skipped := if sign = some '+' then n - 1 else total - n
        let start := firstBytes skipped text.toList
        c.put (String.ofList (text.toList.drop start.length))
      else
        let ls := wholeLinesOf text
        let skipped := if sign = some '+' then n - 1 else ls.length - n
        c.put (String.ofList (ls.drop skipped).flatten)

/-! ### To several places -/

/-- Prints what it reads, and puts it into files. -/
def tee : Work := fun c =>
  c.withOptions { plain := ['a', 'i', 'p'], names := [("append", 'a')] } 1 fun o => do
    let how : Opening := if o.has 'a' then .appending else .replacing
    let (channels, code) ← o.operands.foldlM (fun (cs, code) w => do
      match ← c.openOutput w how with
      | .ok channel => return (cs ++ [channel], code)
      | .error e =>
        c.complain (Context.usualComplaint w e)
        return (cs, 1)) (([] : List Channel), 0)
    let rec go : Nat → Act Unit
      | 0 => return ()
      | fuel + 1 => do
        let text ← c.ownInput.take
        if text ≠ "" then
          let _ ← c.send 1 text
          for channel in channels do
            let _ ← channel.send text
          go fuel
    go maxReads
    return code

end Patchbay.Programs
