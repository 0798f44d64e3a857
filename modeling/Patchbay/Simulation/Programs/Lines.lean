import Patchbay.Simulation.Programs.Streams
import Patchbay.Simulation.Text.Escaped

/-!
# Lines and their fields

Programs that print lines in another order or another shape, or only some of their fields or
characters.
-/

namespace Patchbay.Programs

def tac : Work := fun c =>
  c.withOptions {} 1 fun o => do
    let complaint (w : String) (e : OsError) : String :=
      s!"failed to open '{w}' for reading: {e.text}"
    c.eachInput o.operands 1 complaint fun i => do
      c.put (String.ofList (wholeLinesOf (← i.takeAll)).reverse.flatten)
      return 0

def rev : Work := fun c =>
  c.withOptions {} 1 fun o => do
    let complaint (w : String) (e : OsError) : String := s!"cannot open {w}: {e.text}"
    c.eachInput o.operands 1 complaint fun i => do
      let turned := (wholeLinesOf (← i.takeAll)).map fun l =>
        if l.getLast? = some '\n' then l.dropLast.reverse ++ ['\n'] else l.reverse
      c.put (String.ofList turned.flatten)
      return 0

/-- Numbers the lines that are not empty. -/
def nl : Work := fun c =>
  let table : OptionTable := { withText := ['b', 'w', 's', 'v', 'i', 'n'] }
  c.withOptions table 1 fun o => do
    let (inputs, isFine) ← c.texts o.operands Context.usualComplaint
    let width := ((o.text? 'w').bind String.toNat?).getD 6
    let between := ((o.text? 's').getD "\t").toList
    let all := o.text? 'b' = some "a"
    let lines := inputs.flatMap fun (_, t) => linesOf t
    let first := ((o.text? 'v').bind String.toNat?).getD 1
    let step := ((o.text? 'i').bind String.toNat?).getD 1
    let rec numbered (n : Nat) : List (List Char) → List (List Char)
      | [] => []
      | l :: ls =>
        if all || !l.isEmpty then
          let ds := Nat.toDigits 10 n
          (List.replicate (width - ds.length) ' ' ++ ds ++ between ++ l) :: numbered (n + step) ls
        else (List.replicate (width + between.length) ' ' ++ l) :: numbered n ls
    c.put (ofLines (numbered first lines))
    return if isFine then 0 else 1

/-- Texts with separators between them, which are used in turn. -/
def joinInTurn (separators : List Char) : Nat → List (List Char) → List Char
  | _, [] => []
  | _, [t] => t
  | n, t :: ts =>
    let d := (separators[n % max separators.length 1]?).toList.filter (· ≠ '\x00')
    t ++ d ++ joinInTurn separators (n + 1) ts

/-- The lines of inputs. Inputs that are read together, by the name of a minus, get lines in
turn. -/
def dealt (inputs : List (String × String)) : List (List (List Char)) :=
  let isShared (i : String × String) : Bool := i.1 = "-"
  let count := (inputs.filter isShared).length
  let shared := (inputs.filter isShared).flatMap fun (_, t) => linesOf t
  let turns := inputs.mapIdx fun n _ => ((inputs.take n).filter isShared).length
  (inputs.zip turns).map fun (i, turn) =>
    if isShared i then
      (shared.zipIdx.filter fun (_, n) => n % count = turn).map Prod.fst
    else linesOf i.2

/-- Joins the lines of files side by side, or all lines of a file. -/
def paste : Work := fun c =>
  let table : OptionTable :=
    { plain := ['s', 'z'], withText := ['d'], names := [("serial", 's'), ("delimiters", 'd')] }
  c.withOptions table 1 fun o => do
    let separators := ((({ } : Text.Escapes).text ((o.text? 'd').getD "\t")).1).toList
    let (inputs, isFine) ← c.texts o.operands Context.usualComplaint
    if !isFine then return 1
    let rows :=
      if o.has 's' then inputs.map fun (_, t) => joinInTurn separators 0 (linesOf t)
      else
        let columns := dealt inputs
        let size := columns.foldl (fun n ls => max n ls.length) 0
        (List.range size).map fun k => joinInTurn separators 0 (columns.map fun ls => ls.getD k [])
    c.put (ofLines rows)
    return 0

/-- The pieces of a line with so many characters each. -/
def pieces (width : Nat) : Nat → List Char → List (List Char)
  | 0, s => [s]
  | fuel + 1, s =>
    if s.length ≤ width then [s] else s.take width :: pieces width fuel (s.drop width)

def fold : Work := fun c =>
  let table : OptionTable :=
    { plain := ['b', 's'], withText := ['w'], names := [("width", 'w'), ("spaces", 's')] }
  c.withOptions table 1 fun o => do
    let width := max 1 (((o.text? 'w').bind String.toNat?).getD 80)
    c.eachInput o.operands 1 Context.usualComplaint fun i => do
      let folded := (wholeLinesOf (← i.takeAll)).map fun l =>
        let body := if l.getLast? = some '\n' then l.dropLast else l
        let ending := if l.getLast? = some '\n' then ['\n'] else []
        ['\n'].intercalate (pieces width l.length body) ++ ending
      c.put (String.ofList folded.flatten)
      return 0

/-- The fields of a line between blanks, each with the blanks before it. -/
def blankFields : Nat → List Char → List (List Char)
  | 0, _ => []
  | _, [] => []
  | fuel + 1, s =>
    let isBlank (c : Char) : Bool := c = ' ' || c = '\t'
    let blanks := s.takeWhile isBlank
    let word := (s.drop blanks.length).takeWhile (!isBlank ·)
    (blanks ++ word) :: blankFields fuel (s.drop (blanks.length + word.length))

abbrev Spans := List (Nat × Option Nat)

/-- The spans that a text stands for. -/
def spans? (t : String) : Option Spans :=
  let number? (s : List Char) : Option Nat :=
    if s.isEmpty || !s.all Char.isDigit then none
    else some (s.foldl (fun n c => 10 * n + (c.toNat - '0'.toNat)) 0)
  (Text.splitAt ',' t.toList).mapM fun part =>
    let (a, rest) := part.span (· ≠ '-')
    match a, rest with
    | a, [] => (number? a).bind fun n => if n = 0 then none else some (n, some n)
    | [], '-' :: b => (number? b).bind fun n => if n = 0 then none else some (1, some n)
    | a, ['-'] => (number? a).bind fun n => if n = 0 then none else some (n, none)
    | a, '-' :: b => do
      let first ← number? a
      let last ← number? b
      if first = 0 ∨ last < first then none else some (first, some last)
    | _, _ => none

def isIn (spans : Spans) (n : Nat) : Bool :=
  spans.any fun (first, last) => first ≤ n && last.all (n ≤ ·)

def spanFault (isFields : Bool) (t : String) : String :=
  let what := if isFields then "fields" else "byte/character positions"
  let numbered := s!"{what} are numbered from 1"
  let bad := (Text.splitAt ',' t.toList).find? fun part => (spans? (String.ofList part)).isNone
  match bad with
  | none | some [] => numbered
  | some ['-'] => "invalid range with no endpoint: -"
  | some part =>
    if part.all fun c => c.isDigit || c = '-' then
      let (a, b) := part.span (· ≠ '-')
      if a.all (· = '0') && !a.isEmpty then numbered
      else if b.tail.all Char.isDigit then "invalid decreasing range"
      else "invalid field range"
    else
      let what := if isFields then "field value" else "byte/character position"
      let shown := String.ofList (part.dropWhile fun c => c.isDigit || c = '-')
      s!"invalid {what} '{shown}'"

def cut : Work := fun c =>
  let table : OptionTable :=
    { plain := ['s', 'n', 'z', 'C'], withText := ['b', 'c', 'd', 'f', 'O']
      names := [("bytes", 'b'), ("characters", 'c'), ("delimiter", 'd'), ("fields", 'f'),
        ("only-delimited", 's'), ("complement", 'C'), ("output-delimiter", 'O')] }
  c.withOptions table 1 fun o => do
    let kinds := o.given.filter fun (l, _) => l ∈ ['b', 'c', 'f']
    match kinds with
    | [] => c.misuse "you must specify a list of bytes, characters, or fields" 1
    | [(kind, text)] =>
      match spans? text with
      | none =>
        c.misuse (spanFault (kind = 'f') text) 1
      | some spans =>
        let delimiter := (o.text? 'd').getD "\t"
        if 1 < delimiter.length then
          return ← c.misuse "the delimiter must be a single character" 1
        if (o.text? 'd').isSome ∧ kind ≠ 'f' then
          return ← c.misuse "an input delimiter may be specified only when operating on fields" 1
        let d := delimiter.toList.headD '\x00'
        let between := (o.text? 'O').getD delimiter
        let wanted (n : Nat) : Bool := isIn spans n != o.has 'C'
        c.eachInput o.operands 1 Context.usualComplaint fun i => do
          let text ← i.takeAll
          let rows := (linesOf text).filterMap fun l =>
            if kind = 'f' then
              let fields := Text.splitAt d l
              if fields.length = 1 then if o.has 's' then none else some l
              else
                let chosen := (fields.zipIdx 1).filter fun (_, n) => wanted n
                some (between.toList.intercalate (chosen.map Prod.fst))
            else some (((l.zipIdx 1).filter fun (_, n) => wanted n).map Prod.fst)
          c.put (ofLines rows)
          return 0
    | _ => c.misuse "only one type of list may be specified" 1

end Patchbay.Programs
