import Patchbay.Simulation.Programs.Lines

/-!
# Sorting

Programs that bring lines into an order, by keys or as a whole, and that thin out lines that are
alike.
-/

namespace Patchbay.Programs

/-- How two lines are compared at a place. -/
structure SortKey where
  /-- From a field and a character on. -/
  first : Nat × Nat := (1, 1)
  /-- Up to a field, and a character of it or its end. -/
  last : Option (Nat × Nat) := none
  flags : List Char := []

namespace SortKey

/-- The key that a text stands for. -/
def ofText? (t : String) : Option SortKey :=
  let number (s : List Char) : Nat := s.foldl (fun n c => 10 * n + (c.toNat - '0'.toNat)) 0
  let position (s : List Char) : Option (Nat × Option Nat × List Char) :=
    let (a, rest) := s.span Char.isDigit
    if a.isEmpty then none
    else
      match rest with
      | '.' :: rest =>
        let (b, rest) := rest.span Char.isDigit
        some (number a, some (number b), rest)
      | rest => some (number a, none, rest)
  let (a, rest) := t.toList.span (· ≠ ',')
  match position a, rest with
  | some (f, c, flags), [] => some { first := (f, c.getD 1), flags }
  | some (f, c, flags), _ :: b =>
    (position b).map fun (g, d, more) =>
      { first := (f, c.getD 1), last := some (g, d.getD 0), flags := flags ++ more }
  | none, _ => none

def part (k : SortKey) (separator : Option Char) (l : List Char) : List Char :=
  let fields :=
    match separator with
    | some d => Text.splitAt d l
    | none => blankFields (l.length + 1) l
  let size (n : Nat) : Nat :=
    (fields.take n).foldl (fun n f => n + f.length + if separator.isSome then 1 else 0) 0
  let start := size (k.first.1 - 1) + (k.first.2 - 1)
  let stop :=
    match k.last with
    | none => l.length
    | some (f, 0) => size f - if separator.isSome then 1 else 0
    | some (f, n) => size (f - 1) + n
  let part := (l.take stop).drop start
  if k.flags.contains 'b' then part.dropWhile fun c => c = ' ' || c = '\t' else part

/-- The number at the start of a text, as the digits before and after a point, and whether it is
negative. -/
def numberOf (s : List Char) : Int × List Char :=
  let s := s.dropWhile fun c => c = ' ' || c = '\t'
  let (minus, s) := if s.head? = some '-' then (true, s.tail) else (false, s)
  let (whole, rest) := s.span Char.isDigit
  let fraction := if rest.head? = some '.' then rest.tail.takeWhile Char.isDigit else []
  let n : Int := whole.foldl (fun n c => 10 * n + (c.toNat - '0'.toNat)) 0
  let fraction := (fraction.reverse.dropWhile (· = '0')).reverse
  if minus then (-n, '-' :: fraction) else (n, fraction)

def compareNumbers (a b : List Char) : Ordering :=
  let scaled (s : List Char) : Int :=
    let (n, fraction) := numberOf s
    let minus := fraction.head? = some '-'
    let ds := if minus then fraction.tail else fraction
    let ds := (ds ++ List.replicate 12 '0').take 12
    let f : Int := ds.foldl (fun n c => 10 * n + (c.toNat - '0'.toNat)) 0
    n * 1000000000000 + if minus then -f else f
  compare (scaled a) (scaled b)

/-- How two texts compare character by character. -/
def compareTexts (a b : List Char) : Ordering :=
  if a = b then .eq else if String.ofList a < String.ofList b then .lt else .gt

def compareParts (k : SortKey) (a b : List Char) : Ordering :=
  let prepared (s : List Char) : List Char :=
    let s := if k.flags.contains 'f' then s.map Char.toUpper else s
    if k.flags.contains 'd' then s.filter fun c => c.isAlphanum || c = ' ' || c = '\t' else s
  let o :=
    if k.flags.any fun c => c ∈ ['n', 'g', 'h'] then compareNumbers a b
    else compareTexts (prepared a) (prepared b)
  if k.flags.contains 'r' then o.swap else o

end SortKey

def sort : Work := fun c =>
  let table : OptionTable :=
    { plain := ['b', 'c', 'C', 'd', 'f', 'g', 'h', 'i', 'm', 'n', 'r', 's', 'u', 'z']
      withText := ['k', 'o', 't']
      names := [("ignore-leading-blanks", 'b'), ("check", 'c'), ("dictionary-order", 'd'),
        ("ignore-case", 'f'), ("numeric-sort", 'n'), ("reverse", 'r'), ("stable", 's'),
        ("unique", 'u'), ("key", 'k'), ("output", 'o'), ("field-separator", 't')] }
  c.withOptions table 2 fun o => do
    let flags := (o.given.map Prod.fst).filter fun l => l ∈ ['b', 'd', 'f', 'g', 'h', 'n', 'r']
    let texts := (o.given.filter (·.1 = 'k')).map Prod.snd
    let keys := texts.filterMap SortKey.ofText?
    if keys.length < texts.length then
      c.complain "invalid number at field start: invalid count at start of key"
      return 2
    let keys := keys.map fun k => if k.flags.isEmpty then { k with flags } else k
    let separator := (o.text? 't').bind fun t => t.toList.head?
    let own : List SortKey := if keys.isEmpty then [{ flags }] else keys
    let byKeys (a b : List Char) : Ordering :=
      own.foldl (fun r k =>
        r.then (k.compareParts (k.part separator a) (k.part separator b))) .eq
    let isLast := o.has 's' || o.has 'u'
    let order (a b : List Char) : Ordering :=
      let last := SortKey.compareTexts a b
      (byKeys a b).then
        (if isLast then .eq else if flags.contains 'r' then last.swap else last)
    let complaint (w : String) (e : OsError) : String := s!"cannot read: {w}: {e.text}"
    let (inputs, isFine) ← c.texts o.operands complaint
    if !isFine then return 2
    let lines := inputs.flatMap fun (_, t) => linesOf t
    if o.has 'c' || o.has 'C' then
      let bad := ((lines.zip lines.tail).zipIdx 2).find? fun ((a, b), _) =>
        order a b = .gt || (o.has 'u' && byKeys a b = .eq)
      match bad with
      | none => return 0
      | some ((_, b), n) =>
        let name := o.operands.headD "-"
        if o.has 'c' then c.complain s!"{name}:{n}: disorder: {String.ofList b}"
        return 1
    let sorted := lines.mergeSort fun a b => order a b ≠ .gt
    let shown :=
      if o.has 'u' then
        sorted.foldr (fun a ls =>
          match ls with
          | b :: rest => if byKeys a b = .eq then a :: rest else a :: b :: rest
          | [] => [a]) []
      else sorted
    match o.text? 'o' with
    | none =>
      c.put (ofLines shown)
      return 0
    | some w =>
      match ← c.openOutput w .replacing with
      | .ok channel =>
        let _ ← channel.send (ofLines shown)
        return 0
      | .error e =>
        c.complain s!"open failed: {w}: {e.text}"
        return 2

/-- Lines that are alike and follow each other, with their number. -/
def runsOf (alike : List Char → List Char → Bool) : List (List Char) → List (Nat × List Char)
  | [] => []
  | l :: ls =>
    match runsOf alike ls with
    | (n, m) :: rest => if alike l m then (n + 1, l) :: rest else (1, l) :: (n, m) :: rest
    | [] => [(1, l)]

def uniq : Work := fun c =>
  let table : OptionTable :=
    { plain := ['c', 'd', 'D', 'i', 'u', 'z'], withText := ['f', 's', 'w']
      names := [("count", 'c'), ("repeated", 'd'), ("ignore-case", 'i'), ("unique", 'u'),
        ("skip-fields", 'f'), ("skip-chars", 's'), ("check-chars", 'w')] }
  c.withOptions table 1 fun o => do
    let number (l : Char) : Option Nat := (o.text? l).bind String.toNat?
    let key (l : List Char) : List Char :=
      let fields := blankFields (l.length + 1) l
      let l := ((number 'f').elim l fun n => (fields.drop n).flatten).drop ((number 's').getD 0)
      let l := (number 'w').elim l l.take
      if o.has 'i' then l.map Char.toLower else l
    match o.operands with
    | _ :: _ :: w :: _ => c.extraOperand w 1
    | ws =>
      let (inputs, isFine) ← c.texts (ws.take 1) Context.usualComplaint
      if !isFine then return 1
      let lines := inputs.flatMap fun (_, t) => linesOf t
      let runs := (runsOf (fun a b => key a = key b) lines).filter fun (n, _) =>
        (!o.has 'd' || 1 < n) && (!o.has 'u' || n = 1)
      let shown := runs.map fun (n, l) =>
        if o.has 'c' then
          let ds := Nat.toDigits 10 n
          List.replicate (7 - ds.length) ' ' ++ ds ++ ' ' :: l
        else l
      match ws[1]? with
      | none =>
        c.put (ofLines shown)
        return 0
      | some w =>
        match ← c.openOutput w .replacing with
        | .ok channel =>
          let _ ← channel.send (ofLines shown)
          return 0
        | .error e =>
          c.complain (Context.usualComplaint w e)
          return 1

end Patchbay.Programs
