import Patchbay.Simulation.Shell.Variables
import Patchbay.Simulation.Text.Escaped

/-!
# Where the shell works

Commands about the working directory of the shell, and about what others may do with its files.
-/

namespace Patchbay.Shell

/-! ### The working directory -/

def pathOfPlace (p : Place) : String := "/" ++ "/".intercalate p

def enter (path : String) : Run Bool := do
  let s ← get
  let target ← Run.act (Act.look fun w =>
    match (w.treeAt s.directory).locate ⟨path⟩ with
    | .ok (place, .directory _) => some place
    | _ => none)
  match target with
  | none => return false
  | some place =>
    let put (name : String) (p : Place) (s : State) : State :=
      s.put name { value := some (pathOfPlace p), exported := true }
    set { put "PWD" place (put "OLDPWD" s.directory s) with directory := place }
    return true

/-- Where directories are looked for that are given by name, and whether finding one there is worth
a word. -/
def State.cdPaths (s : State) : List (String × Bool) :=
  match s.value? "CDPATH" with
  | none => [("", false)]
  | some t => (Text.splitAt ':' t.toList).map fun p => (String.ofList p, !p.isEmpty)

/-- Goes to another directory. -/
def changingPlace : Own := fun ws => do
  let (_, ws) ← lettersOfOptions ['L', 'P'] ws
  let s ← get
  let wanted :=
    match ws with
    | [] => (s.value? "HOME").getD ""
    | "-" :: _ => (s.value? "OLDPWD").getD ""
    | w :: _ => w
  let isHere : Bool :=
    match (Text.splitAt '/' wanted.toList).head? with
    | some p => p = [] || p = ['.'] || p = ['.', '.']
    | none => true
  let starts := if isHere && wanted ≠ "" then [("", false)] else s.cdPaths
  let name := if wanted = "" then "." else wanted
  let mut found : Option Bool := none
  for (start, shows) in starts do
    if found.isNone then
      let path := if start = "" then name else (Path.join ⟨start⟩ ⟨name⟩).text
      if ← enter path then found := some shows
  if found.isNone then
    if ← enter name then found := some false
  match found with
  | none => Run.fail s!"can't cd to {wanted}"
  | some shows =>
    if shows || ws.head? = some "-" then Run.print (pathOfPlace (← get).directory ++ "\n")
    return 0

def showingPlace : Own := fun ws => do
  let _ ← lettersOfOptions ['L', 'P'] ws
  Run.print (pathOfPlace (← get).directory ++ "\n")
  return 0

/-! ### What others may do -/

/-- The bits that letters of rights stand for. -/
def rightsOf (cs : List Char) : Nat :=
  cs.foldl (fun n c => n ||| (([('r', 4), ('w', 2), ('x', 1)].lookup c).getD 0)) 0

/-- The bits of users that letters stand for, each with a right. -/
def usersOf (cs : List Char) (rights : Nat) : Nat :=
  let has (c : Char) : Bool := cs.isEmpty || cs.contains 'a' || cs.contains c
  (if has 'u' then 0o100 * rights else 0) ||| (if has 'g' then 0o10 * rights else 0) |||
    (if has 'o' then rights else 0)

/-- The rights after a change that is written in letters. -/
def changedRights? (old : Nat) (clause : List Char) : Option Nat :=
  let users := clause.takeWhile fun c => c ∈ ['u', 'g', 'o', 'a']
  match clause.drop users.length with
  | o :: cs =>
    if cs.all fun c => c ∈ ['r', 'w', 'x', 'X', 's', 't'] then
      let bits := usersOf users (rightsOf cs)
      match o with
      | '+' => some (old ||| bits)
      | '-' => some (old &&& (0o777 ^^^ bits))
      | '=' => some ((old &&& (0o777 ^^^ usersOf users 7)) ||| bits)
      | _ => none
    else none
  | [] => none

def shownRights (n : Nat) : String :=
  String.ofList ([('r', 4), ('w', 2), ('x', 1)].filterMap fun (c, bit) =>
    if n &&& bit ≠ 0 then some c else none)

/-- Shows or sets the rights that new files do not give. -/
def masking : Own := fun ws => do
  let (letters, ws) ← lettersOfOptions ['S'] ws
  let mask := (← get).mask
  match ws with
  | [] =>
    if letters.isEmpty then
      let ds := Nat.toDigits 8 mask
      Run.print (String.ofList (List.replicate (4 - ds.length) '0' ++ ds) ++ "\n")
    else
      let rights := 0o777 ^^^ mask
      let part (n : Nat) : String := shownRights (rights / n % 8)
      Run.print s!"u={part 0o100},g={part 0o10},o={part 1}\n"
    return 0
  | w :: _ =>
    let cs := w.toList
    if cs.head?.any Char.isDigit then
      if cs.all Text.isOctal then
        let mask := cs.foldl (fun n c => 8 * n + (c.toNat - '0'.toNat)) 0 % 0o1000
        modify fun s => { s with mask }
        return 0
      else Run.fail s!"Illegal number: {w}"
    else
      match (Text.splitAt ',' cs).foldlM changedRights? (0o777 ^^^ mask) with
      | some rights =>
        modify fun s => { s with mask := 0o777 ^^^ rights }
        return 0
      | none => Run.fail s!"Illegal mode: {w}"

/-! ### Limits -/

def limitNames : List (Char × String) :=
  [('t', "time(seconds)"), ('f', "file(blocks)"), ('d', "data(kbytes)"), ('s', "stack(kbytes)"),
    ('c', "coredump(blocks)"), ('m', "memory(kbytes)"), ('l', "locked memory(kbytes)"),
    ('p', "process"), ('n', "nofiles"), ('v', "vmemory(kbytes)"), ('w', "locks"),
    ('r', "rtprio")]

def firstLimits : List (Char × Option Nat × Option Nat) :=
  [('s', some 8192, none), ('c', some 0, none), ('l', some 8192, some 8192),
    ('n', some 1048576, some 1048576), ('r', some 0, some 0)]

def State.limit (s : State) (letter : Char) : Option Nat × Option Nat :=
  ((s.limits.lookup letter).or (firstLimits.lookup letter)).getD (none, none)

def isAbove : Option Nat → Option Nat → Bool
  | _, none => false
  | none, some _ => true
  | some a, some b => b < a

/-- Shows how much the shell may use, or sets a limit. -/
def limiting : Own := fun ws => do
  let known := ['H', 'S', 'a'] ++ limitNames.map Prod.fst
  let (letters, ws) ← lettersOfOptions known ws
  let isHard := letters.contains 'H'
  let isSoft := letters.contains 'S'
  let letter := (letters.filter fun c => c ≠ 'H' && c ≠ 'S' && c ≠ 'a').getLast?.getD 'f'
  let s ← get
  let shown (c : Char) : String :=
    let (now, most) := s.limit c
    ((if isHard && !isSoft then most else now).map toString).getD "unlimited"
  match ws, letters.contains 'a' with
  | [], true =>
    for (c, name) in limitNames do
      let name := name ++ String.ofList (List.replicate (20 - name.length) ' ')
      Run.print s!"{name} {shown c}\n"
    return 0
  | [], false =>
    Run.print (shown letter ++ "\n")
    return 0
  | _, true | _ :: _ :: _, false => Run.fail "too many arguments"
  | [w], false =>
    if w ≠ "unlimited" ∧ !w.toList.all Char.isDigit then Run.fail "bad number"
    let value := if w = "unlimited" then none else some (ofDigits w.toList)
    let (now, most) := s.limit letter
    let now := if isSoft || !isHard then value else now
    let hardest := if isHard || !isSoft then value else most
    if isAbove hardest most then
      Run.fail "error setting limit (Operation not permitted)"
    if isAbove now hardest then Run.fail "error setting limit (Invalid argument)"
    set { s with limits := (letter, now, hardest) :: s.limits.filter (·.1 ≠ letter) }
    return 0

end Patchbay.Shell
