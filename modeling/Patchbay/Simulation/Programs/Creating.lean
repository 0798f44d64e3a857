import Patchbay.Simulation.Programs.Streams

/-!
# Creating and removing

Programs that create and remove files and directories, and one that says which files can be run.
Other rights are not kept.
-/

namespace Patchbay.Programs

/-! ### Creating -/

def mkdir : Work := fun c =>
  let table : OptionTable :=
    { plain := ['p', 'v'], withText := ['m']
      names := [("parents", 'p'), ("verbose", 'v'), ("mode", 'm')] }
  c.withOptions table 1 fun o => do
    if o.operands.isEmpty then return ← c.missingOperand 1
    let mut code := 0
    for w in o.operands do
      let result ← c.changeTree fun t =>
        if o.has 'p' then
          match t.makeDirectories ⟨w⟩ with
          | (.ok (), t) => if t.isDirectory ⟨w⟩ then .ok t else .error .exists
          | (.error e, _) => .error e
        else t.makeDirectory ⟨w⟩
      match result with
      | .ok () => if o.has 'v' then c.put s!"{c.name}: created directory '{w}'\n"
      | .error e =>
        c.complain s!"cannot create directory '{w}': {e.text}"
        code := 1
    return code

def touch : Work := fun c =>
  let table : OptionTable :=
    { plain := ['a', 'c', 'f', 'h', 'm'], withText := ['d', 'r', 't']
      names := [("no-create", 'c'), ("date", 'd'), ("reference", 'r')] }
  c.withOptions table 1 fun o => do
    if o.operands.isEmpty then return ← c.misuse "missing file operand" 1
    let mut code := 0
    for w in o.operands do
      let result ← c.changeTree fun t =>
        match t.look ⟨w⟩ with
        | .ok _ => .ok t
        | .error .notFound => if o.has 'c' then .ok t else t.write ⟨w⟩ ""
        | .error e => .error e
      match result with
      | .ok () => pure ()
      | .error e =>
        let what := if e = .isDirectory then "setting times of" else "cannot touch"
        c.complain s!"{what} '{w}': {e.text}"
        code := 1
    return code

/-! ### Removing -/

def rmdir : Work := fun c =>
  let table : OptionTable :=
    { plain := ['p', 'v'], names := [("parents", 'p'), ("verbose", 'v')] }
  c.withOptions table 1 fun o => do
    if o.operands.isEmpty then return ← c.missingOperand 1
    let remove (w : String) : Act Bool := do
      let result ← c.changeTree fun t => do
        match ← t.follow ⟨w⟩ with
        | .directory _ => throw .invalid
        | .entry d name _ =>
          match t.entry? (d ++ [name]) with
          | none => throw .notFound
          | some (.file _) => throw .notDirectory
          | some (.directory []) => return t.remove (d ++ [name])
          | some (.directory _) => throw .notEmpty
      match result with
      | .ok () => return true
      | .error e =>
        c.complain s!"failed to remove '{w}': {e.text}"
        return false
    let rec above : Nat → String → List String
      | 0, _ => []
      | fuel + 1, w =>
        match Path.parent? ⟨w⟩ with
        | some p => if p.text = "" ∨ p.text = "/" then [] else p.text :: above fuel p.text
        | none => []
    let mut code := 0
    for w in o.operands do
      let mut goesOn := true
      for p in w :: (if o.has 'p' then above w.length w else []) do
        if goesOn then
          goesOn := ← remove p
          if !goesOn then code := 1
    return code

def rm : Work := fun c =>
  let table : OptionTable :=
    { plain := ['d', 'f', 'i', 'I', 'r', 'R', 'v']
      names := [("recursive", 'r'), ("force", 'f'), ("verbose", 'v'), ("dir", 'd')] }
  c.withOptions table 1 fun o => do
    let force := o.has 'f'
    let deep := o.has 'r' || o.has 'R'
    if o.operands.isEmpty then
      if force then return 0 else return ← c.missingOperand 1
    let mut code := 0
    for w in o.operands do
      let last := ((Path.segments ⟨w⟩).filter (· ≠ "")).getLast?
      if deep ∧ (last = some "." ∨ last = some "..") then
        c.complain s!"refusing to remove '.' or '..' directory: skipping '{w}'"
        code := 1
      else
        let result ← c.changeTree fun t => do
          let (place, e) ← t.locate ⟨w⟩
          match e with
          | .file _ => return t.remove place
          | .directory es =>
            if deep then return t.remove place
            else if o.has 'd' then
              if es.isEmpty then return t.remove place else throw .notEmpty
            else throw .isDirectory
        match result with
        | .ok () =>
          if o.has 'v' then c.put s!"removed '{w}'\n"
        | .error e =>
          let isGone := e = .notFound || e = .notDirectory
          if !(force && isGone) then
            c.complain s!"cannot remove '{w}': {e.text}"
            code := 1
    return code

def unlink : Work := fun c =>
  c.withOptions {} 1 fun o => do
    match o.operands with
    | [] => c.missingOperand 1
    | [w] =>
      let result ← c.changeTree fun t => do
        let (place, e) ← t.locate ⟨w⟩
        match e with
        | .file _ => return t.remove place
        | .directory _ => throw .isDirectory
      match result with
      | .ok () => return 0
      | .error e =>
        c.complain s!"cannot unlink '{w}': {e.text}"
        return 1
    | _ :: w :: _ => c.extraOperand w 1

/-- Whether files can be run after a change of their rights. -/
def makesRunnable? (mode : String) : Option Bool :=
  let s := mode.toList
  if s.all Char.isDigit ∧ ¬ s.isEmpty then
    some (s.any fun c => (c.toNat - '0'.toNat) % 2 = 1)
  else
    let users := s.takeWhile fun c => c ∈ ['u', 'g', 'o', 'a']
    match s.drop users.length with
    | '+' :: cs => if cs.contains 'x' then some true else none
    | '-' :: cs => if cs.contains 'x' then some false else none
    | '=' :: cs => some (cs.contains 'x')
    | _ => none

/-- Whether an argument is a change of rights that begins with a minus. -/
def isMode (w : String) : Bool :=
  match w.toList with
  | '-' :: c :: cs => (c :: cs).all fun c => c ∈ ['r', 'w', 'x', 'X', 's', 't']
  | _ => false

def chmod : Work := fun c =>
  let arguments := if c.arguments.head?.any isMode then "--" :: c.arguments else c.arguments
  let table : OptionTable := { plain := ['R', 'v', 'f', 'c'], stopsEarly := true }
  { c with arguments }.withOptions table 1 fun o => do
    match o.operands with
    | [] => c.missingOperand 1
    | [mode] => c.misuse s!"missing operand after '{mode}'" 1
    | mode :: ws =>
      let mut code := 0
      for w in ws do
        let result ← Act.attempt fun world => do
          let (place, _) ← (world.treeAt c.directory).locate ⟨w⟩
          let others := world.runnable.filter (· ≠ place)
          match makesRunnable? mode with
          | none => return (world, ())
          | some true => return ({ world with runnable := place :: others }, ())
          | some false => return ({ world with runnable := others }, ())
        match result with
        | .ok () => pure ()
        | .error e =>
          c.complain s!"cannot access '{w}': {e.text}"
          code := 1
      return code

end Patchbay.Programs
