import Patchbay.Simulation.Shell.Pattern
import Patchbay.Simulation.Shell.State

/-!
# What words stand for

A word stands for a row of fields. Its parameters, commands and calculations give way to what they
stand for; what came in this way without quotes is split at separators; a field that is a pattern
gives way to the paths that fit it.
-/

namespace Patchbay.Shell

/-- What a shell needs to run parts of a script. -/
structure Runner where
  /-- Runs commands; the last of them may be the last thing that the process does. -/
  run : List Command → (isLast : Bool) → Run Unit
  /-- Runs the text of a script, in the same way, and says whether there was anything to run. -/
  runText : String → (isLast : Bool) → Run Bool
  launch : Launch

/-! ### Processes of the shell -/

/-- The end of a shell's process: the trap for the end runs first. -/
def conclude (r : Runner) (s : State) : Process :=
  match s.traps.lookup 0 with
  | none | some "" => .ends (.ofCode (UInt8.ofNat s.code))
  | some action =>
    let s := { s with traps := s.traps.filter (·.1 ≠ 0), codeBefore := some s.code }
    r.runText action false s fun (result, after) =>
      let keeps := result matches .ok _ | .error .function
      .ends (.ofCode (UInt8.ofNat (if keeps then s.code else after.code)))

/-- The process that a part of a run makes up. -/
def processOf (r : Runner) (s : State) (m : Run Unit) : Process :=
  m s fun (_, s) => conclude r s

/-- A process of the shell's own, which starts with the state of the shell. -/
def subshell (r : Runner) (s : State) (m : Run Unit) (own : Nat) : Process :=
  processOf r
    { s with
      own, parent := s.own, started := [], loops := 0
      traps := s.traps.filter fun (_, action) => action = "" } m

/-! ### Glyphs -/

inductive Glyph where
  | char (c : Char) (quoted splits : Bool)
  /-- Between two arguments. -/
  | gap
  /-- Where something stood in quotes, empty as it may be. -/
  | mark

def glyphs (t : String) (quoted splits : Bool) : List Glyph :=
  t.toList.map fun c => .char c quoted splits

def textOf (gs : List Glyph) : String :=
  String.ofList (gs.filterMap fun
    | .char c _ _ => some c
    | .gap => some ' '
    | .mark => none)

def lettersOf (gs : List Glyph) : List Letter :=
  gs.filterMap fun
    | .char c quoted _ => some (c, quoted)
    | .gap => some (' ', true)
    | .mark => none

structure Fields where
  /-- The fields that are complete, the last one first. -/
  done : List (List Letter) := []
  /-- The field that is not, from its end. -/
  current : Option (List Letter) := none
  /-- Whether blank space has just ended a field. -/
  isSoft : Bool := false

namespace Fields

def finish (f : Fields) : Fields :=
  match f.current with
  | some w => { done := w.reverse :: f.done }
  | none => { f with isSoft := false }

def take (separators : List Char) (f : Fields) : Glyph → Fields
  | .gap => f.finish
  | .mark => { f with current := some (f.current.getD []), isSoft := false }
  | .char c quoted splits =>
    if splits && separators.contains c then
      let isBlank := c = ' ' || c = '\t' || c = '\n'
      match f.current with
      | some _ => { f.finish with isSoft := isBlank }
      | none =>
        if isBlank then f
        else if f.isSoft then { f with isSoft := false }
        else { f with done := [] :: f.done }
    else { f with current := some ((c, quoted) :: f.current.getD []), isSoft := false }

def ofGlyphs (separators : List Char) (gs : List Glyph) : List (List Letter) :=
  (gs.foldl (take separators) {}).finish.done.reverse

end Fields

/-! ### Homes -/

/-- The home directory that a name after a tilde stands for. -/
def State.homeOf? (s : State) (name : String) : Option String :=
  if name = "" then s.value? "HOME" else if name = "root" then some "/root" else none

/-- A text with the home directory in place of a tilde at its start. -/
def State.homed (s : State) (t : List Char) (isWhole : Bool) : Option (String × String) :=
  match t with
  | '~' :: rest =>
    let name := rest.takeWhile (· ≠ '/')
    if name.length = rest.length && !isWhole then none
    else (s.homeOf? (String.ofList name)).map fun home =>
      (home, String.ofList (rest.drop name.length))
  | _ => none

/-- A word with the home directory in place of a tilde at its start. -/
def State.withHome (s : State) : Word → Word
  | .text t false :: ps =>
    match s.homed t.toList ps.isEmpty with
    | some (home, rest) => .text home true :: .text rest false :: ps
    | none => .text t false :: ps
  | w => w

def colonParts (t : List Char) : List (List Char) :=
  match Text.splitAt ':' t with
  | [] => []
  | p :: ps => p :: ps.map (':' :: ·)

/-- The value of an assignment with home directories in place of tildes at its start and after
colons. -/
def State.withHomes (s : State) : Word → Word
  | [] => []
  | .text t false :: ps =>
    let parts := (colonParts t.toList).map fun part =>
      match part with
      | ':' :: part =>
        match s.homed part true with
        | some (home, rest) => [Piece.text ":" false, .text home true, .text rest false]
        | none => [Piece.text (String.ofList (':' :: part)) false]
      | part =>
        match s.homed part ps.isEmpty with
        | some (home, rest) => [Piece.text home true, .text rest false]
        | none => [Piece.text (String.ofList part) false]
    parts.flatten ++ ps
  | w => w

/-! ### Expansion -/

/-- What commands print, without the line ends at its end. -/
def outputOf (r : Runner) (body : List Command) : Run String := do
  let s ← get
  let pipe ← Run.act (Act.change World.addPipe)
  Run.setChannels s.channels (.reader pipe :: s.saved)
  let channels := (1, .writer pipe) :: s.channels.filter (·.1 ≠ 1)
  let inner := { s with channels, isTested := false }
  let child ← Run.act (Act.start channels (subshell r inner (r.run body true)))
  let text ← Run.act (.takes pipe .whole)
  Run.setChannels s.channels s.saved
  let status ← Run.act (Act.await child)
  modify fun s => { s with wordCode := answerOf status }
  return String.ofList ((text.toList.filter (· ≠ '\x00')).reverse.dropWhile (· = '\n')).reverse

def calculate (text : String) : Run String := do
  let s ← get
  match do (← Calculation.ofText text).result s.parameter? [] with
  | .ok (n, values) =>
    for (x, n) in values.reverse do Run.assign x (toString n)
    return toString n
  | .error e => Run.fail (e.message text)

mutual

/-- The glyphs of a word. Text of a word that stands for a parameter is split. -/
def expandWord (r : Runner) (fuel : Nat) (splits : Bool) (w : Word) : Run (List Glyph) :=
  match fuel with
  | 0 => Run.fail "word too long"
  | fuel + 1 =>
    match w with
    | [] => return []
    | p :: ps => do
      let gs ← expandPiece r fuel splits p
      return gs ++ (← expandWord r fuel splits ps)

def expandPiece (r : Runner) (fuel : Nat) (splits : Bool) (p : Piece) : Run (List Glyph) :=
  match fuel with
  | 0 => Run.fail "word too long"
  | fuel + 1 =>
    let value (t : String) (quoted : Bool) : List Glyph :=
      if quoted then .mark :: glyphs t true false else glyphs t false true
    match p with
    | .text t true => return .mark :: glyphs t true false
    | .text t false => return glyphs t false splits
    | .output body quoted => return value (← outputOf r body) quoted
    | .calculation e quoted => do
      let text := textOf (← expandWord r fuel false e)
      return value (← calculate text) quoted
    | .parameter name use word quoted => do
      let s ← get
      let text? := s.parameter? name
      let all : List Glyph :=
        if name = "@" || (name = "*" && !quoted) then
          ((s.arguments.map (value · quoted)).intersperse [.gap]).flatten
        else value (text?.getD "") quoted
      let isMissing (empty : Bool) : Bool :=
        match text? with
        | none => true
        | some t => empty && t = ""
      let missing : Run (List Glyph) :=
        if s.isOn 'u' && name ∉ ["@", "*"] then Run.fail s!"{name}: parameter not set"
        else return all
      let mark (gs : List Glyph) : List Glyph := if quoted then .mark :: gs else gs
      match use with
      | .value => if text?.isNone then missing else return all
      | .length =>
        if text?.isNone && s.isOn 'u' then missing
        else return value (toString (text?.getD "").utf8ByteSize) quoted
      | .orElse empty =>
        if isMissing empty then return mark (← expandWord r fuel true (s.withHome word))
        else return all
      | .orAssign empty =>
        if isMissing empty then
          let t := textOf (← expandWord r fuel true (s.withHomes word))
          Run.assign name t
          return value t quoted
        else return all
      | .orFail empty =>
        if isMissing empty then
          let t := textOf (← expandWord r fuel true word)
          let usual := if empty then "parameter not set or null" else "parameter not set"
          let told := if t = "" then usual else t
          Run.fail s!"{name}: {told}"
        else return all
      | .andThen empty =>
        if isMissing empty then return mark []
        else return mark (← expandWord r fuel true (s.withHome word))
      | .withoutStart longest =>
        if text?.isNone && s.isOn 'u' then missing
        else
          let p := patternOf (lettersOf (← expandWord r fuel true word))
          return value (String.ofList (cutStart p longest (text?.getD "").toList)) quoted
      | .withoutEnd longest =>
        if text?.isNone && s.isOn 'u' then missing
        else
          let p := patternOf (lettersOf (← expandWord r fuel true word))
          return value (String.ofList (cutEnd p longest (text?.getD "").toList)) quoted
      | .unknown => Run.fail "Bad substitution"

end

def patience : Nat := 0x100000

/-- The text that a word stands for where only one can stand. -/
def expandText (r : Runner) (w : Word) : Run String := do
  return textOf (← expandWord r patience false ((← get).withHome w))

def expandValue (r : Runner) (w : Word) : Run String := do
  return textOf (← expandWord r patience false ((← get).withHomes w))

def expandPattern (r : Runner) (w : Word) : Run Pattern := do
  return patternOf (lettersOf (← expandWord r patience false ((← get).withHome w)))

/-! ### Paths that fit -/

def segmentsOf : List Letter → List (List Letter)
  | [] => [[]]
  | (c, quoted) :: ls =>
    match segmentsOf ls with
    | [] => [[(c, quoted)]]
    | s :: ss => if c = '/' then [] :: s :: ss else ((c, quoted) :: s) :: ss

/-- The paths that begin with a text and go on as segments of a pattern do. -/
def pathsFrom (t : FileTree) (start : String) : List (List Letter) → List String
  | [] => []
  | segment :: rest =>
    let name := String.ofList (segment.map Prod.fst)
    let names :=
      if isOpen segment then
        let p := patternOf segment
        let isHidden (n : String) : Bool := n.startsWith "."
        let all := t.namesIn ⟨if start = "" then "." else start⟩
        let shown := all.filter fun n => !isHidden n || name.startsWith "."
        shown.filter fun n => p.fits n.toList
      else [name]
    match rest with
    | [] =>
      (names.map (start ++ ·)).filter fun p =>
        isOpen segment || p = "" || t.exists? ⟨p⟩
    | rest =>
      names.flatMap fun n =>
        if n = "" || t.isDirectory ⟨start ++ n⟩ then pathsFrom t (start ++ n ++ "/") rest else []

/-- The fields that words stand for. -/
def expandWords (r : Runner) (ws : List Word) : Run (List String) := do
  let fields ← ws.mapM fun w => do
    let s ← get
    let gs ← expandWord r patience false (s.withHome w)
    let s ← get
    let fields := Fields.ofGlyphs s.separators gs
    let t ← Run.act (Act.look fun w => w.treeAt s.directory)
    return fields.flatMap fun letters =>
      let text := String.ofList (letters.map Prod.fst)
      if isOpen letters && !s.isOn 'f' then
        match pathsFrom t "" (segmentsOf letters) with
        | [] => [text]
        | paths => paths
      else [text]
  return fields.flatten

end Patchbay.Shell
