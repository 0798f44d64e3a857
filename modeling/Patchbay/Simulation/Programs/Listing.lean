import Patchbay.Simulation.Programs.Streams
import Patchbay.Simulation.Shell.Pattern

/-!
# Listing and searching directories

A program shows what is in directories, one after the other or with all that is below them. Another
goes through all that is below them, and prints or removes what fits.
-/

namespace Patchbay.Programs

/-- Shows names in lines, with a mark after directories if asked for. -/
def shownNames (o : Options) (es : List (String × Entry)) : String :=
  let es := if o.has 'r' then es.reverse else es
  let mark : Entry → String
    | .directory _ => if o.has 'F' || o.has 'p' then "/" else ""
    | .file _ => ""
  let names := es.map fun (name, e) => name ++ mark e
  if o.has 'm' then ", ".intercalate names ++ (if names.isEmpty then "" else "\n")
  else String.join (names.map (· ++ "\n"))

def visible (o : Options) (es : List (String × Entry)) : List (String × Entry) :=
  let shown :=
    if o.has 'a' || o.has 'A' then es else es.filter fun (name, _) => !name.startsWith "."
  if o.has 'a' then (".", Entry.directory []) :: ("..", .directory []) :: shown else shown

/-- What is shown of a directory and of those below it, with their paths. -/
def directoryTexts (o : Options) : Nat → String → List (String × Entry) → List (String × String)
  | 0, _, _ => []
  | fuel + 1, path, es =>
    let shown := visible o es
    let inner := if o.has 'r' then shown.reverse else shown
    (path, shownNames o shown) :: inner.flatMap fun (name, e) =>
      match e with
      | .directory es =>
        if name = "." ∨ name = ".." then []
        else
          let below := if path.endsWith "/" then path ++ name else path ++ "/" ++ name
          directoryTexts o fuel below es
      | .file _ => []

def ls : Work := fun c =>
  let table : OptionTable :=
    { plain := ['1', 'a', 'A', 'd', 'R', 'F', 'p', 'r', 'm', 'x', 'C', 'f', 't', 'S', 'U', 'X', 'q',
        'h']
      names := [("all", 'a'), ("almost-all", 'A'), ("directory", 'd'), ("recursive", 'R'),
        ("classify", 'F'), ("reverse", 'r')] }
  c.withOptions table 2 fun o => do
    let ws := if o.operands.isEmpty then ["."] else o.operands
    let t ← c.tree
    let mut code := 0
    let mut found : List (String × Entry) := []
    for w in ws do
      match t.locate ⟨w⟩ with
      | .ok (_, e) => found := found ++ [(w, e)]
      | .error e =>
        c.complain s!"cannot access '{w}': {e.text}"
        code := 2
    let sorted := found.mergeSort fun a b => !(b.1 < a.1)
    let sorted := if o.has 'r' then sorted.reverse else sorted
    let isListed (e : Entry) : Bool := o.has 'd' || e matches .file _
    let files := sorted.filter fun (_, e) => isListed e
    let directories := sorted.filter fun (_, e) => !isListed e
    if ¬ files.isEmpty then
      c.put (shownNames o (if o.has 'r' then files.reverse else files))
    let titled := 1 < ws.length || o.has 'R'
    let texts := directories.flatMap fun (w, e) =>
      match e with
      | .directory es =>
        let texts := directoryTexts o 4096 w es
        if o.has 'R' then texts else texts.take 1
      | .file _ => []
    for ((path, text), n) in texts.zipIdx do
      let gap := if n = 0 ∧ files.isEmpty then "" else "\n"
      c.put ((if titled then s!"{gap}{path}:\n" else "") ++ text)
    return code

structure Search where
  name : Option Shell.Pattern := none
  kind : Option Char := none
  least : Nat := 0
  most : Nat := 4096
  deletes : Bool := false

namespace Search

def ofArguments (s : Search) : List String → Except String Search
  | [] => .ok s
  | "-name" :: p :: ws =>
    ofArguments { s with name := some (Shell.patternOf (p.toList.map (·, false))) } ws
  | "-type" :: k :: ws => ofArguments { s with kind := k.toList.head? } ws
  | "-maxdepth" :: n :: ws => ofArguments { s with most := (n.toNat?).getD 0 } ws
  | "-mindepth" :: n :: ws => ofArguments { s with least := (n.toNat?).getD 0 } ws
  | "-print" :: ws => ofArguments s ws
  | "-delete" :: ws => ofArguments { s with deletes := true } ws
  | w :: _ => .error s!"unknown predicate `{w}'"

def fits (s : Search) (depth : Nat) (name : String) (e : Entry) : Bool :=
  let kind := if e matches .directory _ then 'd' else 'f'
  s.least ≤ depth && s.most ≥ depth && s.kind.all (· = kind) &&
    s.name.all fun p => p.fits name.toList

def paths (s : Search) : Nat → Nat → String → String → Entry → List String
  | 0, _, _, _, _ => []
  | fuel + 1, depth, path, name, e =>
    let own := if s.fits depth name e then [path] else []
    let below :=
      match e with
      | .directory es =>
        es.flatMap fun (n, e) =>
          let inner := if path.endsWith "/" then path ++ n else path ++ "/" ++ n
          paths s fuel (depth + 1) inner n e
      | .file _ => []
    if s.deletes then below ++ own else own ++ below

end Search

def find : Work := fun c => do
  let starts := c.arguments.takeWhile fun w => !w.startsWith "-" && w ≠ "(" && w ≠ "!"
  match Search.ofArguments {} (c.arguments.drop starts.length) with
  | .error text =>
    c.complain text
    return 1
  | .ok search =>
    let mut code := 0
    for w in (if starts.isEmpty then ["."] else starts) do
      let t ← c.tree
      match t.locate ⟨w⟩ with
      | .error e =>
        c.complain s!"'{w}': {e.text}"
        code := 1
      | .ok (_, e) =>
        let name := ((Path.segments ⟨w⟩).filter (· ≠ "")).getLast?.getD "/"
        for p in search.paths 4096 0 w name e do
          if search.deletes then
            let _ ← c.changeTree fun t => do
              let (place, _) ← t.locate ⟨p⟩
              return t.remove place
          else c.put (p ++ "\n")
    return code

end Patchbay.Programs
