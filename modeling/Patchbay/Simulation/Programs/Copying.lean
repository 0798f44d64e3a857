import Patchbay.Simulation.Programs.Streams

/-!
# Copying and moving

Programs that copy and move files and directories, alone or into a directory.
-/

namespace Patchbay.Programs

/-- Where something goes that is copied or moved: into a directory, or to a place of its own. -/
def destination (t : FileTree) (source target : String) : String :=
  if t.isDirectory ⟨target⟩ then
    let name := ((Path.segments ⟨source⟩).filter (· ≠ "")).getLast?.getD ""
    if target.endsWith "/" then target ++ name else target ++ "/" ++ name
  else target

/-- An entry put into another: the files of a directory come to those that are there. -/
def merged (new : Entry) : Nat → Option Entry → Entry
  | 0, _ => new
  | fuel + 1, old =>
    match new, old with
    | .directory es, some (.directory olds) =>
      .directory (es.foldl (fun all (name, e) =>
        Keyed.insert name (merged e fuel (Keyed.get? name all)) all) olds)
    | new, _ => new

/-- The sources and the target among arguments, or what is wrong with them. -/
def sourcesAndTarget (c : Context) (o : Options) (t : FileTree) :
    Except (Act Nat) (List String × String) :=
  match o.text? 't', o.operands.reverse with
  | some target, [] =>
    .error (c.misuse s!"missing file operand after '{target}'" 1)
  | some target, ws => .ok (ws.reverse, target)
  | none, [] => .error (c.misuse "missing file operand" 1)
  | none, [w] => .error (c.misuse s!"missing destination file operand after '{w}'" 1)
  | none, target :: sources =>
    if 1 < sources.length ∧ ¬ t.isDirectory ⟨target⟩ then
      let what := if t.exists? ⟨target⟩ then OsError.notDirectory else OsError.notFound
      .error do
        c.complain s!"target '{target}': {what.text}"
        return 1
    else .ok (sources.reverse, target)

def copyTable : OptionTable where
  plain := ['a', 'f', 'i', 'l', 'n', 'p', 'r', 'R', 'd', 'T', 'u', 'v', 'x', 's', 'L', 'P', 'H']
  withText := ['t', 'S']
  names := [("archive", 'a'), ("force", 'f'), ("no-clobber", 'n'), ("recursive", 'r'),
    ("target-directory", 't'), ("no-target-directory", 'T'), ("update", 'u'), ("verbose", 'v')]

def cp : Work := fun c =>
  c.withOptions copyTable 1 fun o => do
    let deep := o.has 'r' || o.has 'R' || o.has 'a'
    match sourcesAndTarget c o (← c.tree) with
    | .error complaint => complaint
    | .ok (sources, target) =>
      let mut code := 0
      for w in sources do
        let t ← c.tree
        let final := if o.has 'T' then target else destination t w target
        match t.locate ⟨w⟩ with
        | .error e =>
          c.complain s!"cannot stat '{w}': {e.text}"
          code := 1
        | .ok (place, e) =>
          let old := (t.locate ⟨final⟩).toOption
          if (e matches .directory _) && !deep then
            c.complain s!"-r not specified; omitting directory '{w}'"
            code := 1
          else if old.any fun (p, _) => p = place then
            c.complain s!"'{w}' and '{final}' are the same file"
            code := 1
          else if o.has 'n' ∧ old.isSome then pure ()
          else
            let fault : Option String :=
              match e, old with
              | .directory _, some (_, .file _) =>
                some s!"cannot overwrite non-directory '{final}' with directory '{w}'"
              | .file _, some (_, .directory _) =>
                some s!"cannot overwrite directory '{final}' with non-directory"
              | _, _ => none
            match fault with
            | some text =>
              c.complain text
              code := 1
            | none =>
              let result ← c.changeTree fun t => do
                match ← t.follow ⟨final⟩ with
                | .directory p => return t.put p (merged e 4096 (t.entry? p))
                | .entry d name slash =>
                  if slash ∧ e matches .file _ then throw .notDirectory
                  return t.put (d ++ [name]) (merged e 4096 (t.entry? (d ++ [name])))
              match result with
              | .ok () => if o.has 'v' then c.put s!"'{w}' -> '{final}'\n"
              | .error e =>
                c.complain s!"cannot create regular file '{final}': {e.text}"
                code := 1
      return code

def mv : Work := fun c =>
  c.withOptions copyTable 1 fun o => do
    match sourcesAndTarget c o (← c.tree) with
    | .error complaint => complaint
    | .ok (sources, target) =>
      let mut code := 0
      for w in sources do
        let t ← c.tree
        let final := if o.has 'T' then target else destination t w target
        match t.locate ⟨w⟩ with
        | .error e =>
          c.complain s!"cannot stat '{w}': {e.text}"
          code := 1
        | .ok (place, e) =>
          let old := (t.locate ⟨final⟩).toOption
          let fault : Option String :=
            match e, old with
            | _, some (p, other) =>
              if p = place then some s!"'{w}' and '{final}' are the same file"
              else
                match e, other with
                | .directory _, .file _ =>
                  some s!"cannot overwrite non-directory '{final}' with directory '{w}'"
                | .file _, .directory _ =>
                  some s!"cannot overwrite directory '{final}' with non-directory"
                | .directory _, .directory (_ :: _) =>
                  some s!"cannot move '{w}' to '{final}': Directory not empty"
                | _, _ => none
            | _, none => none
          match fault with
          | some text =>
            c.complain text
            code := 1
          | none =>
            if o.has 'n' ∧ old.isSome then pure ()
            else
              let result ← c.changeTree fun t => do
                match ← t.follow ⟨final⟩ with
                | .directory _ => throw .busy
                | .entry d name slash =>
                  if slash ∧ e matches .file _ then throw .notDirectory
                  if place.isPrefixOf (d ++ [name]) then throw .invalid
                  return (t.remove place).put (d ++ [name]) e
              match result with
              | .ok () => if o.has 'v' then c.put s!"renamed '{w}' -> '{final}'\n"
              | .error .invalid =>
                c.complain s!"cannot move '{w}' to a subdirectory of itself, '{final}'"
                code := 1
              | .error e =>
                c.complain s!"cannot move '{w}' to '{final}': {e.text}"
                code := 1
      return code

/-- Gives files further names, which here are copies. -/
def ln : Work := fun c =>
  c.withOptions copyTable 1 fun o => do
    match o.operands with
    | [] => c.misuse "missing file operand" 1
    | w :: rest =>
      let t ← c.tree
      let final := destination t w (rest.headD ".")
      let result ← c.changeTree fun t => do
        let (_, e) ← t.locate ⟨w⟩
        match ← t.follow ⟨final⟩ with
        | .directory _ => throw .exists
        | .entry d name _ =>
          if (t.entry? (d ++ [name])).isSome && !o.has 'f' then throw .exists
          return t.put (d ++ [name]) e
      match result with
      | .ok () => return 0
      | .error .exists =>
        c.complain s!"failed to create hard link '{final}': File exists"
        return 1
      | .error e =>
        c.complain s!"failed to access '{w}': {e.text}"
        return 1

end Patchbay.Programs
