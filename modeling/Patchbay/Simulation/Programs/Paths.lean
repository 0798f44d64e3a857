import Patchbay.Simulation.Programs.Streams

/-!
# Paths

Programs that cut paths apart, and that follow them to the end.
-/

namespace Patchbay.Programs

/-- A text without the slashes at its end, but for a lone one. -/
def dropSlashes (s : List Char) : List Char :=
  let t := (s.reverse.dropWhile (· = '/')).reverse
  if t.isEmpty ∧ ¬ s.isEmpty then ['/'] else t

def lastName (s : List Char) : List Char :=
  let t := dropSlashes s
  if t = ['/'] then t else (t.reverse.takeWhile (· ≠ '/')).reverse

def withoutLastName (s : List Char) : List Char :=
  let t := dropSlashes s
  if t = ['/'] then t
  else
    let rest := (t.reverse.dropWhile (· ≠ '/')).reverse
    if rest.isEmpty then ['.'] else dropSlashes rest

def withoutEnding (name ending : List Char) : List Char :=
  if ending.length < name.length ∧ ending.isSuffixOf name then
    name.take (name.length - ending.length)
  else name

def basename : Work := fun c =>
  let table : OptionTable :=
    { plain := ['a', 'z'], withText := ['s'], stopsEarly := true
      names := [("multiple", 'a'), ("suffix", 's'), ("zero", 'z')] }
  c.withOptions table 1 fun o => do
    let ending := ((o.text? 's').getD "").toList
    let all := o.has 'a' || o.has 's'
    match o.operands, all with
    | [], _ => c.missingOperand 1
    | ws, true =>
      for w in ws do c.put (String.ofList (withoutEnding (lastName w.toList) ending) ++ "\n")
      return 0
    | [w], false =>
      c.put (String.ofList (lastName w.toList) ++ "\n")
      return 0
    | [w, e], false =>
      c.put (String.ofList (withoutEnding (lastName w.toList) e.toList) ++ "\n")
      return 0
    | _ :: _ :: w :: _, false => c.extraOperand w 1

def dirname : Work := fun c =>
  c.withOptions { plain := ['z'], names := [("zero", 'z')] } 1 fun o => do
    if o.operands.isEmpty then return ← c.missingOperand 1
    for w in o.operands do c.put (String.ofList (withoutLastName w.toList) ++ "\n")
    return 0

def pwd : Work := fun c =>
  let table : OptionTable :=
    { plain := ['L', 'P'], names := [("logical", 'L'), ("physical", 'P')] }
  c.withOptions table 1 fun _ => do
    c.put ("/" ++ "/".intercalate c.directory ++ "\n")
    return 0

def realpath : Work := fun c =>
  let table : OptionTable :=
    { plain := ['e', 'm', 's', 'L', 'P', 'q', 'z', 'f', 'n']
      names := [("canonicalize-existing", 'e'), ("canonicalize-missing", 'm'),
        ("no-symlinks", 's'), ("quiet", 'q')] }
  c.withOptions table 1 fun o => do
    if o.operands.isEmpty then return ← c.missingOperand 1
    let mut code := 0
    for w in o.operands do
      let t ← c.tree
      let found : Except OsError Place := do
        match ← t.follow ⟨w⟩ with
        | .directory p => return p
        | .entry d name slash =>
          match t.content? (d ++ [name]) with
          | none => if o.has 'e' then throw .notFound else return d ++ [name]
          | some (.file _) => if slash then throw .notDirectory else return d ++ [name]
          | some .directory => return d ++ [name]
      match found with
      | .ok p => c.put ("/" ++ "/".intercalate p ++ "\n")
      | .error e =>
        if !o.has 'q' then c.complain (Context.usualComplaint w e)
        code := 1
    return code

/-- Prints where links lead; no file is one. -/
def readlink : Work := fun c =>
  let table : OptionTable :=
    { plain := ['f', 'e', 'm', 'n', 'q', 's', 'v', 'z']
      names := [("canonicalize", 'f'), ("canonicalize-existing", 'e')] }
  c.withOptions table 1 fun o => do
    if o.operands.isEmpty then return ← c.missingOperand 1
    if o.has 'f' || o.has 'e' || o.has 'm' then realpath { c with arguments := "-q" :: c.arguments }
    else return 1

end Patchbay.Programs
