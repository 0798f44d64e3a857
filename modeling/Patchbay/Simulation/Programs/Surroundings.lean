import Patchbay.Simulation.Programs.Context
import Patchbay.Simulation.Programs.Streams

/-!
# The user, the system and the variables

Programs that tell in what surroundings they run.
-/

namespace Patchbay.Programs

def whoami : Work := fun c =>
  c.withOptions {} 1 fun o => do
    match o.operands with
    | w :: _ => c.extraOperand w 1
    | [] =>
      c.put "root\n"
      return 0

/-- Prints the numbers and names of the user. -/
def id : Work := fun c =>
  let table : OptionTable :=
    { plain := ['u', 'g', 'G', 'n', 'r', 'z', 'a']
      names := [("user", 'u'), ("group", 'g'), ("groups", 'G'), ("name", 'n'), ("real", 'r')] }
  c.withOptions table 1 fun o => do
    let single := o.has 'u' || o.has 'g' || o.has 'G'
    if single then c.put (if o.has 'n' then "root\n" else "0\n")
    else c.put "uid=0(root) gid=0(root) groups=0(root)\n"
    return 0

def uname : Work := fun c =>
  let table : OptionTable :=
    { plain := ['s', 'm', 'o', 'n', 'r', 'v', 'p', 'i', 'a']
      names := [("kernel-name", 's'), ("machine", 'm'), ("operating-system", 'o')] }
  c.withOptions table 1 fun o => do
    let known := [('s', "Linux"), ('m', "x86_64"), ('o', "GNU/Linux")]
    let asked := known.filter fun (l, _) => o.has l || (l = 's' && o.given.isEmpty)
    c.put (" ".intercalate (asked.map Prod.snd) ++ "\n")
    return 0

/-- Tells that no terminal is there. -/
def tty : Work := fun c =>
  c.withOptions { plain := ['s'], names := [("silent", 's'), ("quiet", 's')] } 2 fun o => do
    if !o.has 's' then c.put "not a tty\n"
    return 1

def printenv : Work := fun c =>
  c.withOptions { plain := ['0'], names := [("null", '0')], stopsEarly := true } 2 fun o => do
    if o.operands.isEmpty then
      for (name, value) in c.environment do c.put s!"{name}={value}\n"
      return 0
    let mut code := 0
    for w in o.operands do
      match c.value? w with
      | some value => c.put (value ++ "\n")
      | none => code := 1
    return code

def which : Work := fun c => do
  let (ws, all) :=
    match c.arguments with
    | "-a" :: ws => (ws, true)
    | ws => (ws, false)
  let mut code := if ws.isEmpty then 1 else 0
  for w in ws do
    let path := (c.value? "PATH").getD ""
    let candidates := if w.contains '/' then [w] else Program.candidates path w
    let found ← Act.look fun world =>
      candidates.filter fun p =>
        match (world.treeAt c.directory).locate ⟨p⟩ with
        | .ok (place, .file _) => world.canRun place
        | _ => false
    if found.isEmpty then code := 1
    for p in (if all then found else found.take 1) do c.put (p ++ "\n")
  return code

end Patchbay.Programs
