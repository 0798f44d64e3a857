import Patchbay.Simulation.Programs.Context
import Patchbay.Simulation.Shell.Variables

/-!
# What names stand for

A name at the start of a command stands for another text, for a key of the language, for a function,
for a command of the shell, or for a program.
-/

namespace Patchbay.Shell

/-- The commands of the shell that functions can stand in for. -/
def plainCommands : List String :=
  ["[", "alias", "bg", "cd", "chdir", "command", "echo", "false", "fg", "getopts", "hash", "jobs",
    "kill", "printf", "pwd", "read", "test", "true", "type", "ulimit", "umask", "unalias", "wait"]

inductive Meaning where
  | keyword
  | alias (text : String)
  | special
  | function
  | own
  | program (path : String)
deriving DecidableEq, Repr

def findProgram (name : String) : Run (Option String) := do
  let s ← get
  if name.contains '/' then
    let isThere ← Run.act (Act.look fun w => (w.treeAt s.directory).exists? ⟨name⟩)
    return if isThere then some name else none
  else
    let path := (s.value? "PATH").getD ""
    Run.act (Act.look fun w => w.find? s.directory path name)

/-- What a name stands for, if it stands for anything. -/
def meaningOf (name : String) : Run (Option Meaning) := do
  let s ← get
  if Parser.keywords.contains name then return some .keyword
  else
    match s.aliases.lookup name with
    | some text => return some (.alias text)
    | none =>
      if Parser.specialCommands.contains name then return some .special
      else if (s.functions.lookup name).isSome then return some .function
      else if plainCommands.contains name then return some .own
      else return (← findProgram name).map .program

def telling : Own := fun ws => do
  let mut code := 0
  for name in ws do
    match ← meaningOf name with
    | some .keyword => Run.print s!"{name} is a shell keyword\n"
    | some (.alias text) => Run.print s!"{name} is an alias for {text}\n"
    | some .special => Run.print s!"{name} is a special shell builtin\n"
    | some .function => Run.print s!"{name} is a shell function\n"
    | some .own => Run.print s!"{name} is a shell builtin\n"
    | some (.program path) => Run.print s!"{name} is {path}\n"
    | none =>
      Run.print s!"{name}: not found\n"
      code := 127
  return code

/-- Shows what a name stands for as the shell would read it. -/
def showing (name : String) : Run Nat := do
  match ← meaningOf name with
  | some (.alias text) =>
    Run.print s!"alias {name}={inQuotes text}\n"
    return 0
  | some (.program path) =>
    Run.print s!"{path}\n"
    return 0
  | some _ =>
    Run.print s!"{name}\n"
    return 0
  | none => return 127

def lookingUp : Own := fun ws => do
  let (_, ws) ← lettersOfOptions ['r', 'v'] ws
  let mut code := 0
  for name in ws do
    if (← meaningOf name).isNone then
      Run.complain s!"{name}: not found"
      code := 1
  return code

/-- Lets names stand for other texts, or shows what they stand for. -/
def naming : Own := fun ws => do
  if ws.isEmpty then
    for (name, text) in (← get).aliases do Run.print s!"{name}={inQuotes text}\n"
    return 0
  let mut code := 0
  for w in ws do
    match splitAssignment w with
    | (name, some text) =>
      modify fun s => { s with aliases := Keyed.insert name text s.aliases }
    | (name, none) =>
      match (← get).aliases.lookup name with
      | some text => Run.print s!"{name}={inQuotes text}\n"
      | none =>
        let _ ← Run.send 2 s!"alias: {name} not found\n"
        code := 1
  return code

/-- Lets names stand for themselves again. -/
def unnaming : Own := fun ws => do
  let (letters, ws) ← lettersOfOptions ['a'] ws
  if ¬ letters.isEmpty then
    modify fun s => { s with aliases := [] }
    return 0
  let mut code := 0
  for name in ws do
    if ((← get).aliases.lookup name).isSome then
      modify fun s => { s with aliases := Keyed.erase name s.aliases }
    else
      let _ ← Run.send 2 s!"unalias: {name} not found\n"
      code := 1
  return code

end Patchbay.Shell
