import Patchbay.Simulation.Machine.Process

/-!
# What programs are given, and where they are

A program is given a name and arguments, variables, a directory to work in and channels: 0 for what
it reads, 1 for what it prints, 2 for its complaints.

Programs that every system has are in certain directories; other files can be made to run as
programs. A name without a slash is looked for in the directories of a search path.
-/

namespace Patchbay

/-- What a program is given when it is started. -/
structure Context where
  /-- The name it is called by. -/
  name : String
  arguments : List String := []
  environment : List (String × String) := []
  directory : Place := []
  channels : Channels := [(0, .void), (1, .output), (2, .errors)]
  /-- The number of the process. -/
  id : Nat := 0
  /-- The number of the process that started it. -/
  parent : Nat := 0

/-- A way to start other programs: the process of the program that a path leads to. -/
abbrev Launch := World → Path → Context → Except OsError Process

namespace Context

def value? (c : Context) (name : String) : Option String := c.environment.lookup name

def send (c : Context) (number : Nat) (text : String) : Act Bool :=
  match c.channels.lookup number with
  | some channel => channel.send text
  | none => pure false

def print (c : Context) (text : String) : Act Unit := do
  let _ ← c.send 1 text

def complain (c : Context) (text : String) : Act Unit := do
  let _ ← c.send 2 s!"{c.name}: {text}\n"

/-- The tree of files, as it is seen from where the program works. -/
def tree (c : Context) : Act FileTree := Act.look fun w => w.treeAt c.directory

def changeTree (c : Context) (f : FileTree → Except OsError FileTree) :
    Act (Except OsError Unit) :=
  Act.attempt fun w => do
    let t ← f (w.treeAt c.directory)
    return (w.withTree t, ())

end Context

namespace Program

/-- The names of the programs that every system has. -/
def names : List String :=
  ["[", "basename", "bash", "cat", "chmod", "cmp", "cp", "cut", "dash", "dirname", "echo", "egrep",
    "env", "expr", "false", "fgrep", "find", "fold", "grep", "head", "id", "kill", "ln", "ls",
    "mkdir", "mv", "nice", "nl", "nohup", "paste", "printenv", "printf", "pwd", "readlink",
    "realpath", "rev", "rm", "rmdir", "sed", "seq", "setsid", "sh", "sleep", "sort", "sync", "tac",
    "tail", "tee", "test", "timeout", "touch", "tr", "true", "tty", "uname", "uniq", "unlink", "wc",
    "which", "whoami", "xargs", "yes"]

def directories : List Place := [["bin"], ["usr", "bin"]]

def name? (p : Place) : Option String :=
  match p.getLast? with
  | some name => if directories.contains p.dropLast && names.contains name then some name else none
  | none => none

/-- The tree with the programs in it. -/
def install (t : FileTree) : FileTree :=
  let files : Entry := .directory (Keyed.ofList (names.map (·, Entry.file "")))
  let t := if (t.content? ["usr"]).isNone then t.put ["usr"] (.directory []) else t
  (t.put ["bin"] files).put ["usr", "bin"] files

/-- Where programs are looked for if nothing else is said. -/
def searchPath : String :=
  "/usr/local/sbin:/usr/local/bin:/usr/sbin:/usr/bin:/sbin:/bin"

def candidates (path name : String) : List String :=
  (Text.splitAt ':' path.toList).map fun d =>
    if d.isEmpty then name else String.ofList d ++ "/" ++ name

end Program

namespace World

/-- Whether the file at a place can be run as a program. -/
def canRun (w : World) (p : Place) : Bool := (Program.name? p).isSome || w.runnable.contains p

/-- The path of a file with a name in the directories of a search path. -/
def find? (w : World) (directory : Place) (path name : String) : Option String :=
  (Program.candidates path name).find? fun p =>
    match (w.treeAt directory).look ⟨p⟩ with
    | .ok (.file _) => true
    | _ => false

/-- The process of the first of some paths that leads to something that can be started. If there is
none, the reason is what is wrong with one that is there. -/
def launchFrom (w : World) (launch : Launch) (paths : List String) (c : Context) :
    Except OsError Process :=
  search .notFound paths
where
  /-- The same, where the reason is known for the paths before. -/
  search (fault : OsError) : List String → Except OsError Process
    | [] => .error fault
    | p :: ps =>
      match launch w ⟨p⟩ c with
      | .ok process => .ok process
      | .error e => search (if e matches .notFound | .notDirectory then fault else e) ps

/-- The process of the program that a name leads to by a search path. -/
def launchByName (w : World) (launch : Launch) (path name : String) (c : Context) :
    Except OsError Process :=
  if name.contains '/' then launch w ⟨name⟩ c
  else if name = "" then .error .notFound
  else if FileTree.maxNameLength < name.utf8ByteSize then .error .nameTooLong
  else w.launchFrom launch (Program.candidates path name) c

end World

end Patchbay
