import Patchbay.Simulation.Shell.Expansion

/-!
# Channels that are led elsewhere

A redirection gives a channel of the shell a new end: a file, another channel, a text, or none. All
words are expanded before the first channel changes; the channels change one after the other, and
those before a fault stay changed until the command is over.
-/

namespace Patchbay.Shell

inductive Lead where
  | file (path : String) (how : Opening) (keepsOld : Bool)
  /-- To where another channel leads, or nowhere. -/
  | like (channel : Option Nat)
  | text (t : String)
deriving Repr

/-- The channel that a word names. -/
def channelOf? (t : String) : Option (Option Nat) :=
  match t.toList with
  | ['-'] => some none
  | [c] => if c.isDigit then some (some (c.toNat - '0'.toNat)) else none
  | _ => none

/-- Where a redirection leads, and which channel. -/
def leadOf (r : Runner) : Redirection → Run (Nat × Lead)
  | .mk channel direction word => do
    let path (how : Opening) (keepsOld : Bool) : Run (Nat × Lead) := do
      return (channel, .file (← expandText r word) how keepsOld)
    match direction with
    | .input => path .reading true
    | .both => path .changing true
    | .overwrite => path .replacing false
    | .append => path .appending true
    | .output => path .replacing ((← get).isOn 'C')
    | .likeInput | .likeOutput =>
      match channelOf? (← expandText r word) with
      | some c => return (channel, .like c)
      | none => Run.fail "Syntax error: Bad fd number"
    | .here number =>
      let word := ((← get).texts.lookup number).getD []
      return (channel, .text (textOf (← expandWord r patience false word)))

def faultOf (missing : String) (e : OsError) : String :=
  if e matches .notFound | .notDirectory then missing else e.text

def openFault (path : String) (e : OsError) : String :=
  s!"cannot open {path}: " ++ faultOf "No such file" e

def openFile (path : String) (how : Opening) (keepsOld : Bool) : Run Channel := do
  let s ← get
  let isThere ← Run.act (Act.look fun w => w.isPlainFile s.directory ⟨path⟩)
  if how = .replacing && keepsOld && isThere then Run.fail s!"cannot create {path}: File exists"
  match ← Run.act (Act.attempt fun w => w.openPath s.channels s.directory ⟨path⟩ how) with
  | .ok c => return c
  | .error e =>
    if how = .reading then Run.fail (openFault path e)
    else Run.fail (s!"cannot create {path}: " ++ faultOf "Directory nonexistent" e)

def lead : Nat × Lead → Run Unit
  | (channel, l) => do
    let s ← get
    let put (c : Channel) : Run Unit :=
      Run.setChannels ((channel, c) :: s.channels.filter (·.1 ≠ channel)) s.saved
    match l with
    | .file path how keepsOld => put (← openFile path how keepsOld)
    | .like none => Run.setChannels (s.channels.filter (·.1 ≠ channel)) s.saved
    | .like (some other) =>
      if other = channel then return ()
      match s.channels.lookup other with
      | some c => put c
      | none =>
        if channel = 2 then Run.setChannels (s.channels.filter (·.1 ≠ 2)) s.saved
        Run.fail s!"{other}: Bad file descriptor"
    | .text t =>
      let pipe ← Run.act (Act.change fun w =>
        let (w, pipe) := w.addPipe
        (w.setPipe pipe t, pipe))
      put (.reader pipe)

/-- Leads channels elsewhere for a part of a run, or for good if that part says so. If this fails,
the answer is that of the fault. -/
def withLeads (leads : List (Nat × Lead)) (part : Run Bool) (failed : Run Unit) : Run Unit := do
  if leads.isEmpty then
    let _ ← part
  else
    let s ← get
    let old := leads.filterMap fun (channel, _) => s.channels.lookup channel
    modify fun s => { s with saved := old ++ s.saved }
    let restore : Run Unit := Run.setChannels s.channels s.saved
    let isLed ←
      try
        for l in leads do lead l
        pure true
      catch
        | .failure => pure false
        | l => throw l
    if isLed then
      try
        let stays ← part
        if stays then Run.setChannels (← get).channels s.saved else restore
      catch l =>
        restore
        throw l
    else
      restore
      failed

end Patchbay.Shell
