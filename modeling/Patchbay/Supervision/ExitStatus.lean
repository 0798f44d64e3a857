/-!
# Exit statuses

Who waits for a program is told by one word how it went: the low seven bits are zero for an exit
with a code, which stands in the next byte, or else the number of the signal that ended the program.
-/

namespace Patchbay

/-- The word that tells how a program went. -/
structure ExitStatus where
  word : UInt32
deriving DecidableEq, Repr

namespace ExitStatus

/-- The status of a program that exits with a code. -/
def ofCode (code : UInt8) : ExitStatus := ⟨code.toUInt32 <<< 8⟩

/-- The status of a program that is ended by a signal. -/
def ofSignal (signal : UInt32) : ExitStatus := ⟨signal⟩

def isSuccess (s : ExitStatus) : Bool := s.word = 0

def code? (s : ExitStatus) : Option Nat :=
  if s.word.toNat % 0x80 = 0 then some (s.word.toNat / 0x100 % 0x100) else none

/-- The signal that ended the program. -/
def signal? (s : ExitStatus) : Option Nat :=
  let low := s.word.toNat % 0x80
  if low ≠ 0 ∧ low ≠ 0x7f then some low else none

/-- Whether a signal left the memory of the program behind. -/
def dumped (s : ExitStatus) : Bool := s.word.toNat / 0x80 % 2 = 1

/-- The signal that halted the program. -/
def haltSignal? (s : ExitStatus) : Option Nat :=
  if s.word.toNat % 0x100 = 0x7f then some (s.word.toNat / 0x100 % 0x100) else none

/-- The number of the signal by which a user interrupts a program. -/
def interrupt : Nat := 2

/-- Signals from the first on. -/
def signalNames : List String :=
  ["HUP", "INT", "QUIT", "ILL", "TRAP", "ABRT", "BUS", "FPE", "KILL", "USR1", "SEGV", "USR2",
    "PIPE", "ALRM", "TERM", "STKFLT", "CHLD", "CONT", "STOP", "TSTP", "TTIN", "TTOU", "URG",
    "XCPU", "XFSZ", "VTALRM", "PROF", "WINCH", "IO", "PWR", "SYS"]

def signalName? : Nat → Option String
  | 0 => none
  | n + 1 => signalNames[n]?

def signalText (signal : Nat) : String :=
  match signalName? signal with
  | some name => s!"{signal} (SIG{name})"
  | none => toString signal

/-- A status in a message. -/
def text (s : ExitStatus) : String :=
  match s.code?, s.signal?, s.haltSignal? with
  | some code, _, _ => s!"exit status: {code}"
  | _, some signal, _ =>
    s!"signal: {signalText signal}" ++ if s.dumped then " (core dumped)" else ""
  | _, _, some signal => s!"stopped (not terminated) by signal: {signalText signal}"
  | _, _, none =>
    if s.word = 0xffff then "continued (WIFCONTINUED)"
    else s!"unrecognised wait status: {s.word.toInt32} 0x" ++
      String.ofList (Nat.toDigits 16 s.word.toNat)

end ExitStatus

end Patchbay
