import Patchbay.Config.Basic
import Patchbay.Files.Tree
import Patchbay.Supervision.ExitStatus

/-!
# Supervision

The supervisor starts all services at once. Each runs on its own and in the end sends one exit over
a queue. The first exit that is a failure stops all other services and is the error of the whole; a
service that the user interrupts, or a shutdown that is asked for, stops them without one. What ends
after that belongs to the stop.

Which of several things that can happen does happen is left open: a state says what an event makes
of it, and a history is any list of events that each can happen when it does.
-/

namespace Patchbay

/-! ### Services -/

/-- A program to be kept running, and the name it goes by in messages. -/
structure Service where
  name : String
  program : Path
  arguments : List String := []
deriving DecidableEq, Repr

namespace Service

def addArguments (s : Service) (arguments : List String) : Service :=
  { s with arguments := s.arguments ++ arguments }

def engine (e : EngineSettings) : Service := ⟨"engine", e.program, e.arguments⟩

def relay (r : RelaySettings) : Service := ⟨"relay", r.program, r.arguments⟩

/-- The services of a configuration. -/
def all (c : Config) : List Service := [engine c.engine, relay c.relay]

end Service

/-! ### Endings -/

/-- How a service ended. -/
inductive Ending where
  | exited (status : ExitStatus)
  | spawnFailed (error : OsError)
  /-- The service ran, but how it ended could not be learnt. -/
  | waitFailed (error : OsError)
  /-- By the signal of a user. -/
  | interrupted (status : ExitStatus)
  /-- By the supervisor. -/
  | stopped
deriving DecidableEq, Repr

namespace Ending

/-- The ending of a service that was waited for. -/
def ofStatus (s : ExitStatus) : Ending :=
  if s.signal? = some ExitStatus.interrupt then .interrupted s else .exited s

/-- Whether the service did not do what it had to. -/
def isFailure : Ending → Bool
  | .exited s => !s.isSuccess
  | .spawnFailed _ | .waitFailed _ => true
  | .interrupted _ | .stopped => false

def isInterruption : Ending → Bool
  | .interrupted _ => true
  | _ => false

end Ending

/-- A service's name, and how it ended. -/
structure Exit where
  name : String
  ending : Ending
deriving DecidableEq, Repr

/-- Why supervision fails. -/
inductive SupervisionError where
  | spawn (name : String) (error : OsError)
  | exited (name : String) (status : ExitStatus)
  | wait (name : String) (error : OsError)
deriving DecidableEq, Repr

namespace SupervisionError

/-- The error of a failure. -/
def ofExit? (e : Exit) : Option SupervisionError :=
  match e.ending with
  | .spawnFailed error => some (.spawn e.name error)
  | .waitFailed error => some (.wait e.name error)
  | .exited s => if s.isSuccess then none else some (.exited e.name s)
  | .interrupted _ | .stopped => none

def message : SupervisionError → String
  | .spawn name e => s!"{name} failed to start: {e.message}"
  | .exited name status => s!"{name} exited with {status.text}"
  | .wait name e => s!"lost track of {name}: {e.message}"

end SupervisionError

/-! ### States and events -/

/-- The supervisor and its services at a moment. -/
structure Supervision where
  /-- The services; one that has sent its exit is gone. -/
  running : List (Option Service)
  /-- Exits that were sent and not yet received, the oldest first. -/
  queue : List Exit := []
  /-- Whether a shutdown was asked for. -/
  shutdown : Bool := false
  /-- Whether the services have been told to stop. -/
  stopping : Bool := false
  /-- The failure that stopped the services. -/
  failure : Option Exit := none
  /-- All other exits that were received, in their order. -/
  exits : List Exit := []
deriving DecidableEq, Repr

namespace Supervision

/-- All services are started. -/
def start (services : List Service) : Supervision := { running := services.map some }

/-- What can happen. -/
inductive Event where
  /-- A service ends and sends its exit. -/
  | ends (index : Nat) (ending : Ending)
  /-- A shutdown is asked for. -/
  | shutdown
  /-- The supervisor notices that a shutdown was asked for. -/
  | noticed
  /-- The supervisor receives the oldest exit. -/
  | received
deriving DecidableEq, Repr

/-- The supervisor with an exit taken in. -/
def receive (s : Supervision) (e : Exit) : Supervision :=
  if s.stopping then { s with exits := s.exits ++ [e] }
  else if e.ending.isFailure then { s with stopping := true, failure := some e }
  else { s with stopping := e.ending.isInterruption, exits := s.exits ++ [e] }

/-- The state after an event, if it can happen. A service is only stopped once it has been told
to; a shutdown is noticed only if that has not happened yet. -/
def step (s : Supervision) : Event → Option Supervision
  | .ends index ending =>
    match s.running[index]? with
    | some (some service) =>
      if ending = .stopped ∧ ¬ s.stopping then none
      else some { s with
        running := s.running.set index none, queue := s.queue ++ [⟨service.name, ending⟩] }
    | _ => none
  | .shutdown => some { s with shutdown := true }
  | .noticed => if s.shutdown ∧ ¬ s.stopping then some { s with stopping := true } else none
  | .received =>
    match s.queue with
    | [] => none
    | e :: queue => some (receive { s with queue } e)

def steps (s : Supervision) : List Event → Option Supervision
  | [] => some s
  | e :: events => (s.step e).bind (·.steps events)

/-- Whether every service has ended and every exit was received. -/
def isOver (s : Supervision) : Bool := s.running.all Option.isNone ∧ s.queue = []

/-- What the supervisor returns once all is over: the exits in the order they were received, or the
error of the failure that stopped the services. -/
def result (s : Supervision) : Except SupervisionError (List Exit) :=
  match s.failure.bind SupervisionError.ofExit? with
  | some e => .error e
  | none => .ok s.exits

end Supervision

end Patchbay
