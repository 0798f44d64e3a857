import Patchbay.Supervision.Host

/-!
# Supervision in time

When the programs of services run on a host, the events of a run follow: what cannot be started ends
before anything else, every other exit is sent when the host tells of it, and all are received
without delay.
-/

namespace Patchbay.Supervision

variable {σ : Type}

/-- The state when a run begins, after a shutdown was asked for if so. -/
def begun (services : List Service) (shutdown : Bool) : Supervision :=
  let asked := if shutdown then [Event.shutdown, Event.noticed] else []
  ((start services).steps asked).getD (start services)

def startAll (host : Host σ) : List Service → σ → List (Except OsError Nat) × σ
  | [], h => ([], h)
  | service :: services, h =>
    let (result, h) := host.start service h
    let (results, h) := startAll host services h
    (result :: results, h)

/-- The state when a service has ended and its exit was received. -/
def settle (s : Supervision) (index : Nat) (e : Ending) : Supervision :=
  (s.steps [.ends index e, .received]).getD s

/-- The state when a service has ended if it could not be started. -/
def settleFailure (s : Supervision) : Except OsError Nat × Nat → Supervision
  | (.error e, index) => s.settle index (.spawnFailed e)
  | (.ok _, _) => s

/-- The state when services that could not be started have ended. -/
def settleFailures (s : Supervision) (results : List (Except OsError Nat)) : Supervision :=
  results.zipIdx.foldl settleFailure s

def processes (results : List (Except OsError Nat)) : List (Nat × Nat) :=
  results.zipIdx.filterMap fun (result, index) => result.toOption.map (·, index)

/-- The state when all services have ended whose programs run, and the host then. Once they are told
to stop, none of the programs goes on. -/
def settleAll (host : Host σ) (s : Supervision) (processes : List (Nat × Nat)) :
    Nat → σ → Supervision × σ
  | 0, h => (s, h)
  | fuel + 1, h =>
    if s.stopping then
      (processes.foldl (fun s process => s.settle process.2 .stopped) s, host.kill h)
    else
      match host.wait h with
      | none => (s, h)
      | some (id, status, h) =>
        let s := (processes.lookup id).elim s (s.settle · (.ofStatus status))
        settleAll host s (processes.filter (·.1 ≠ id)) fuel h

/-- A run of services on a host, after a shutdown was asked for if so. -/
def run (host : Host σ) (services : List Service) (shutdown : Bool) (h : σ) : Supervision × σ :=
  let (results, h) := startAll host services h
  let s := (begun services shutdown).settleFailures results
  settleAll host s (processes results) (services.length + 1) h

end Patchbay.Supervision
