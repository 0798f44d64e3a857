import Patchbay.Simulation.Machine.System
import Patchbay.Simulation.Programs.Table
import Patchbay.Supervision.Host

/-!
# A simulated host

A host on which the programs of services are simulated: they run as processes of a system, in a time
of its own. It knows the programs that every system has.
-/

namespace Patchbay

/-- A system of processes, and the variables that the programs of services are given. -/
structure Simulation where
  environment : List (String × String)
  system : System

namespace Simulation

/-- The microseconds between two starts. -/
def startTime : Nat := 1000

def firstId : Nat := 100

/-- Starts the program of a service. -/
def start (service : Service) (m : Simulation) : Except OsError Nat × Simulation :=
  let { environment, system } := m
  let c : Context :=
    { name := service.program.text, arguments := service.arguments, environment
      directory := system.world.tree.workingDirectory, id := system.nextId
      parent := System.outside }
  if (service.program.text :: service.arguments).any (·.contains '\x00') then
    (.error .nullInCommand, m)
  else
    let path := (environment.lookup "PATH").getD Program.searchPath
    let launch := Program.launch Program.depth
    match system.world.launchByName launch path service.program.text c with
    | .error e => (.error e, m)
    | .ok process =>
      let (system, id) := system.add (startTime * system.tasks.length) c.channels process
      (.ok id, { m with system })

def host : Host Simulation where
  boot tree environment := { environment, system := { world := { tree }, nextId := firstId } }
  start := start
  wait m :=
    (m.system.runToEnd System.patience).map fun (id, status, system) =>
      (id, status, { m with system })
  kill m := { m with system := m.system.dropOutside }
  finish m :=
    let w := (m.system.runOut System.patience).world
    { tree := w.tree, output := String.join w.output.reverse
      errorOutput := String.join w.errors.reverse }

end Simulation

end Patchbay
