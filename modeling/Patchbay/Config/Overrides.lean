import Patchbay.Config.Basic
import Patchbay.Number.Natural

/-!
# Settings in variables

A variable of the environment takes the place of a setting in all files. A port that is no number
of a port is passed over. Of the two variables for what is logged, the general one counts.
-/

namespace Patchbay.Config

/-- A variable that takes the place of a setting. -/
structure Override where
  name : String
  /-- The configuration with the value of the variable, if it is a value of the setting. -/
  put : Environment → String → Config → Option Config

/-- The port that a text stands for. -/
def portOfText? (text : String) : Option UInt16 :=
  (naturalOfText? UInt16.size text).map UInt16.ofNat

def Override.path (name : String) (put : Path → Config → Config) : Override :=
  ⟨name, fun env v c => some (put (env.expand v) c)⟩

def Override.port (name : String) (put : UInt16 → Config → Config) : Override :=
  ⟨name, fun _ v c => (portOfText? v).map (put · c)⟩

def Override.text (name : String) (put : String → Config → Config) : Override :=
  ⟨name, fun _ v c => some (put v c)⟩

/-- The variables, in the order they count. -/
def overrides : List Override :=
  [.path "CYPERUS_CONFIG_DIR" fun p c =>
      { c with paths := { c.paths with configDirectory := p } },
    .path "CYPERUS_PRESETS_DIR" fun p c =>
      { c with paths := { c.paths with presetsDirectory? := some p } },
    .path "CYPERUS_ENGINE_PROGRAM" fun p c => { c with engine := { c.engine with program := p } },
    .port "CYPERUS_ENGINE_RECV_PORT" fun n c =>
      { c with engine := { c.engine with receivePort := n } },
    .port "CYPERUS_ENGINE_SEND_PORT" fun n c =>
      { c with engine := { c.engine with sendPort := n } },
    .port "CYPERUS_RELAY_RECV_PORT" fun n c =>
      { c with relay := { c.relay with receivePort := n } },
    .port "CYPERUS_RELAY_SEND_PORT" fun n c => { c with relay := { c.relay with sendPort := n } },
    .text "CYPERUS_LOG_LEVEL" fun t c => { c with telemetry := ⟨t⟩ },
    .text "RUST_LOG" fun t c => { c with telemetry := ⟨t⟩ }]

/-- Puts a variable in, and tells whether it counted. -/
def Override.apply (env : Environment) (lookup : String → Option String) (o : Override)
    (c : Config) : Config × List String :=
  match (lookup o.name).bind (o.put env · c) with
  | some c => (c, [o.name])
  | none => (c, [])

/-- Puts variables in, and tells which of them counted. -/
def applyOverrides (env : Environment) (lookup : String → Option String) (c : Config) :
    List Override → Config × List String
  | [] => (c, [])
  | o :: rest =>
    let (c, counted) := o.apply env lookup c
    let (c, more) := applyOverrides env lookup c rest
    (c, counted ++ more)

/-- The configuration with all variables put in, and the variables that counted. Paths are expanded
in the environment; the variables themselves may be looked up elsewhere. -/
def override (env : Environment) (lookup : String → Option String) (c : Config) :
    Config × List String :=
  applyOverrides env lookup c overrides

end Patchbay.Config
