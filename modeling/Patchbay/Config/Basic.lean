import Patchbay.Environment

/-!
# Configuration

Where presets are kept, how the audio engine and the relay between it and the editor are started,
and how much is logged. Every setting has a default.
-/

namespace Patchbay

/-- The directories of the program. -/
structure Paths where
  /-- The directory that holds the others, unless they are set. -/
  configDirectory : Path
  presetsDirectory? : Option Path := none
  activeDirectory? : Option Path := none
deriving DecidableEq, Repr

namespace Paths

/-- The directory of the data in the home directory, or in the working directory of who has no
home. -/
def default (env : Environment) : Paths :=
  let data : Path := ⟨".local/share/cyperus"⟩
  { configDirectory := (env.home?.map (·.join data)).getD data }

def presetsDirectory (p : Paths) : Path :=
  p.presetsDirectory?.getD (p.configDirectory.join ⟨"presets"⟩)

/-- The directory of the compiled copies of presets. -/
def activeDirectory (p : Paths) : Path :=
  p.activeDirectory?.getD (p.configDirectory.join ⟨"preset_active"⟩)

/-- The directories that have to be there. -/
def all (p : Paths) : List Path := [p.configDirectory, p.presetsDirectory, p.activeDirectory]

end Paths

/-- How the audio engine is started. -/
structure EngineSettings where
  program : Path := ⟨"modules/cyperus-server/build/cyperus-server"⟩
  inputChannels : UInt32 := 4
  outputChannels : UInt32 := 4
  bitDepth : UInt32 := 24
  receivePort : UInt16 := 7500
  sendPort : UInt16 := 7400
  /-- Frames in a period. -/
  period : UInt32 := 256
deriving DecidableEq, Repr

def EngineSettings.arguments (e : EngineSettings) : List String :=
  ["-i", toString e.inputChannels.toNat, "-o", toString e.outputChannels.toNat,
    "-bd", toString e.bitDepth.toNat, "-rp", toString e.receivePort.toNat,
    "-sp", toString e.sendPort.toNat, "-p", toString e.period.toNat]

/-- How the relay between the editor and the engine is started. -/
structure RelaySettings where
  /-- The interpreter of the script. -/
  program : Path := ⟨"python3"⟩
  script : Path := ⟨"modules/baton/baton.py"⟩
  receivePort : UInt16 := 7400
  sendPort : UInt16 := 7500
deriving DecidableEq, Repr

def RelaySettings.arguments (r : RelaySettings) : List String :=
  [r.script.text, "--recvport", toString r.receivePort.toNat,
    "--sendport", toString r.sendPort.toNat]

/-- How presets reach the engine. -/
structure PresetSettings where
  receivePort : UInt16 := 7600
  sendPort : UInt16 := 7500
deriving DecidableEq, Repr

/-- What is logged. -/
structure Telemetry where
  logLevel : String := "info"
deriving DecidableEq, Repr

/-- The configuration of the program. -/
structure Config where
  paths : Paths
  engine : EngineSettings := {}
  relay : RelaySettings := {}
  presets : PresetSettings := {}
  telemetry : Telemetry := {}
deriving DecidableEq, Repr

def Config.default (env : Environment) : Config := { paths := .default env }

/-- Where the settings of a configuration came from. -/
structure Sources where
  files : List Path := []
  /-- Variables of the environment that counted. -/
  overrides : List String := []
deriving DecidableEq, Repr

end Patchbay
