import Patchbay.Config.Basic
import Patchbay.Number.Decimal
import Patchbay.Text.Quoted
import Patchbay.Toml.Basic

/-!
# Configurations from tables

A section of the configuration is a record of settings. It is read from a table, key by key in
ascending order, or from an array, whose items are the settings in their order. What is missing
keeps its default, a key that is no setting is passed over, and the first value that does not fit is
the error.
-/

namespace Patchbay

/-- Directories that may begin with the home directory or a variable. -/
def Paths.expand (env : Environment) (p : Paths) : Paths :=
  { configDirectory := env.expand p.configDirectory.text
    presetsDirectory? := p.presetsDirectory?.map fun d => env.expand d.text
    activeDirectory? := p.activeDirectory?.map fun d => env.expand d.text }

namespace Config

/-! ### Errors -/

inductive Expected where
  | port
  | count
  | text
  | path
  | section (name : String)
deriving DecidableEq, Repr

def Expected.name : Expected → String
  | .port => "u16"
  | .count => "u32"
  | .text => "a string"
  | .path => "path string"
  | .section name => "struct " ++ name

/-- A floating-point number in messages: all its digits, with a point. -/
def floatName (x : Double) : String :=
  let sign := if x.negative ∧ ¬ x.isNaN then "-" else ""
  if x.isNaN then "NaN"
  else if x.isFinite then sign ++ String.ofList x.shortest.positional
  else sign ++ "inf"

/-- How a value is named in messages. A date is a text. -/
def valueName : Toml → String
  | .string s | .datetime s => "string " ++ Text.quoted s
  | .integer n => s!"integer `{n}`"
  | .float x => s!"floating point `{floatName x}`"
  | .boolean b => s!"boolean `{b}`"
  | .array _ => "sequence"
  | .table _ => "map"

/-- Why a value is no setting. -/
inductive Problem where
  | wrongType (found : Toml) (expected : Expected)
  | outOfRange (n : Int) (expected : Expected)
  /-- An array has more items than its section has settings. -/
  | tooManyItems (count : Nat)

def Problem.message : Problem → String
  | .wrongType found expected => s!"invalid type: {valueName found}, expected {expected.name}"
  | .outOfRange n expected => s!"invalid value: integer `{n}`, expected {expected.name}"
  | .tooManyItems count => s!"invalid length {count}, expected fewer elements in array"

/-- A problem, and the keys that lead to it. -/
structure SettingError where
  keys : List String
  problem : Problem

def SettingError.message (e : SettingError) : String :=
  let place := ".".intercalate e.keys
  s!"{e.problem.message}\nin `{place}`\n"

/-! ### Values of settings -/

def readText : Toml → Except Problem String
  | .string s | .datetime s => .ok s
  | v => .error (.wrongType v .text)

def readPath : Toml → Except Problem Path
  | .string s | .datetime s => .ok ⟨s⟩
  | v => .error (.wrongType v .path)

/-- A whole number below a bound. -/
def readNatural (expected : Expected) (bound : Nat) : Toml → Except Problem Nat
  | .integer n =>
    if 0 ≤ n ∧ n < bound then .ok n.toNat else .error (.outOfRange n expected)
  | v => .error (.wrongType v expected)

def readPort (v : Toml) : Except Problem UInt16 := UInt16.ofNat <$> readNatural .port UInt16.size v

def readCount (v : Toml) : Except Problem UInt32 :=
  UInt32.ofNat <$> readNatural .count UInt32.size v

/-! ### Sections -/

variable {σ α : Type}

/-- A setting of a section `σ`: its key, and how a value is put into the section. -/
structure Setting (σ : Type) where
  key : String
  put : Toml → σ → Except SettingError σ

/-- A setting with a single value. -/
def Setting.of (key : String) (read : Toml → Except Problem α) (put : α → σ → σ) : Setting σ :=
  { key, put := fun v s => ((read v).map (put · s)).mapError (⟨[], ·⟩) }

/-- A section with the entries of a table put in. -/
def ofEntries (settings : List (Setting σ)) (s : σ) : Toml.Table → Except SettingError σ
  | [] => .ok s
  | (key, v) :: entries =>
    match settings.find? (·.key = key) with
    | none => ofEntries settings s entries
    | some setting => do
      let s ← (setting.put v s).mapError fun e => ⟨key :: e.keys, e.problem⟩
      ofEntries settings s entries

/-- A section with the items of an array put in, each for the setting at its place. -/
def ofItems (s : σ) : List (Setting σ) → List Toml → Except SettingError σ
  | setting :: settings, v :: items => do ofItems (← setting.put v s) settings items
  | _, _ => .ok s

/-- The section that a value is read as. -/
def ofValue (name : String) (settings : List (Setting σ)) (s : σ) :
    Toml → Except SettingError σ
  | .table entries => ofEntries settings s entries
  | .array items => do
    let s ← ofItems s settings items
    if settings.length < items.length then .error ⟨[], .tooManyItems items.length⟩
    else .ok s
  | v => .error ⟨[], .wrongType v (.section name)⟩

/-- A section as a setting of the whole. -/
def Setting.ofSection (key name : String) (settings : List (Setting α)) (get : σ → α)
    (put : α → σ → σ) : Setting σ :=
  { key, put := fun v s => return put (← ofValue name settings (get s) v) s }

/-! ### The configuration -/

def pathSettings : List (Setting Paths) :=
  [.of "config_dir" readPath fun p s => { s with configDirectory := p },
    .of "presets_dir" readPath fun p s => { s with presetsDirectory? := some p },
    .of "preset_active_dir" readPath fun p s => { s with activeDirectory? := some p }]

def engineSettings : List (Setting EngineSettings) :=
  [.of "program" readPath fun p s => { s with program := p },
    .of "input_channels" readCount fun n s => { s with inputChannels := n },
    .of "output_channels" readCount fun n s => { s with outputChannels := n },
    .of "bitdepth" readCount fun n s => { s with bitDepth := n },
    .of "recv_port" readPort fun n s => { s with receivePort := n },
    .of "send_port" readPort fun n s => { s with sendPort := n },
    .of "period" readCount fun n s => { s with period := n }]

def relaySettings : List (Setting RelaySettings) :=
  [.of "program" readPath fun p s => { s with program := p },
    .of "script" readPath fun p s => { s with script := p },
    .of "recv_port" readPort fun n s => { s with receivePort := n },
    .of "send_port" readPort fun n s => { s with sendPort := n }]

def presetSettings : List (Setting PresetSettings) :=
  [.of "recv_port" readPort fun n s => { s with receivePort := n },
    .of "send_port" readPort fun n s => { s with sendPort := n }]

def telemetrySettings : List (Setting Telemetry) :=
  [.of "log_level" readText fun t s => { s with logLevel := t }]

def sections : List (Setting Config) :=
  [.ofSection "paths" "PathsConfig" pathSettings Config.paths fun p c => { c with paths := p },
    .ofSection "engine" "EngineConfig" engineSettings Config.engine
      fun e c => { c with engine := e },
    .ofSection "relay" "RelayConfig" relaySettings Config.relay fun r c => { c with relay := r },
    .ofSection "presets" "PresetsConfig" presetSettings Config.presets
      fun p c => { c with presets := p },
    .ofSection "telemetry" "TelemetryConfig" telemetrySettings Config.telemetry
      fun t c => { c with telemetry := t }]

/-- The configuration that a table holds. -/
def ofTable (env : Environment) (t : Toml.Table) : Except SettingError Config := do
  let c ← ofEntries sections (.default env) t
  return { c with paths := c.paths.expand env }

end Config

end Patchbay
