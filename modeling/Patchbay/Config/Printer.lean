import Patchbay.Config.Basic
import Patchbay.Toml.Quoted

/-!
# Configurations as text

A configuration is written as a settings file with every setting in it, the directories that follow
from others included. Read again it gives the same configuration, as long as no path in it stands
for another one.
-/

namespace Patchbay

/-- A line that sets a key to a text. -/
def Toml.textLine (key value : String) : String := s!"{key} = {Toml.quoted value}\n"

/-- A line that sets a key to a number. -/
def Toml.numberLine (key : String) (value : Nat) : String := s!"{key} = {value}\n"

def Toml.sectionLine (name : String) : String := s!"[{name}]\n"

open Toml

def Paths.lines (p : Paths) : List String :=
  [sectionLine "paths",
    textLine "config_dir" p.configDirectory.text,
    textLine "presets_dir" p.presetsDirectory.text,
    textLine "preset_active_dir" p.activeDirectory.text]

def EngineSettings.lines (e : EngineSettings) : List String :=
  [sectionLine "engine",
    textLine "program" e.program.text,
    numberLine "input_channels" e.inputChannels.toNat,
    numberLine "output_channels" e.outputChannels.toNat,
    numberLine "bitdepth" e.bitDepth.toNat,
    numberLine "recv_port" e.receivePort.toNat,
    numberLine "send_port" e.sendPort.toNat,
    numberLine "period" e.period.toNat]

def RelaySettings.lines (r : RelaySettings) : List String :=
  [sectionLine "relay",
    textLine "program" r.program.text,
    textLine "script" r.script.text,
    numberLine "recv_port" r.receivePort.toNat,
    numberLine "send_port" r.sendPort.toNat]

def PresetSettings.lines (p : PresetSettings) : List String :=
  [sectionLine "presets",
    numberLine "recv_port" p.receivePort.toNat,
    numberLine "send_port" p.sendPort.toNat]

def Telemetry.lines (t : Telemetry) : List String :=
  [sectionLine "telemetry", textLine "log_level" t.logLevel]

def Config.text (c : Config) : String :=
  String.join ("# cyperus configuration\n" ::
    [c.paths.lines, c.engine.lines, c.relay.lines, c.presets.lines, c.telemetry.lines].flatMap
      ("\n" :: ·))

def Sources.lines (s : Sources) : List String :=
  (if s.files = [] then ["# no config files found, using defaults\n"] else []) ++
    s.files.map (fun f => s!"# loaded: {f.text}\n") ++ s.overrides.map (fun v => s!"# env: {v}\n")

/-- The text of a configuration after the lines that tell where it came from. -/
def Config.shown (c : Config) (s : Sources) : String :=
  String.join s.lines ++ "\n" ++ c.text

end Patchbay
