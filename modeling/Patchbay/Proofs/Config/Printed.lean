import Patchbay.Proofs.Config.Settings
import Patchbay.Proofs.Toml.Tables

/-!
# Printed configurations

A configuration is printed as a settings file of five sections, whatever texts are in it. Each
section holds all settings under the keys under which they are read, so that the file gives the
configuration again, and nothing of what was set before is left. Directories that follow from others
are set on their own there. All directories are expanded when they are read: they stay the same if
none of them stands for another path.
-/

namespace Patchbay

namespace Toml.Plain

def port (n : UInt16) : Plain := .number n.toNat (Nat.lt_trans n.toNat_lt (by decide))

def count (n : UInt32) : Plain := .number n.toNat (Nat.lt_trans n.toNat_lt (by decide))

end Toml.Plain

namespace Config

open Toml (Block Plain Table)

/-- The sections of a configuration as they are written. -/
def blocks (c : Config) : List Block :=
  [⟨"paths",
      [("config_dir", .text c.paths.configDirectory.text),
        ("presets_dir", .text c.paths.presetsDirectory.text),
        ("preset_active_dir", .text c.paths.activeDirectory.text)]⟩,
    ⟨"engine",
      [("program", .text c.engine.program.text),
        ("input_channels", .count c.engine.inputChannels),
        ("output_channels", .count c.engine.outputChannels),
        ("bitdepth", .count c.engine.bitDepth),
        ("recv_port", .port c.engine.receivePort),
        ("send_port", .port c.engine.sendPort),
        ("period", .count c.engine.period)]⟩,
    ⟨"relay",
      [("program", .text c.relay.program.text),
        ("script", .text c.relay.script.text),
        ("recv_port", .port c.relay.receivePort),
        ("send_port", .port c.relay.sendPort)]⟩,
    ⟨"presets",
      [("recv_port", .port c.presets.receivePort), ("send_port", .port c.presets.sendPort)]⟩,
    ⟨"telemetry", [("log_level", .text c.telemetry.logLevel)]⟩]

/-- The text of a configuration is a comment and its five sections. -/
lemma text_eq_join (c : Config) : c.text =
    String.join (String.ofList ('#' :: (" cyperus configuration".toList ++ ['\n'])) ::
      c.blocks.flatMap fun b => "\n" :: b.lines) := by
  rfl

/-- Each printed section has proper names and keys that differ. -/
lemma blocks_wellFormed (c : Config) : ∀ b ∈ c.blocks, b.WellFormed := by
  simp only [blocks, List.forall_mem_cons]
  refine ⟨?_, ?_, ?_, ?_, ?_, by simp⟩
  all_goals
    constructor
    all_goals
      dsimp only [List.map]
      decide

lemma blocks_nodup (c : Config) : (c.blocks.map Block.name).Nodup := by
  dsimp only [blocks, List.map]
  decide

/-! ### Reading what is written -/

variable {σ : Type} {settings : List (Setting σ)} {s s' : σ}

lemma Independent.ofEntries_table (h : Independent settings) {b : Block} (hb : b.WellFormed)
    (hs : ofEntries settings s (b.entries.map fun e => (e.1, e.2.value)) = .ok s') :
    ofEntries settings s b.table = .ok s' :=
  h.ofEntries_ofList (by simpa [Function.comp_def] using hb.nodup) hs

/-- The sections that are written hold the whole configuration, whatever is read before. -/
lemma ofEntries_blocks (c c₀ : Config) :
    ofEntries sections c₀ (Keyed.ofList (c.blocks.map fun b => (b.name, .table b.table))) =
      .ok { c with paths := ⟨c.paths.configDirectory, some c.paths.presetsDirectory,
        some c.paths.activeDirectory⟩ } := by
  have hblocks := c.blocks_wellFormed
  simp only [blocks, List.forall_mem_cons] at hblocks
  obtain ⟨hpaths, hengine, hrelay, hpresets, htelemetry, -⟩ := hblocks
  refine independent_sections.ofEntries_ofList ?_ ?_
  · simpa [Function.comp_def] using c.blocks_nodup
  -- one section after the other, and in each its settings in the order of the text
  refine ofEntries_cons_ofSection rfl (independent_pathSettings.ofEntries_table hpaths ?_) <|
    ofEntries_cons_ofSection rfl (independent_engineSettings.ofEntries_table hengine ?_) <|
    ofEntries_cons_ofSection rfl (independent_relaySettings.ofEntries_table hrelay ?_) <|
    ofEntries_cons_ofSection rfl (independent_presetSettings.ofEntries_table hpresets ?_) <|
    ofEntries_cons_ofSection rfl (independent_telemetrySettings.ofEntries_table htelemetry ?_) rfl
  · rfl
  · exact ofEntries_cons_of rfl rfl <| ofEntries_cons_of rfl (readCount_toNat _) <|
      ofEntries_cons_of rfl (readCount_toNat _) <| ofEntries_cons_of rfl (readCount_toNat _) <|
      ofEntries_cons_of rfl (readPort_toNat _) <| ofEntries_cons_of rfl (readPort_toNat _) <|
      ofEntries_cons_of rfl (readCount_toNat _) rfl
  · exact ofEntries_cons_of rfl rfl <| ofEntries_cons_of rfl rfl <|
      ofEntries_cons_of rfl (readPort_toNat _) <| ofEntries_cons_of rfl (readPort_toNat _) rfl
  · exact ofEntries_cons_of rfl (readPort_toNat _) <| ofEntries_cons_of rfl (readPort_toNat _) rfl
  · rfl

/-- The text of a configuration is the table of its sections. -/
lemma ofText?_text (c : Config) : Table.ofText? c.text =
    some (Keyed.ofList (c.blocks.map fun b => (b.name, .table b.table))) := by
  rw [text_eq_join]
  exact Table.ofText?_blocks c.blocks_wellFormed c.blocks_nodup rfl

/-- What is left of a configuration that is written and read again: all of it, except that
directories are expanded once more. -/
structure Reread (env : Environment) (c c' : Config) : Prop where
  directories : c'.paths.all = c.paths.all.map fun d => env.expand d.text
  settled : (∀ d ∈ c.paths.all, env.expand d.text = d) → c'.paths.all = c.paths.all
  engine : c'.engine = c.engine
  relay : c'.relay = c.relay
  presets : c'.presets = c.presets
  telemetry : c'.telemetry = c.telemetry

/-- The text of a configuration is a settings file, and read again it gives the configuration. -/
theorem reread_text (env : Environment) (c : Config) :
    ∃ t c', Table.ofText? c.text = some t ∧ ofTable env t = .ok c' ∧ Reread env c c' := by
  refine ⟨_, _, c.ofText?_text, ofTable_ok_iff.mpr ⟨_, c.ofEntries_blocks _, rfl⟩, ?_⟩
  exact {
    directories := rfl
    settled := fun h => (List.map_congr_left h).trans (List.map_id _)
    engine := rfl
    relay := rfl
    presets := rfl
    telemetry := rfl }

end Config

end Patchbay
