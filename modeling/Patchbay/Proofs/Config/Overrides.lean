import Patchbay.Config.Overrides
import Patchbay.Proofs.Config.Settings
import Patchbay.Proofs.Number.Digits
import Patchbay.Proofs.Toml.Layers

/-!
# Settings in files and in variables

A setting can be given by a variable of the environment or by a file that is laid over the others.
Both give the same configuration, whatever else the files say: directories are expanded either way,
and a port is the number that the variable writes out. Only the program of the engine differs. A
variable expands it, and a file does not, so that `~/` and `$NAME` at its start are taken for the
names of directories.
-/

namespace Patchbay

namespace Toml.Table

/-- The table with a value laid over it under a key of a section. -/
def withSetting (t : Table) (sec key : String) (v : Toml) : Table :=
  overlay t [(sec, .table [(key, v)])]

/-- The table without a section that is given as an array. An array has no keys: a section laid over
it takes its place. -/
def opened (t : Table) (sec : String) : Table :=
  match Keyed.get? sec t with
  | some (.array _) => Keyed.erase sec t
  | _ => t

variable {t : Table} {sec key : String} {v : Toml}

lemma opened_ordered (ht : (Toml.table t).Ordered) (sec : String) :
    (Toml.table (t.opened sec)).Ordered := by
  unfold opened
  split
  · cases ht with | table hkeys hentries
    exact .table (hkeys.erase sec) fun e he => hentries e (List.mem_of_mem_filter he)
  · exact ht

/-- The section that was opened is a table, never an array. -/
lemma get?_opened (t : Table) (sec : String) (items : List Toml) :
    Keyed.get? sec (t.opened sec) ≠ some (.array items) := by
  unfold opened
  split
  · rw [Keyed.get?_erase, if_pos rfl]
    simp
  · rename_i h
    exact h items

lemma withSetting_eq (t : Table) (sec key : String) (v : Toml) : t.withSetting sec key v =
    Keyed.insert sec (laidOver (Keyed.get? sec t) (.table [(key, v)])) t := by
  rw [withSetting, overlay, overlay]

/-- A setting that is laid over an array takes its place. -/
lemma withSetting_opened (ht : Keyed.Ascending t) (sec key : String) (v : Toml) :
    (t.opened sec).withSetting sec key v = t.withSetting sec key v := by
  unfold opened
  split
  · rename_i items h
    rw [withSetting_eq, withSetting_eq, Keyed.get?_erase, if_pos rfl, h,
      laidOver_table_of_ne (by simp), laidOver_table_of_ne (by simp), ht.insert_erase]
  · rfl

end Toml.Table

namespace Config

open Toml (Table)

variable {env : Environment} {t : Table} {sec key name text : String} {v : Toml} {c : Config}

/-! ### Settings laid over a file -/

/-- A value that is laid over a table at a key of a section is read as if it came after it. -/
lemma ofEntries_withSetting (ht : (Toml.table t).Ordered)
    (harray : ∀ items, Keyed.get? sec t ≠ some (.array items)) (hv : v.Ordered)
    {c₀ c₁ c₂ : Config} (hc₁ : ofEntries sections c₀ t = .ok c₁)
    (hc₂ : putEntry sections sec (.table [(key, v)]) c₁ = .ok c₂) :
    ofEntries sections c₀ (t.withSetting sec key v) = .ok c₂ := by
  cases ht with | table hkeys hentries
  have hsetting : (Toml.table [(key, v)]).Ordered :=
    .table (List.pairwise_singleton _ _) (by simpa using hv)
  refine independent_sections.ofEntries_overlay hkeys (List.pairwise_singleton _ _)
    (fun o ho w x hw hx => ?_) hc₁ (ofEntries_cons_ok_iff.mpr ⟨c₂, hc₂, rfl⟩)
  obtain ⟨hsec, rfl⟩ := Prod.mk.inj (List.mem_singleton.mp (Keyed.mem_of_get? _ _ _ hx))
  refine sections_stack ho (hentries _ (Keyed.mem_of_get? _ _ _ hw)) hsetting ?_ (by simp)
  rintro items rfl
  exact harray items (hsec ▸ hw)

/-- What fits stays so if a section is left out. -/
lemma exists_ofEntries_opened {c₀ c₁ : Config} (h : ofEntries sections c₀ t = .ok c₁)
    (sec : String) : ∃ c₂, ofEntries sections c₀ (t.opened sec) = .ok c₂ := by
  unfold Table.opened
  split
  · exact ofEntries_filter sections_steady _ h c₀
  · exact ⟨c₁, h⟩

/-- A table with and without a setting laid over it: the configurations differ in what the setting
changes. -/
lemma exists_ofTable_withSetting (ht : (Toml.table t).Ordered) (hc : ofTable env t = .ok c)
    (sec key : String) (hv : v.Ordered) {f : Config → Config}
    (hf : ∀ c, putEntry sections sec (.table [(key, v)]) c = .ok (f c)) :
    ∃ c₀ : Config, ofTable env (t.opened sec) = .ok { c₀ with paths := c₀.paths.expand env } ∧
      ofTable env (t.withSetting sec key v) =
        .ok { f c₀ with paths := (f c₀).paths.expand env } := by
  obtain ⟨c₁, hc₁, -⟩ := ofTable_ok_iff.mp hc
  obtain ⟨c₀, hc₀⟩ := exists_ofEntries_opened hc₁ sec
  refine ⟨c₀, ofTable_ok_iff.mpr ⟨c₀, hc₀, rfl⟩, ofTable_ok_iff.mpr ⟨f c₀, ?_, rfl⟩⟩
  have hkeys : Keyed.Ascending t := by cases ht with | table hkeys => exact hkeys
  rw [← Table.withSetting_opened hkeys]
  exact ofEntries_withSetting (Table.opened_ordered ht sec) (Table.get?_opened t sec) hv hc₀ (hf c₀)

/-- A single value in a table is put into its section. -/
lemma putEntry_section {σ α : Type} {inner : List (Setting σ)} {get : Config → σ}
    {put : σ → Config → Config} {read : Toml → Except Problem α} {putValue : α → σ → σ}
    (hsec : sections.find? (·.key = sec) = some (.ofSection sec name inner get put))
    (hkey : inner.find? (·.key = key) = some (.of key read putValue)) {a : α}
    (ha : read v = .ok a) (c : Config) :
    putEntry sections sec (.table [(key, v)]) c = .ok (put (putValue a (get c)) c) := by
  rw [putEntry_of_find? hsec]
  exact ofSection_put_ok_iff.mpr ⟨_, ofEntries_cons_of hkey ha rfl, rfl⟩

/-! ### Variables -/

lemma Override.path_put (put : Path → Config → Config) :
    (Override.path name put).put env text c = some (put (env.expand text) c) := rfl

lemma Override.port_put (put : UInt16 → Config → Config) :
    (Override.port name put).put env text c = (portOfText? text).map (put · c) := rfl

/-- The variables of an environment in which, of those that count, only one is set. -/
def only (name text : String) : String → Option String :=
  fun n => if n = name then some text else none

/-- Variables that are not set override nothing. -/
lemma applyOverrides_of_unset {lookup : String → Option String} {os : List Override}
    (h : ∀ o ∈ os, lookup o.name = none) (c : Config) :
    (applyOverrides env lookup c os).1 = c := by
  induction os with
  | nil => rfl
  | cons o os ih =>
    obtain ⟨ho, hos⟩ := List.forall_mem_cons.mp h
    rw [applyOverrides, Override.apply, ho]
    exact ih hos

/-- A variable that alone is set is put in, if it holds a value of its setting. -/
lemma applyOverrides_only {os : List Override} (hnames : (os.map Override.name).Nodup)
    {o : Override} (ho : o ∈ os) (text : String) (c : Config) :
    (applyOverrides env (only o.name text) c os).1 = (o.put env text c).getD c := by
  induction os with
  | nil => cases ho
  | cons o' os ih =>
    obtain ⟨hname, hnames⟩ := List.nodup_cons.mp hnames
    rcases List.mem_cons.mp ho with rfl | ho
    · -- the overrides after it have other names
      have hunset : ∀ o' ∈ os, only o.name text o'.name = none := by
        intro o' ho'
        refine if_neg fun heq => hname ?_
        exact heq ▸ List.mem_map_of_mem ho'
      rw [applyOverrides, Override.apply, only, if_pos rfl, Option.bind_some]
      cases o.put env text c with
      | none => exact applyOverrides_of_unset hunset c
      | some c' => exact applyOverrides_of_unset hunset c'
    · have hne : o'.name ≠ o.name := fun heq => hname (heq ▸ List.mem_map_of_mem ho)
      rw [applyOverrides, Override.apply, only, if_neg hne]
      exact ih hnames ho

/-- With one variable set, only its own override takes place. -/
lemma override_only {o : Override} (ho : overrides.find? (·.name = name) = some o) (text : String)
    (c : Config) : (c.override env (only name text)).1 = (o.put env text c).getD c := by
  obtain rfl : o.name = name := by simpa using List.find?_some ho
  exact applyOverrides_only (by decide) (List.mem_of_find?_eq_some ho) text c

lemma portOfText?_toString (n : UInt16) : portOfText? (toString n.toNat) = some n := by
  rw [portOfText?, naturalOfText?_toString n.toNat_lt, Option.map_some, UInt16.ofNat_toNat]

/-! ### Settings in a file and in a variable -/

/-- A variable that counts over a table, all others being unset, and a value that is laid over the
table at a key of a section give the same configuration. An array in the place of the section has
no keys, and is left out on both sides. -/
def Agrees (env : Environment) (t : Table) (name text sec key : String) (v : Toml) : Prop :=
  ∃ c, ofTable env (t.opened sec) = .ok c ∧
    ofTable env (t.withSetting sec key v) = .ok (c.override env (only name text)).1

/-- A variable agrees with a file if what it puts in, after expansion, is what the file puts in
before. -/
lemma agrees_of (ht : (Toml.table t).Ordered) (hc : ofTable env t = .ok c) {o : Override}
    (ho : overrides.find? (·.name = name) = some o) (hv : v.Ordered) {f : Config → Config}
    (hf : ∀ c, putEntry sections sec (.table [(key, v)]) c = .ok (f c))
    (hput : ∀ c : Config, o.put env text { c with paths := c.paths.expand env } =
      some { f c with paths := (f c).paths.expand env }) :
    Agrees env t name text sec key v := by
  obtain ⟨c₀, hc₀, hset⟩ := exists_ofTable_withSetting ht hc sec key hv hf
  refine ⟨_, hc₀, ?_⟩
  rw [override_only ho, hput, Option.getD_some, hset]

/-- A setting means the same in a file and in a variable. -/
structure SettingsAgree (env : Environment) (t : Table) : Prop where
  configDirectory : ∀ v, Agrees env t "CYPERUS_CONFIG_DIR" v "paths" "config_dir" (.string v)
  presetsDirectory : ∀ v, Agrees env t "CYPERUS_PRESETS_DIR" v "paths" "presets_dir" (.string v)
  engineReceivePort : ∀ n : UInt16, Agrees env t "CYPERUS_ENGINE_RECV_PORT" (toString n.toNat)
    "engine" "recv_port" (.integer n.toNat)
  engineSendPort : ∀ n : UInt16, Agrees env t "CYPERUS_ENGINE_SEND_PORT" (toString n.toNat)
    "engine" "send_port" (.integer n.toNat)
  relayReceivePort : ∀ n : UInt16, Agrees env t "CYPERUS_RELAY_RECV_PORT" (toString n.toNat)
    "relay" "recv_port" (.integer n.toNat)
  relaySendPort : ∀ n : UInt16, Agrees env t "CYPERUS_RELAY_SEND_PORT" (toString n.toNat)
    "relay" "send_port" (.integer n.toNat)
  logLevel : ∀ v, Agrees env t "CYPERUS_LOG_LEVEL" v "telemetry" "log_level" (.string v)
  /-- A file holds the program of the engine as it is, a variable expands it. -/
  engineProgram : ∀ v, Agrees env t "CYPERUS_ENGINE_PROGRAM" v "engine" "program" (.string v) ↔
    env.expand v = ⟨v⟩

/-- A port that a variable sets is the port that a file sets. -/
lemma agrees_port (ht : (Toml.table t).Ordered) (hc : ofTable env t = .ok c) (n : UInt16)
    {put : UInt16 → Config → Config}
    (ho : overrides.find? (·.name = name) = some (.port name put))
    {σ : Type} {inner : List (Setting σ)} {get : Config → σ} {putSection : σ → Config → Config}
    {putPort : UInt16 → σ → σ} {type : String}
    (hsec : sections.find? (·.key = sec) = some (.ofSection sec type inner get putSection))
    (hkey : inner.find? (·.key = key) = some (.of key readPort putPort))
    (hput : ∀ c, put n c = putSection (putPort n (get c)) c)
    (hpaths : ∀ c : Config, put n { c with paths := c.paths.expand env } =
      { put n c with paths := (put n c).paths.expand env }) :
    Agrees env t name (toString n.toNat) sec key (.integer n.toNat) := by
  refine agrees_of ht hc ho (.integer _) (f := put n) (fun c => ?_) fun c => ?_
  · rw [hput]
    exact putEntry_section hsec hkey (readPort_toNat n) c
  · rw [Override.port_put, portOfText?_toString, Option.map_some, hpaths]

/-- Every setting that a variable can set means the same in a file, whatever the other settings
are, with the one exception of an engine's program that stands for another path. -/
theorem settingsAgree_of_ok (ht : (Toml.table t).Ordered) (hc : ofTable env t = .ok c) :
    SettingsAgree env t where
  configDirectory v := agrees_of ht hc rfl (.string v) (fun _ => rfl) (fun _ => rfl)
  presetsDirectory v := agrees_of ht hc rfl (.string v) (fun _ => rfl) (fun _ => rfl)
  engineReceivePort n :=
    agrees_port ht hc n rfl rfl rfl (fun _ => rfl) fun _ => rfl
  engineSendPort n :=
    agrees_port ht hc n rfl rfl rfl (fun _ => rfl) fun _ => rfl
  relayReceivePort n :=
    agrees_port ht hc n rfl rfl rfl (fun _ => rfl) fun _ => rfl
  relaySendPort n :=
    agrees_port ht hc n rfl rfl rfl (fun _ => rfl) fun _ => rfl
  logLevel v := agrees_of ht hc rfl (.string v) (fun _ => rfl) fun _ => rfl
  engineProgram v := by
    constructor
    · -- the file leaves the program as it is written, the variable expands it
      rintro ⟨c₁, hc₁, hset₁⟩
      obtain ⟨c₀, hc₀, hset₀⟩ := exists_ofTable_withSetting ht hc "engine" "program" (.string v)
        fun _ => rfl
      obtain rfl := Except.ok.inj (hc₁.symm.trans hc₀)
      rw [override_only rfl] at hset₁
      exact congrArg (·.engine.program) (Except.ok.inj (hset₁.symm.trans hset₀))
    · intro hexpand
      refine agrees_of ht hc rfl (.string v) (fun _ => rfl) fun c => ?_
      rw [Override.path_put, hexpand]

def shortPeriods : Table := [("engine", .table [("period", .integer 128)])]

theorem settingsAgree_shortPeriods :
    SettingsAgree ⟨[("HOME", "/home/cyperus")], none⟩ shortPeriods := by
  have hengine : (Toml.table [("period", .integer 128)]).Ordered :=
    .table (List.pairwise_singleton _ _) (by simpa using .integer 128)
  have hordered : (Toml.table shortPeriods).Ordered :=
    .table (List.pairwise_singleton _ _) (by simpa [shortPeriods] using hengine)
  exact settingsAgree_of_ok hordered rfl

/-- A program below the home directory starts the engine if a variable gives it, and not if a file
does. -/
theorem not_agrees_program : ¬ Agrees ⟨[("HOME", "/home/cyperus")], none⟩ []
    "CYPERUS_ENGINE_PROGRAM" "~/server" "engine" "program" (.string "~/server") := by
  rintro ⟨c, hc, hset⟩
  cases hc
  have hprogram : (⟨"~/server"⟩ : Path) = ⟨"/home/cyperus/server"⟩ :=
    congrArg (·.engine.program) (Except.ok.inj hset)
  exact absurd hprogram (by decide)

end Config

end Patchbay
