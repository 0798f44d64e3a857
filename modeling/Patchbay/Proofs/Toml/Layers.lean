import Patchbay.Proofs.Lists
import Patchbay.Proofs.Text.Keyed
import Patchbay.Toml.Basic

/-!
# Layered tables

Of tables laid over each other the last one that says something about a path of keys decides what
stands there. A table says something about a path if it holds a value there, and also if it holds
a value that is no table on the way: this covers all that the layers below hold further down, and a
table that is laid over it starts empty.
-/

namespace Patchbay.Toml

/-! ### Paths of keys -/

def at? : Toml → List String → Option Toml
  | v, [] => some v
  | .table es, key :: path => (Keyed.get? key es).bind (at? · path)
  | _, _ :: _ => none

def IsTable (v : Toml) : Prop := ∃ es, v = .table es

/-- A value that is no table stands on the way to a path. -/
def Covers (v : Toml) (path : List String) : Prop :=
  ∃ above below w, path = above ++ below ∧ below ≠ [] ∧ v.at? above = some w ∧ ¬ w.IsTable

/-- A value says nothing about a path. -/
def Silent (v : Toml) (path : List String) : Prop := v.at? path = none ∧ ¬ v.Covers path

/-- The keys of all tables in a value ascend, so that each table has a key only once. -/
inductive Ordered : Toml → Prop
  | string (s : String) : Ordered (.string s)
  | integer (n : Int) : Ordered (.integer n)
  | float (x : Double) : Ordered (.float x)
  | boolean (b : Bool) : Ordered (.boolean b)
  | datetime (text : String) : Ordered (.datetime text)
  | array {vs : List Toml} (items : ∀ v ∈ vs, Ordered v) : Ordered (.array vs)
  | table {es : Table} (keys : Keyed.Ascending es) (entries : ∀ e ∈ es, Ordered e.2) :
      Ordered (.table es)

variable {v w : Toml} {lower upper : Table} {key : String} {path : List String}

lemma at?_cons_of_not_isTable (h : ¬ v.IsTable) (key : String) (path : List String) :
    v.at? (key :: path) = none := by
  cases v with
  | table es => exact (h ⟨es, rfl⟩).elim
  | _ => rfl

lemma covers_cons_of_not_isTable (h : ¬ v.IsTable) (key : String) (path : List String) :
    v.Covers (key :: path) :=
  ⟨[], key :: path, v, rfl, List.cons_ne_nil key path, rfl, h⟩

/-- A table covers a path through what it holds under the first key. -/
lemma table_covers_cons_iff {es : Table} :
    (Toml.table es).Covers (key :: path) ↔ ∃ w, Keyed.get? key es = some w ∧ w.Covers path := by
  constructor
  · rintro ⟨_ | ⟨first, above⟩, below, u, hpath, hbelow, hu, htable⟩
    · cases hu
      exact (htable ⟨es, rfl⟩).elim
    · obtain ⟨rfl, rfl⟩ := List.cons.inj hpath
      obtain ⟨w, hw, hu⟩ := Option.bind_eq_some_iff.mp hu
      exact ⟨w, hw, above, below, u, rfl, hbelow, hu, htable⟩
  · rintro ⟨w, hw, above, below, u, rfl, hbelow, hu, htable⟩
    refine ⟨key :: above, below, u, rfl, hbelow, ?_, htable⟩
    rw [at?, hw, Option.bind_some, hu]

/-- A table says about a path what the value under the first key says about the rest. -/
lemma table_silent_cons {es : Table} (h : Keyed.get? key es = some w) :
    (Toml.table es).Silent (key :: path) ↔ w.Silent path := by
  simp only [Silent, at?, h, Option.bind_some, table_covers_cons_iff, Option.some.injEq,
    exists_eq_left']

/-! ### One table over another -/

/-- What stands at a path, without what a table holds. -/
inductive Held where
  | table
  | value (v : Toml)

/-- What a value is, without what a table holds. -/
def held : Toml → Held
  | .table _ => .table
  | v => .value v

/-- What stands at a path below a value. -/
def held? (v : Toml) (path : List String) : Option Held := (v.at? path).map held

lemma held_eq_table_iff : v.held = .table ↔ v.IsTable := by
  cases v <;> simp [held, IsTable]

lemma held_eq_value_iff (hv : ¬ v.IsTable) : w.held = .value v ↔ w = v := by
  cases w with
  | table es =>
    constructor
    · rintro ⟨⟩
    · rintro rfl
      exact (hv ⟨es, rfl⟩).elim
  | _ => simp [held]

lemma laidOver_of_not_isTable (h : ¬ v.IsTable) (below : Option Toml) : laidOver below v = v := by
  cases v with
  | table es => exact (h ⟨es, rfl⟩).elim
  | _ => rw [laidOver]; simp

lemma laidOver_table_of_ne {below : Option Toml} (h : ∀ es, below ≠ some (.table es))
    (upper : Table) : laidOver below (.table upper) = .table upper := by
  rw [laidOver]
  exact fun lower hlower => h lower hlower

/-- Under each key the upper table decides, laid over what is below. -/
lemma get?_overlay (h : Keyed.Ascending upper) (key : String) (lower : Table) :
    Keyed.get? key (Table.overlay lower upper) = match Keyed.get? key upper with
      | none => Keyed.get? key lower
      | some v => some (laidOver (Keyed.get? key lower) v) := by
  induction upper generalizing lower with
  | nil => rw [Table.overlay, Keyed.get?]
  | cons e upper ih =>
    obtain ⟨k, v⟩ := e
    obtain ⟨hk, hupper⟩ := List.pairwise_cons.mp h
    rw [Table.overlay, ih hupper, Keyed.get?]
    by_cases hkey : k = key
    · subst hkey
      have hnone : Keyed.get? k upper = none := by
        by_contra hsome
        obtain ⟨w, hw⟩ := Option.ne_none_iff_exists'.mp hsome
        exact String.lt_irrefl k (hk _ (Keyed.mem_of_get? k w upper hw))
      simp only [hnone, if_pos, Keyed.get?_insert_self]
    · simp only [if_neg hkey, Keyed.get?_insert_of_ne k _ lower (Ne.symm hkey)]

/-- What is laid over counts where it says something, and what is below counts elsewhere. -/
lemma held?_laidOver_iff (hv : v.Ordered) (below : Option Toml) (path : List String) (s : Held) :
    (laidOver below v).held? path = some s ↔
      v.held? path = some s ∨ v.Silent path ∧ below.bind (held? · path) = some s := by
  induction path generalizing v below with
  | nil =>
    have hnil : (laidOver below v).held = v.held := by
      cases v with
      | table upper =>
        unfold laidOver
        split <;> rfl
      | _ => rw [laidOver_of_not_isTable (by simp [IsTable])]
    simp [held?, at?, Silent, hnil]
  | cons key path ih =>
    cases hv with
    | @table upper keys entries =>
      by_cases hbelow : ∃ lower, below = some (.table lower)
      · obtain ⟨lower, rfl⟩ := hbelow
        rw [laidOver, held?, at?, get?_overlay keys]
        cases hupper : Keyed.get? key upper with
        | none => simp [held?, at?, hupper, Silent, table_covers_cons_iff]
        | some w =>
          have hw : w.Ordered := entries _ (Keyed.mem_of_get? key w upper hupper)
          have hrest := ih hw (Keyed.get? key lower)
          rw [table_silent_cons hupper]
          simpa [held?, at?, hupper, Option.map_bind, Function.comp_def] using hrest
      · -- what is below is no table, so nothing of it is seen further down
        rw [not_exists] at hbelow
        rw [laidOver_table_of_ne hbelow]
        have hnone : below.bind (held? · (key :: path)) = none := by
          cases below with
          | none => rfl
          | some u =>
            have hu : ¬ u.IsTable := fun ⟨es, hes⟩ => hbelow es (congrArg some hes)
            rw [Option.bind_some, held?, at?_cons_of_not_isTable hu, Option.map_none]
        simp [hnone]
    | _ =>
      rw [laidOver_of_not_isTable (by simp [IsTable])]
      simp [Silent, covers_cons_of_not_isTable, IsTable]

lemma Ordered.insert {es : Table} (h : (Toml.table es).Ordered) (key : String) (hv : v.Ordered) :
    (Toml.table (Keyed.insert key v es)).Ordered := by
  cases h with | table keys entries
  refine .table keys.insert fun e he => ?_
  rcases Keyed.mem_insert he with rfl | he
  · exact hv
  · exact entries e he

/-- Keys stay unique in every table. -/
lemma Ordered.laidOver (hv : v.Ordered) {below : Option Toml}
    (hbelow : ∀ w, below = some w → w.Ordered) : (laidOver below v).Ordered := by
  induction hv generalizing below with
  | @table upper keys entries ih =>
    by_cases htable : ∃ lower, below = some (.table lower)
    · obtain ⟨lower, rfl⟩ := htable
      have hlower : (Toml.table lower).Ordered := hbelow _ rfl
      rw [Toml.laidOver]
      clear hbelow keys entries
      induction upper generalizing lower with
      | nil => rwa [Table.overlay]
      | cons e upper ihupper =>
        obtain ⟨k, w⟩ := e
        rw [Table.overlay]
        refine ihupper (fun e he => ih e (List.mem_cons_of_mem _ he)) _ (hlower.insert k ?_)
        refine ih (k, w) List.mem_cons_self fun u hu => ?_
        cases hlower with | table _ lowerEntries
        exact lowerEntries _ (Keyed.mem_of_get? k u lower hu)
    · rw [not_exists] at htable
      rw [laidOver_table_of_ne htable]
      exact .table keys entries
  | _ =>
    rw [laidOver_of_not_isTable (by simp [IsTable])]
    constructor
    try assumption

/-! ### Layers -/

lemma Table.ofLayers_concat (layers : List Table) (layer : Table) :
    ofLayers (layers ++ [layer]) = overlay (ofLayers layers) layer := by
  rw [ofLayers, List.foldl_append]
  rfl

lemma table_overlay (lower upper : Table) :
    Toml.table (Table.overlay lower upper) = laidOver (some (.table lower)) (.table upper) := by
  rw [laidOver]

/-- Layers with ordered keys make a table with ordered keys. -/
lemma ordered_ofLayers {layers : List Table} (h : ∀ layer ∈ layers, (Toml.table layer).Ordered) :
    (Toml.table (Table.ofLayers layers)).Ordered := by
  induction layers using List.reverseRec with
  | nil => exact .table .nil fun e he => by cases he
  | append_singleton layers layer ih =>
    rw [Table.ofLayers_concat, table_overlay]
    refine (h layer (by simp)).laidOver ?_
    rintro _ ⟨⟩
    exact ih fun l hl => h l (List.mem_append_left _ hl)

/-- Some layer decides what stands at a path, and all later layers are silent about it. -/
def Decided (layers : List Table) (path : List String) (p : Toml → Prop) : Prop :=
  ∃ before layer after, layers = before ++ layer :: after ∧
    (∃ v, (Toml.table layer).at? path = some v ∧ p v) ∧
    ∀ later ∈ after, (Toml.table later).Silent path

/-- One more layer decides itself, or leaves the decision to those before it. -/
lemma decided_concat_iff {layers : List Table} {layer : Table} {p : Toml → Prop} :
    Decided (layers ++ [layer]) path p ↔
      (∃ v, (Toml.table layer).at? path = some v ∧ p v) ∨
        (Toml.table layer).Silent path ∧ Decided layers path p := by
  constructor
  · rintro ⟨before, deciding, after, hlayers, hv, hafter⟩
    rcases split_concat hlayers with ⟨rest, rfl, rfl⟩ | ⟨-, rfl, -⟩
    · exact .inr ⟨hafter layer (by simp), before, deciding, rest, rfl, hv,
        fun later hl => hafter later (List.mem_append_left _ hl)⟩
    · exact .inl hv
  · rintro (hv | ⟨hsilent, before, deciding, after, rfl, hv, hafter⟩)
    · exact ⟨layers, layer, [], rfl, hv, fun later hl => by cases hl⟩
    · exact ⟨before, deciding, after ++ [layer], by simp, hv, forall_mem_concat hafter hsilent⟩

/-- What stands at a path after all layers are laid over each other. -/
lemma held?_ofLayers_iff {layers : List Table}
    (h : ∀ layer ∈ layers, (Toml.table layer).Ordered) (hpath : path ≠ []) (s : Held) :
    (Toml.table (Table.ofLayers layers)).held? path = some s ↔
      Decided layers path (held · = s) := by
  induction layers using List.reverseRec with
  | nil =>
    obtain ⟨key, path, rfl⟩ := List.exists_cons_of_ne_nil hpath
    constructor
    · rintro ⟨⟩
    · rintro ⟨before, layer, after, hlayers, -⟩
      simp at hlayers
  | append_singleton layers layer ih =>
    have hlayers := ih fun l hl => h l (List.mem_append_left _ hl)
    rw [Table.ofLayers_concat, table_overlay, held?_laidOver_iff (h layer (by simp)),
      Option.bind_some, hlayers, decided_concat_iff]
    simp only [held?, Option.map_eq_some_iff]

/-- What tables laid over each other make: at each path stands what the last layer has there that
says anything about the path. -/
structure Layered (layers : List Table) (merged : Table) : Prop where
  ordered : (Toml.table merged).Ordered
  value : ∀ path v, path ≠ [] → ¬ v.IsTable →
    ((Toml.table merged).at? path = some v ↔ Decided layers path (· = v))
  table : ∀ path, path ≠ [] →
    ((∃ es, (Toml.table merged).at? path = some (.table es)) ↔ Decided layers path IsTable)
  nothingElse : ∀ path v, path ≠ [] → (Toml.table merged).at? path = some v →
    ∃ layer ∈ layers, ∃ w, (Toml.table layer).at? path = some w

/-- Layers of any depth are laid over each other path by path. -/
theorem ofLayers_layered {layers : List Table}
    (h : ∀ layer ∈ layers, (Toml.table layer).Ordered) :
    Layered layers (Table.ofLayers layers) where
  ordered := ordered_ofLayers h
  value path v hpath hv := by
    have hheld := held?_ofLayers_iff h hpath (.value v)
    simpa only [held?, Option.map_eq_some_iff, held_eq_value_iff hv, exists_eq_right] using hheld
  table path hpath := by
    have hheld := held?_ofLayers_iff h hpath .table
    simp only [held?, Option.map_eq_some_iff, held_eq_table_iff] at hheld
    rw [← hheld]
    constructor
    · rintro ⟨es, hes⟩
      exact ⟨_, hes, es, rfl⟩
    · rintro ⟨_, hes, es, rfl⟩
      exact ⟨es, hes⟩
  nothingElse path v hpath hv := by
    have hheld : (Toml.table (Table.ofLayers layers)).held? path = some v.held := by
      rw [held?, hv, Option.map_some]
    obtain ⟨before, layer, after, rfl, ⟨w, hw, -⟩, -⟩ := (held?_ofLayers_iff h hpath _).mp hheld
    exact ⟨layer, by simp, w, hw⟩

/-- A table, a number over it, and a table over the number. -/
def severed : List Table :=
  [[("engine", .table [("period", .integer 1), ("port", .integer 2)])],
    [("engine", .integer 3)],
    [("engine", .table [("port", .integer 4)])]]

/-- A section that a number replaced comes back empty. -/
theorem severed_layered : Layered severed (Table.ofLayers severed) ∧
    (Toml.table (Table.ofLayers severed)).at? ["engine", "port"] = some (.integer 4) ∧
    (Toml.table (Table.ofLayers severed)).at? ["engine", "period"] = none := by
  have hsingle : ∀ (key : String) (v : Toml), v.Ordered → (Toml.table [(key, v)]).Ordered :=
    fun key v hv => .table (List.pairwise_singleton _ _) (by simpa using hv)
  have hengine : (Toml.table [("period", .integer 1), ("port", .integer 2)]).Ordered :=
    (hsingle "port" _ (.integer 2)).insert "period" (.integer 1)
  have hordered : ∀ layer ∈ severed, (Toml.table layer).Ordered := by
    simp only [severed, List.forall_mem_cons]
    exact ⟨hsingle _ _ hengine, hsingle _ _ (.integer 3),
      hsingle _ _ (hsingle _ _ (.integer 4)), by simp⟩
  exact ⟨ofLayers_layered hordered, rfl, rfl⟩

end Patchbay.Toml
