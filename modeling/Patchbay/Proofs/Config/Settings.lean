import Mathlib.Data.List.Pairwise
import Mathlib.Tactic.FinCases
import Patchbay.Config.Reading
import Patchbay.Proofs.Results
import Patchbay.Proofs.Toml.Layers

/-!
# Sections setting by setting

A section is read from a table entry by entry. No two settings touch each other, so the entries may
be read in any order, and a table that is laid over another one is read as if the two were read one
after the other. Whether a value fits does not depend on what was read before.
-/

namespace Patchbay.Config

open Toml (Table)

variable {σ α : Type} {settings : List (Setting σ)} {s s' s'' : σ} {es : Table}
  {key : String} {u v w : Toml}

/-! ### Single entries -/

/-- A section with one entry put in. -/
def putEntry (settings : List (Setting σ)) (key : String) (v : Toml) (s : σ) :
    Except SettingError σ :=
  match settings.find? (·.key = key) with
  | none => .ok s
  | some setting => setting.put v s

lemma putEntry_of_find? {o : Setting σ} (h : settings.find? (·.key = key) = some o) :
    putEntry settings key = o.put := by
  funext v s
  rw [putEntry, h]

lemma putEntry_of_find?_none (h : settings.find? (·.key = key) = none) :
    putEntry settings key v s = .ok s := by
  rw [putEntry, h]

/-- Reading a table puts its first entry in and reads the rest. -/
lemma ofEntries_cons_ok_iff : ofEntries settings s ((key, v) :: es) = .ok s' ↔
    ∃ s₁, putEntry settings key v s = .ok s₁ ∧ ofEntries settings s₁ es = .ok s' := by
  rw [ofEntries, putEntry]
  cases settings.find? (·.key = key) with
  | none => simp
  | some setting => simp only [bind_eq_ok_iff, mapError_eq_ok_iff]

lemma of_put_ok_iff {read : Toml → Except Problem α} {put : α → σ → σ} :
    (Setting.of key read put).put v s = .ok s' ↔ ∃ a, read v = .ok a ∧ put a s = s' := by
  simp only [Setting.of, mapError_eq_ok_iff, map_eq_ok_iff]

lemma ofSection_put_ok_iff {name : String} {inner : List (Setting α)} {get : σ → α}
    {put : α → σ → σ} : (Setting.ofSection key name inner get put).put v s = .ok s' ↔
      ∃ a, ofValue name inner (get s) v = .ok a ∧ put a s = s' := by
  simp only [Setting.ofSection, bind_eq_ok_iff, pure, Except.pure, Except.ok.injEq]

lemma ofEntries_cons_of {read : Toml → Except Problem α} {put : α → σ → σ}
    (hfound : settings.find? (·.key = key) = some (.of key read put)) {a : α} (ha : read v = .ok a)
    (hes : ofEntries settings (put a s) es = .ok s') :
    ofEntries settings s ((key, v) :: es) = .ok s' := by
  refine ofEntries_cons_ok_iff.mpr ⟨put a s, ?_, hes⟩
  rw [putEntry_of_find? hfound]
  exact of_put_ok_iff.mpr ⟨a, ha, rfl⟩

lemma ofEntries_cons_ofSection {name : String} {inner : List (Setting α)} {get : σ → α}
    {put : α → σ → σ}
    (hfound : settings.find? (·.key = key) = some (.ofSection key name inner get put))
    {entries : Table} {a : α} (ha : ofEntries inner (get s) entries = .ok a)
    (hes : ofEntries settings (put a s) es = .ok s') :
    ofEntries settings s ((key, .table entries) :: es) = .ok s' := by
  refine ofEntries_cons_ok_iff.mpr ⟨put a s, ?_, hes⟩
  rw [putEntry_of_find? hfound]
  exact ofSection_put_ok_iff.mpr ⟨a, ha, rfl⟩

/-! ### Settings that do not touch each other -/

/-- Two settings give the same in both orders. -/
def Setting.Commutes (o o' : Setting σ) : Prop :=
  ∀ v w s s', (∃ s₁, o.put v s = .ok s₁ ∧ o'.put w s₁ = .ok s') ↔
    ∃ s₁, o'.put w s = .ok s₁ ∧ o.put v s₁ = .ok s'

instance : Std.Symm (@Setting.Commutes σ) := ⟨fun _ _ h v w s s' => (h w v s s').symm⟩

/-- Settings commute if what they write does. -/
lemma Setting.commutes_of {β : Type} {key' : String} {read : Toml → Except Problem α}
    {read' : Toml → Except Problem β} {put : α → σ → σ} {put' : β → σ → σ}
    (h : ∀ a b s, put' b (put a s) = put a (put' b s)) :
    (Setting.of key read put).Commutes (.of key' read' put') := by
  intro v w s s'
  simp only [of_put_ok_iff]
  constructor
  · rintro ⟨_, ⟨a, ha, rfl⟩, b, hb, rfl⟩
    exact ⟨_, ⟨b, hb, rfl⟩, a, ha, (h a b s).symm⟩
  · rintro ⟨_, ⟨b, hb, rfl⟩, a, ha, rfl⟩
    exact ⟨_, ⟨a, ha, rfl⟩, b, hb, h a b s⟩

/-- Sections commute if each writes what the other does not read. -/
lemma Setting.commutes_ofSection {β : Type} {key' name name' : String} {inner : List (Setting α)}
    {inner' : List (Setting β)} {get : σ → α} {put : α → σ → σ} {get' : σ → β} {put' : β → σ → σ}
    (hget : ∀ b s, get (put' b s) = get s) (hget' : ∀ a s, get' (put a s) = get' s)
    (hput : ∀ a b s, put' b (put a s) = put a (put' b s)) :
    (Setting.ofSection key name inner get put).Commutes
      (.ofSection key' name' inner' get' put') := by
  intro v w s s'
  simp only [ofSection_put_ok_iff]
  constructor
  · rintro ⟨_, ⟨a, ha, rfl⟩, b, hb, rfl⟩
    exact ⟨_, ⟨b, hget' a s ▸ hb, rfl⟩, a, (hget b s).symm ▸ ha, (hput a b s).symm⟩
  · rintro ⟨_, ⟨b, hb, rfl⟩, a, ha, rfl⟩
    exact ⟨_, ⟨a, hget b s ▸ ha, rfl⟩, b, (hget' a s).symm ▸ hb, hput a b s⟩

/-- No two settings of a section touch each other. -/
def Independent (settings : List (Setting σ)) : Prop := settings.Pairwise Setting.Commutes

lemma Independent.commutes (h : Independent settings) {o o' : Setting σ} (ho : o ∈ settings)
    (ho' : o' ∈ settings) (hkey : o.key ≠ o'.key) : o.Commutes o' :=
  h.forall ho ho' fun heq => hkey (congrArg Setting.key heq)

/-- Entries with different keys may be put in in either order. -/
lemma Independent.putEntry_comm (h : Independent settings) {key' : String} (hkey : key' ≠ key)
    (hs : putEntry settings key' w s = .ok s') (hs' : putEntry settings key v s' = .ok s'') :
    ∃ s₁, putEntry settings key v s = .ok s₁ ∧ putEntry settings key' w s₁ = .ok s'' := by
  cases ho : settings.find? (·.key = key) with
  | none =>
    rw [putEntry_of_find?_none ho] at hs'
    cases hs'
    exact ⟨s, putEntry_of_find?_none ho, hs⟩
  | some o =>
    cases ho' : settings.find? (·.key = key') with
    | none =>
      rw [putEntry_of_find?_none ho'] at hs
      cases hs
      exact ⟨s'', hs', putEntry_of_find?_none ho'⟩
    | some o' =>
      have hokey : o.key = key := by simpa using List.find?_some ho
      have hokey' : o'.key = key' := by simpa using List.find?_some ho'
      have hcomm := h.commutes (List.mem_of_find?_eq_some ho') (List.mem_of_find?_eq_some ho)
        (hokey.symm ▸ hokey'.symm ▸ hkey)
      rw [putEntry_of_find? ho] at hs' ⊢
      rw [putEntry_of_find? ho'] at hs ⊢
      exact (hcomm w v s s'').mp ⟨s', hs, hs'⟩

/-- An entry that is put in after others may be put in before them. -/
lemma Independent.ofEntries_comm (h : Independent settings) (hes : ∀ e ∈ es, e.1 ≠ key)
    (hs : ofEntries settings s es = .ok s') (hs' : putEntry settings key v s' = .ok s'') :
    ∃ s₁, putEntry settings key v s = .ok s₁ ∧ ofEntries settings s₁ es = .ok s'' := by
  induction es generalizing s with
  | nil =>
    cases hs
    exact ⟨s'', hs', rfl⟩
  | cons e es ih =>
    obtain ⟨hkey, hes⟩ := List.forall_mem_cons.mp hes
    obtain ⟨s₁, hs₁, hs⟩ := ofEntries_cons_ok_iff.mp hs
    obtain ⟨s₂, hs₂, hrest⟩ := ih hes hs
    obtain ⟨s₃, hs₃, hs₂⟩ := h.putEntry_comm hkey hs₁ hs₂
    exact ⟨s₃, hs₃, ofEntries_cons_ok_iff.mpr ⟨s₂, hs₂, hrest⟩⟩

/-- A value in a table is read as if another value was put in after all others, provided that it
does the same as the other one after the value that stands at its place. -/
lemma Independent.ofEntries_insert (h : Independent settings) (hes : Keyed.Ascending es)
    (hnew : Keyed.get? key es = none → u = v)
    (hold : ∀ w, Keyed.get? key es = some w → ∀ s s₁ s₂, putEntry settings key w s = .ok s₁ →
      putEntry settings key v s₁ = .ok s₂ → putEntry settings key u s = .ok s₂)
    (hs : ofEntries settings s es = .ok s') (hs' : putEntry settings key v s' = .ok s'') :
    ofEntries settings s (Keyed.insert key u es) = .ok s'' := by
  induction es generalizing s with
  | nil =>
    cases hs
    exact ofEntries_cons_ok_iff.mpr ⟨s'', hnew rfl ▸ hs', rfl⟩
  | cons e es ih =>
    obtain ⟨k, w⟩ := e
    obtain ⟨hk, hrest⟩ := List.pairwise_cons.mp hes
    rw [Keyed.insert_cons]
    split_ifs with heq hlt
    · -- the key is there: the value that it had makes way for the new one
      subst heq
      obtain ⟨s₁, hs₁, hs⟩ := ofEntries_cons_ok_iff.mp hs
      have hkeys : ∀ e ∈ es, e.1 ≠ key := fun e he => (String.ne_of_lt (hk e he)).symm
      obtain ⟨s₂, hs₂, hs⟩ := h.ofEntries_comm hkeys hs hs'
      exact ofEntries_cons_ok_iff.mpr ⟨s₂, hold w (if_pos rfl) s s₁ s₂ hs₁ hs₂, hs⟩
    · -- the new key stands before all the others
      have hkeys : ∀ e ∈ (k, w) :: es, e.1 ≠ key := by
        refine List.forall_mem_cons.mpr ⟨Ne.symm heq, fun e he => ?_⟩
        exact (String.ne_of_lt (String.lt_trans hlt (hk e he))).symm
      have hnone : Keyed.get? key ((k, w) :: es) = none := by
        by_contra hsome
        obtain ⟨x, hx⟩ := Option.ne_none_iff_exists'.mp hsome
        exact hkeys _ (Keyed.mem_of_get? key x _ hx) rfl
      obtain ⟨s₁, hs₁, hs⟩ := h.ofEntries_comm hkeys hs hs'
      exact ofEntries_cons_ok_iff.mpr ⟨s₁, hnew hnone ▸ hs₁, hs⟩
    · have hget : Keyed.get? key ((k, w) :: es) = Keyed.get? key es := if_neg (Ne.symm heq)
      rw [hget] at hnew hold
      obtain ⟨s₁, hs₁, hs⟩ := ofEntries_cons_ok_iff.mp hs
      exact ofEntries_cons_ok_iff.mpr ⟨s₁, hs₁, ih hrest hnew hold hs⟩

lemma ofEntries_append_ok_iff {es' : Table} : ofEntries settings s (es ++ es') = .ok s' ↔
    ∃ s₁, ofEntries settings s es = .ok s₁ ∧ ofEntries settings s₁ es' = .ok s' := by
  induction es generalizing s with
  | nil => simp [ofEntries]
  | cons e es ih =>
    obtain ⟨k, w⟩ := e
    rw [List.cons_append, ofEntries_cons_ok_iff]
    simp only [ih, ofEntries_cons_ok_iff]
    constructor
    · rintro ⟨s₁, hs₁, s₂, hs₂, hs⟩
      exact ⟨s₂, ⟨s₁, hs₁, hs₂⟩, hs⟩
    · rintro ⟨s₂, ⟨s₁, hs₁, hs₂⟩, hs⟩
      exact ⟨s₁, hs₁, s₂, hs₂, hs⟩

/-- Entries with different keys are read in whatever order they come. -/
lemma Independent.ofEntries_ofList (h : Independent settings) {entries : List (String × Toml)}
    (hkeys : (entries.map Prod.fst).Nodup) (hs : ofEntries settings s entries = .ok s') :
    ofEntries settings s (Keyed.ofList entries) = .ok s' := by
  induction entries using List.reverseRec generalizing s' with
  | nil => exact hs
  | append_singleton entries e ih =>
    obtain ⟨s₁, hs₁, hlast⟩ := ofEntries_append_ok_iff.mp hs
    obtain ⟨s₂, hs₂, hnil⟩ := ofEntries_cons_ok_iff.mp hlast
    cases hnil
    rw [List.map_append, List.nodup_append] at hkeys
    rw [Keyed.ofList_concat]
    refine h.ofEntries_insert (Keyed.ascending_ofList entries) (fun _ => rfl)
      (fun w hw => ?_) (ih hkeys.1 hs₁) hs₂
    have hmem := Keyed.mem_of_mem_ofList (Keyed.mem_of_get? _ _ _ hw)
    exact (hkeys.2.2 _ (List.mem_map_of_mem hmem) _ (by simp) rfl).elim

/-! ### Layers -/

/-- A setting reads a value that is laid over another one as it reads the two in turn. -/
def Setting.Stacks (o : Setting σ) (w v : Toml) : Prop :=
  ∀ s s₁ s₂, o.put w s = .ok s₁ → o.put v s₁ = .ok s₂ → o.put (Toml.laidOver (some w) v) s = .ok s₂

/-- A setting with a single value keeps the last one. -/
lemma Setting.stacks_of {read : Toml → Except Problem α} {put : α → σ → σ}
    (hread : ∀ es a, read (.table es) ≠ .ok a) (hput : ∀ a b s, put a (put b s) = put a s) :
    (Setting.of key read put).Stacks w v := by
  intro s s₁ s₂ hs₁ hs₂
  obtain ⟨b, -, rfl⟩ := of_put_ok_iff.mp hs₁
  obtain ⟨a, ha, rfl⟩ := of_put_ok_iff.mp hs₂
  have hv : ¬ v.IsTable := by
    rintro ⟨es, rfl⟩
    exact hread es a ha
  rw [Toml.laidOver_of_not_isTable hv]
  exact of_put_ok_iff.mpr ⟨a, ha, (hput a b s).symm⟩

/-- A table laid over another one is read as the two are read one after the other. -/
theorem Independent.ofEntries_overlay (h : Independent settings) {lower upper : Table}
    (hlower : Keyed.Ascending lower) (hupper : Keyed.Ascending upper)
    (hstacks : ∀ o ∈ settings, ∀ w v, Keyed.get? o.key lower = some w →
      Keyed.get? o.key upper = some v → o.Stacks w v)
    (hs : ofEntries settings s lower = .ok s') (hs' : ofEntries settings s' upper = .ok s'') :
    ofEntries settings s (Table.overlay lower upper) = .ok s'' := by
  induction upper generalizing lower s' with
  | nil =>
    cases hs'
    rwa [Table.overlay]
  | cons e upper ih =>
    obtain ⟨key, v⟩ := e
    obtain ⟨hkey, hrest⟩ := List.pairwise_cons.mp hupper
    obtain ⟨s₁, hs₁, hs'⟩ := ofEntries_cons_ok_iff.mp hs'
    rw [Table.overlay]
    refine ih hlower.insert hrest (fun o ho w x hw hx => ?_) ?_ hs'
    · -- the keys of the rest differ from the one that was put in
      have hne : o.key ≠ key := (String.ne_of_lt (hkey _ (Keyed.mem_of_get? _ _ _ hx))).symm
      rw [Keyed.get?_insert_of_ne _ _ _ hne] at hw
      refine hstacks o ho w x hw ?_
      rw [Keyed.get?, if_neg hne.symm, hx]
    · refine h.ofEntries_insert hlower (fun hnone => ?_) (fun w hw s s₁ s₂ hs₁ hs₂ => ?_) hs hs₁
      · rw [hnone]
        cases v with
        | table es => exact Toml.laidOver_table_of_ne (by simp) es
        | _ => exact Toml.laidOver_of_not_isTable (by simp [Toml.IsTable]) none
      · rw [hw]
        cases ho : settings.find? (·.key = key) with
        | none =>
          rw [putEntry_of_find?_none ho] at hs₁ hs₂ ⊢
          rw [hs₁, hs₂]
        | some o =>
          have hokey : o.key = key := by simpa using List.find?_some ho
          rw [putEntry_of_find? ho] at hs₁ hs₂ ⊢
          refine hstacks o (List.mem_of_find?_eq_some ho) w v (hokey ▸ hw) ?_ s s₁ s₂ hs₁ hs₂
          rw [hokey, Keyed.get?, if_pos rfl]

/-- A section reads a table that is laid over another one as it reads the two in turn. For arrays
this fails: they are read item by item, but they take the place of what was there. -/
lemma Setting.stacks_ofSection {name : String} {inner : List (Setting α)} {get : σ → α}
    {put : α → σ → σ} (hinner : Independent inner) (hstacks : ∀ o ∈ inner, ∀ w v, o.Stacks w v)
    (hget : ∀ a s, get (put a s) = a) (hput : ∀ a b s, put a (put b s) = put a s)
    (hw : w.Ordered) (hv : v.Ordered) (hwa : ∀ items, w ≠ .array items)
    (hva : ∀ items, v ≠ .array items) :
    (Setting.ofSection key name inner get put).Stacks w v := by
  intro s s₁ s₂ hs₁ hs₂
  obtain ⟨b, hb, rfl⟩ := ofSection_put_ok_iff.mp hs₁
  obtain ⟨a, ha, rfl⟩ := ofSection_put_ok_iff.mp hs₂
  rw [hget] at ha
  rw [hput]
  cases hw with
  | @table lower hlower _ =>
    cases hv with
    | @table upper hupper _ =>
      rw [Toml.laidOver]
      refine ofSection_put_ok_iff.mpr ⟨a, ?_, rfl⟩
      exact hinner.ofEntries_overlay hlower hupper (fun o ho w v _ _ => hstacks o ho w v) hb ha
    | array => exact (hva _ rfl).elim
    | _ => cases ha
  | array => exact (hwa _ rfl).elim
  | _ => cases hb

/-! ### Values that fit -/

/-- Whether a value fits a setting does not depend on the section it is put in. -/
def Setting.Steady (o : Setting σ) : Prop :=
  ∀ v s s₁ s', o.put v s = .ok s₁ → ∃ s₂, o.put v s' = .ok s₂

lemma Setting.steady_of {read : Toml → Except Problem α} {put : α → σ → σ} :
    (Setting.of key read put).Steady := by
  intro v s s₁ s' hs
  obtain ⟨a, ha, -⟩ := of_put_ok_iff.mp hs
  exact ⟨_, of_put_ok_iff.mpr ⟨a, ha, rfl⟩⟩

/-- Entries that fit still do if some of them are left out, whatever they are put in. -/
lemma ofEntries_filter (hsettings : ∀ o ∈ settings, o.Steady) (p : String × Toml → Bool)
    (hs : ofEntries settings s es = .ok s') (t : σ) :
    ∃ t', ofEntries settings t (es.filter p) = .ok t' := by
  induction es generalizing s t with
  | nil => exact ⟨t, rfl⟩
  | cons e es ih =>
    obtain ⟨k, w⟩ := e
    obtain ⟨s₁, hs₁, hs⟩ := ofEntries_cons_ok_iff.mp hs
    cases hp : p (k, w) with
    | false =>
      rw [List.filter_cons_of_neg (by simp [hp])]
      exact ih hs t
    | true =>
      obtain ⟨t₁, ht₁⟩ : ∃ t₁, putEntry settings k w t = .ok t₁ := by
        cases ho : settings.find? (·.key = k) with
        | none => exact ⟨t, putEntry_of_find?_none ho⟩
        | some o =>
          rw [putEntry_of_find? ho] at hs₁ ⊢
          exact hsettings o (List.mem_of_find?_eq_some ho) w s s₁ t hs₁
      obtain ⟨t', ht'⟩ := ih hs t₁
      rw [List.filter_cons_of_pos hp]
      exact ⟨t', ofEntries_cons_ok_iff.mpr ⟨t₁, ht₁, ht'⟩⟩

/-- A section given as an array can be read over any value if it can be read over one. -/
lemma ofItems_steady (hsettings : ∀ o ∈ settings, o.Steady) {items : List Toml}
    (hs : ofItems s settings items = .ok s') (t : σ) : ∃ t', ofItems t settings items = .ok t' := by
  induction settings generalizing items s t with
  | nil => exact ⟨t, by cases items <;> rfl⟩
  | cons o settings ih =>
    cases items with
    | nil => exact ⟨t, rfl⟩
    | cons v items =>
      obtain ⟨ho, hsettings⟩ := List.forall_mem_cons.mp hsettings
      obtain ⟨s₁, hs₁, hs⟩ := bind_eq_ok_iff.mp hs
      obtain ⟨t₁, ht₁⟩ := ho v s s₁ t hs₁
      obtain ⟨t', ht'⟩ := ih hsettings hs t₁
      exact ⟨t', bind_eq_ok_iff.mpr ⟨t₁, ht₁, ht'⟩⟩

/-- Whether a section can be read does not depend on what it is read over. -/
lemma ofValue_steady {name : String} (hsettings : ∀ o ∈ settings, o.Steady)
    (hs : ofValue name settings s v = .ok s') (t : σ) :
    ∃ t', ofValue name settings t v = .ok t' := by
  cases v with
  | table es =>
    obtain ⟨t', ht'⟩ := ofEntries_filter hsettings (fun _ => true) hs t
    exact ⟨t', by rwa [List.filter_true] at ht'⟩
  | array items =>
    obtain ⟨s₁, hs₁, hs⟩ := bind_eq_ok_iff.mp hs
    obtain ⟨t', ht'⟩ := ofItems_steady hsettings hs₁ t
    refine ⟨t', bind_eq_ok_iff.mpr ⟨t', ht', ?_⟩⟩
    split_ifs at hs ⊢ with hlength
    rfl
  | _ => cases hs

lemma Setting.steady_ofSection {name : String} {inner : List (Setting α)} {get : σ → α}
    {put : α → σ → σ} (hinner : ∀ o ∈ inner, o.Steady) :
    (Setting.ofSection key name inner get put).Steady := by
  intro v s s₁ s' hs
  obtain ⟨a, ha, -⟩ := ofSection_put_ok_iff.mp hs
  obtain ⟨b, hb⟩ := ofValue_steady hinner ha (get s')
  exact ⟨_, ofSection_put_ok_iff.mpr ⟨b, hb, rfl⟩⟩

/-! ### Numbers that fit -/

lemma readNatural_toNat {expected : Expected} {n bound : Nat} (h : n < bound) :
    readNatural expected bound (.integer n) = .ok n := by
  have hn : (0 : Int) ≤ n ∧ (n : Int) < bound := ⟨Int.natCast_nonneg n, Int.ofNat_lt.mpr h⟩
  rw [readNatural, if_pos hn, Int.toNat_natCast]

lemma readPort_toNat (n : UInt16) : readPort (.integer n.toNat) = .ok n := by
  rw [readPort, readNatural_toNat n.toNat_lt]
  exact congrArg Except.ok UInt16.ofNat_toNat

lemma readCount_toNat (n : UInt32) : readCount (.integer n.toNat) = .ok n := by
  rw [readCount, readNatural_toNat n.toNat_lt]
  exact congrArg Except.ok UInt32.ofNat_toNat

/-! ### The sections of the configuration -/

lemma independent_pathSettings : Independent pathSettings := by
  simp [Independent, pathSettings, Setting.commutes_of]

lemma independent_engineSettings : Independent engineSettings := by
  simp [Independent, engineSettings, Setting.commutes_of]

lemma independent_relaySettings : Independent relaySettings := by
  simp [Independent, relaySettings, Setting.commutes_of]

lemma independent_presetSettings : Independent presetSettings := by
  simp [Independent, presetSettings, Setting.commutes_of]

lemma independent_telemetrySettings : Independent telemetrySettings := by
  simp [Independent, telemetrySettings]

/-- No section touches another one. -/
lemma independent_sections : Independent sections := by
  simp [Independent, sections, Setting.commutes_ofSection]

/-- Every section reads a table that is laid over another one as it reads the two in turn. -/
lemma sections_stack {o : Setting Config} (ho : o ∈ sections) (hw : w.Ordered) (hv : v.Ordered)
    (hwa : ∀ items, w ≠ .array items) (hva : ∀ items, v ≠ .array items) : o.Stacks w v := by
  fin_cases ho
  all_goals
    refine Setting.stacks_ofSection ?_ (fun o ho w v => ?_) (fun _ _ => rfl) (fun _ _ _ => rfl)
      hw hv hwa hva
    · -- the settings of each section are independent of each other
      first
        | exact independent_pathSettings
        | exact independent_engineSettings
        | exact independent_relaySettings
        | exact independent_presetSettings
        | exact independent_telemetrySettings
    · fin_cases ho
      all_goals exact Setting.stacks_of (fun _ _ => nofun) (fun _ _ _ => rfl)

lemma sections_steady : ∀ o ∈ sections, o.Steady := by
  intro o ho
  fin_cases ho
  all_goals
    refine Setting.steady_ofSection fun o ho => ?_
    fin_cases ho
    all_goals exact Setting.steady_of

/-- A configuration is read over the defaults, and its directories are expanded at the end. -/
lemma ofTable_ok_iff {env : Environment} {t : Table} {c : Config} : ofTable env t = .ok c ↔
    ∃ c₀, ofEntries sections (.default env) t = .ok c₀ ∧
      { c₀ with paths := c₀.paths.expand env } = c := by
  simp only [ofTable, bind_eq_ok_iff, pure, Except.pure, Except.ok.injEq]

end Patchbay.Config
