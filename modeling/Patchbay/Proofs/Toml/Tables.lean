import Patchbay.Proofs.Text.Keyed
import Patchbay.Proofs.Toml.Statements

/-!
# Tables in plain settings files

The statements of a file of sections make the table of the sections, each with the table of its
values. The sections, and the keys of each section, have to differ, but may come in any order.
-/

namespace Patchbay.Toml

open Draft (Entries File)

variable {root es : Entries} {name key : String} {b : Block} {bs : List Block}

/-! ### Statements -/

/-- A section in the making. -/
def Block.draft (b : Block) : String × Draft :=
  (b.name, .table .opened (b.entries.map fun e => (e.1, .value e.2.value)))

/-- A header opens a section that was not there before. -/
lemma take_header (hroot : ∀ p ∈ root, p.1 ≠ name) (current : List String) :
    File.take ⟨root, current⟩ (.header [name]) =
      some ⟨root ++ [(name, .table .opened [])], [name]⟩ := by
  simp only [File.take, List.getLast?_singleton, List.dropLast_singleton, Option.bind_eq_bind,
    Option.bind_some, Draft.within, Draft.openTable, Keyed.get?_eq_none hroot,
    Keyed.put_eq_concat hroot]
  rfl

/-- A value is put after the others of the section that was opened last. -/
lemma take_assignment (hroot : ∀ p ∈ root, p.1 ≠ name) (hes : ∀ p ∈ es, p.1 ≠ key) (d : Draft) :
    File.take ⟨root ++ [(name, .table .opened es)], [name]⟩ (.assignment [key] d) =
      some ⟨root ++ [(name, .table .opened (es ++ [(key, d)]))], [name]⟩ := by
  have hget : Keyed.get? name (root ++ [(name, .table .opened es)]) = some (.table .opened es) := by
    rw [Keyed.get?_append_of_ne hroot, Keyed.get?_cons, if_pos rfl]
  have hput : ∀ d', Keyed.put name d' (root ++ [(name, .table .opened es)]) =
      root ++ [(name, d')] := by
    intro d'
    rw [Keyed.put_append_of_ne d' hroot, Keyed.put_cons, if_pos rfl]
  have hvalue : Draft.assign es d [key] = some (es ++ [(key, d)]) := by
    rw [Draft.assign, Draft.addValue, Keyed.get?_eq_none hes]
    exact congrArg some (Keyed.put_eq_concat hes)
  simp only [File.take, Draft.within, hget, hput, hvalue, Option.bind_eq_bind, Option.bind_some]
  rfl

/-- The settings after a header go to its section, in their order. -/
lemma foldlM_assignments (hroot : ∀ p ∈ root, p.1 ≠ name) (es : Entries)
    (new : List (String × Plain)) (hnew : (es.map Prod.fst ++ new.map Prod.fst).Nodup) :
    (new.map fun e => Statement.assignment [e.1] (.value e.2.value)).foldlM File.take
        ⟨root ++ [(name, .table .opened es)], [name]⟩ =
      some ⟨root ++ [(name, .table .opened (es ++ new.map fun e => (e.1, .value e.2.value)))],
        [name]⟩ := by
  induction new generalizing es with
  | nil => simp
  | cons e new ih =>
    have hkey : ∀ p ∈ es, p.1 ≠ e.1 := by
      intro p hp heq
      exact (List.nodup_append.mp hnew).2.2 p.1 (List.mem_map_of_mem hp) e.1 (by simp) heq
    rw [List.map_cons, List.foldlM_cons, take_assignment hroot hkey]
    have hrest := ih (es ++ [(e.1, .value e.2.value)]) (by simpa using hnew)
    simpa using hrest

lemma foldlM_block (hroot : ∀ p ∈ root, p.1 ≠ b.name) (hb : b.WellFormed) (current : List String) :
    b.statements.foldlM File.take ⟨root, current⟩ = some ⟨root ++ [b.draft], [b.name]⟩ := by
  rw [Block.statements, List.foldlM_cons, take_header hroot]
  exact foldlM_assignments hroot [] b.entries (by simpa using hb.nodup)

/-- Sections with different names are put after each other. -/
lemma foldlM_blocks (hbs : ∀ b ∈ bs, b.WellFormed) (root : Entries)
    (hnames : (root.map Prod.fst ++ bs.map Block.name).Nodup) (current : List String) :
    ∃ current', (bs.flatMap Block.statements).foldlM File.take ⟨root, current⟩ =
      some ⟨root ++ bs.map Block.draft, current'⟩ := by
  induction bs generalizing root current with
  | nil => exact ⟨current, by simp⟩
  | cons b bs ih =>
    obtain ⟨hb, hbs⟩ := List.forall_mem_cons.mp hbs
    have hroot : ∀ p ∈ root, p.1 ≠ b.name := by
      intro p hp heq
      exact (List.nodup_append.mp hnames).2.2 p.1 (List.mem_map_of_mem hp) b.name (by simp) heq
    obtain ⟨current', hrest⟩ := ih hbs (root ++ [b.draft])
      (by simpa [Block.draft] using hnames) [b.name]
    refine ⟨current', ?_⟩
    rw [List.flatMap_cons, List.foldlM_append, foldlM_block hroot hb]
    simpa using hrest

/-! ### Finished tables -/

/-- Entries whose keys differ are finished one by one. -/
lemma finishEntries_map {α : Type} {es : List α} (name : α → String) (draft : α → Draft)
    (value : α → Toml) (hvalues : ∀ e ∈ es, (draft e).finish = some (value e))
    (hkeys : (es.map name).Nodup) : Draft.finishEntries (es.map fun e => (name e, draft e)) =
      some (Keyed.ofList (es.map fun e => (name e, value e))) := by
  induction es with
  | nil => rfl
  | cons e es ih =>
    obtain ⟨he, hes⟩ := List.forall_mem_cons.mp hvalues
    obtain ⟨hkey, hkeys⟩ := List.nodup_cons.mp hkeys
    rw [List.map_cons, Draft.finishEntries, he, ih hes hkeys]
    refine congrArg some (Keyed.insert_ofList ?_ ?_)
    · simpa using hkey
    · simpa [Function.comp_def] using hkeys

/-- A table that is not in the form of a date is finished entry by entry. -/
lemma finishTable_eq {t : Table} (hes : ∀ e ∈ es, e.1 ≠ datetimeKey)
    (ht : Draft.finishEntries es = some t) : Draft.finishTable es = some (.table t) := by
  cases es with
  | nil =>
    cases ht
    rfl
  | cons e es =>
    obtain ⟨key, d⟩ := e
    rw [Draft.finishTable, if_neg (hes _ List.mem_cons_self)]
    rw [Draft.finishEntries] at ht
    cases hd : d.finish with
    | none => simp [hd] at ht
    | some v =>
      cases hrest : Draft.finishEntries es with
      | none => simp [hd, hrest] at ht
      | some rest =>
        simp only [hd, hrest, Option.bind_eq_bind, Option.bind_some, pure,
          Option.some.injEq] at ht ⊢
        rw [ht]

/-- The draft of a section is finished to the table of its values. -/
lemma finish_draft (hb : b.WellFormed) : b.draft.2.finish = some (.table b.table) := by
  have hentries : Draft.finishEntries (b.entries.map fun e => (e.1, .value e.2.value)) =
      some b.table :=
    finishEntries_map Prod.fst (fun e => .value e.2.value) (fun e => e.2.value) (fun _ _ => rfl)
      hb.nodup
  have hdate : ¬ Bare datetimeKey := by decide
  refine finishTable_eq (fun e he hkey => hdate ?_) hentries
  obtain ⟨entry, hentry, rfl⟩ := List.mem_map.mp he
  exact hkey ▸ hb.keys _ (List.mem_map_of_mem hentry)

/-- The statements of sections make the table of the sections. -/
lemma ofStatements?_blocks (hbs : ∀ b ∈ bs, b.WellFormed) (hnames : (bs.map Block.name).Nodup) :
    Table.ofStatements? (bs.flatMap Block.statements) =
      some (Keyed.ofList (bs.map fun b => (b.name, .table b.table))) := by
  obtain ⟨current, hfile⟩ := foldlM_blocks hbs [] (by simpa using hnames) []
  have htables := finishEntries_map Block.name (fun b => b.draft.2) (fun b => .table b.table)
    (fun b hb => finish_draft (hbs b hb)) hnames
  rw [Table.ofStatements?, hfile]
  exact htables

/-- A file of sections with plain values, after a comment, is read as the table of them. -/
theorem Table.ofText?_blocks (hbs : ∀ b ∈ bs, b.WellFormed) (hnames : (bs.map Block.name).Nodup)
    {comment : List Char} (hcomment : comment.all isPlain = true) :
    Table.ofText? (String.join (String.ofList ('#' :: (comment ++ ['\n'])) ::
      bs.flatMap fun b => "\n" :: b.lines)) =
      some (Keyed.ofList (bs.map fun b => (b.name, .table b.table))) := by
  have hread := (Reads.blocks hbs).comment hcomment
  have htext : (String.join (String.ofList ('#' :: (comment ++ ['\n'])) ::
      bs.flatMap fun b => "\n" :: b.lines)).toList = '#' :: (comment ++ '\n' ::
        (bs.flatMap fun b => "\n" :: b.lines).flatMap String.toList) := by
    rw [String.toList_join, List.flatMap_cons, String.toList_ofList]
    simp
  rw [Table.ofText?, htext, skipByteOrderMark]
  · simp only [hread _ (Nat.lt_succ_self _), Option.bind_eq_bind, Option.bind_some]
    exact ofStatements?_blocks hbs hnames
  · simp

end Patchbay.Toml
