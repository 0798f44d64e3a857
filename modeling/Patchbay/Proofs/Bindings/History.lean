import Mathlib.Data.Finset.Card
import Patchbay.Proofs.Compile.Steps

/-!
# What is recorded first stays

A history of bindings is a list of writes, made one after the other whatever the answers are. Each
of the three tables holds the first value that was written under a key: a node or a connection under
a key that is taken is refused, and the bus of a level that has one is passed over. What is written
to one table is nothing to the others.
-/

namespace Patchbay

namespace Bindings

inductive Write where
  | node (key : NodeKey) (binding : NodeBinding)
  | connection (level index : Nat) (link : Int) (id : String)
  | levelBus (level : Nat) (id : String)
deriving DecidableEq, Repr

namespace Write

def node? : Write → Option (NodeKey × NodeBinding)
  | node key binding => some (key, binding)
  | _ => none

/-- What is written to the table of connections. The id of the link is no part of it. -/
def connection? : Write → Option ((Nat × Nat) × String)
  | connection level index _ id => some ((level, index), id)
  | _ => none

def levelBus? : Write → Option (Nat × String)
  | levelBus level id => some (level, id)
  | _ => none

def relink (link : Int) : Write → Write
  | connection level index _ id => connection level index link id
  | w => w

@[simp] lemma node?_eq_some_iff {w : Write} {key : NodeKey} {x : NodeBinding} :
    w.node? = some (key, x) ↔ w = node key x := by
  cases w <;> simp [node?]

@[simp] lemma connection?_eq_some_iff {w : Write} {level index : Nat} {id : String} :
    w.connection? = some ((level, index), id) ↔ ∃ link, w = connection level index link id := by
  cases w <;> simp [connection?, and_assoc]

@[simp] lemma levelBus?_eq_some_iff {w : Write} {level : Nat} {id : String} :
    w.levelBus? = some (level, id) ↔ w = levelBus level id := by
  cases w <;> simp [levelBus?]

@[simp] lemma node?_relink (link : Int) (w : Write) : (w.relink link).node? = w.node? := by
  cases w <;> rfl

@[simp] lemma connection?_relink (link : Int) (w : Write) :
    (w.relink link).connection? = w.connection? := by
  cases w <;> rfl

@[simp] lemma levelBus?_relink (link : Int) (w : Write) :
    (w.relink link).levelBus? = w.levelBus? := by
  cases w <;> rfl

end Write

def record : Write → Bindings → Except BindingError Bindings
  | .node key binding, b => b.bindNode key binding
  | .connection level index link id, b => b.bindConnection level index link id
  | .levelBus level id, b => .ok (b.bindLevelBus level id)

/-- The answer to a write, and the bindings after it. -/
def write (b : Bindings) (w : Write) : Except BindingError Unit × Bindings :=
  match record w b with
  | .ok b' => (.ok (), b')
  | .error err => (.error err, b)

def writeAll (b : Bindings) (ws : List Write) : Bindings := ws.foldl (fun b w => (b.write w).2) b

/-- Some writes with the answers to them. -/
def answered (b : Bindings) : List Write → List (Write × Except BindingError Unit)
  | [] => []
  | w :: ws => (w, (b.write w).1) :: answered (b.write w).2 ws

/-- The key of a node that a write has recorded: it was not refused. -/
def boundKey? : Write × Except BindingError Unit → Option NodeKey
  | (.node key _, .ok _) => some key
  | _ => none

def boundKeys (b : Bindings) (ws : List Write) : List NodeKey :=
  (b.answered ws).filterMap boundKey?

/-! ### One table -/

section Table

variable {κ α : Type} [BEq κ] {table pairs : List (κ × α)} {k : κ}

/-- A table after a write to it: what is under a key stays. -/
def putNew (table : List (κ × α)) (pair : κ × α) : List (κ × α) :=
  if (table.lookup pair.1).isSome then table else pair :: table

lemma putNew_of_none (h : table.lookup k = none) (x : α) :
    putNew table (k, x) = (k, x) :: table := by
  rw [putNew, h]
  rfl

lemma putNew_of_some {y : α} (h : table.lookup k = some y) (x : α) :
    putNew table (k, x) = table := by
  rw [putNew, h]
  rfl

variable [LawfulBEq κ]

/-- The value that is there first stays. -/
lemma lookup_putNew (pair : κ × α) :
    (putNew table pair).lookup k = (table.lookup k).or ([pair].lookup k) := by
  obtain ⟨k', x⟩ := pair
  cases h : table.lookup k' with
  | none =>
    rw [putNew_of_none h, ← List.singleton_append, List.lookup_append]
    by_cases hk : k = k'
    · subst hk
      simp [h]
    · simp [List.lookup_cons, beq_eq_false_iff_ne.mpr hk]
  | some y =>
    rw [putNew_of_some h]
    by_cases hk : k = k'
    · subst hk
      simp [h]
    · simp [List.lookup_cons, beq_eq_false_iff_ne.mpr hk]

/-- In a table that is filled, the first value of a key is found. -/
lemma lookup_foldl_putNew :
    (pairs.foldl putNew table).lookup k = (table.lookup k).or (pairs.lookup k) := by
  induction pairs generalizing table with
  | nil => simp
  | cons pair pairs ih =>
    rw [List.foldl_cons, ih, lookup_putNew, Option.or_assoc, ← List.lookup_append,
      List.singleton_append]

/-- A key gets into a table once. -/
lemma nodup_putNew (h : (table.map Prod.fst).Nodup) (pair : κ × α) :
    ((putNew table pair).map Prod.fst).Nodup := by
  unfold putNew
  split_ifs with htaken
  · exact h
  · have hfree : pair.1 ∉ table.map Prod.fst := by
      rw [List.mem_map]
      rintro ⟨p, hp, hkey⟩
      exact htaken (List.lookup_isSome_iff.mpr ⟨p, hp, by simp [hkey]⟩)
    exact List.nodup_cons.mpr ⟨hfree, h⟩

lemma nodup_foldl_putNew (h : (table.map Prod.fst).Nodup) :
    ((pairs.foldl putNew table).map Prod.fst).Nodup := by
  induction pairs generalizing table with
  | nil => exact h
  | cons pair pairs ih => exact ih (nodup_putNew h pair)

end Table

/-! ### One write -/

/-- A node is refused if it is bound; otherwise its entry comes in front. -/
lemma write_node (b : Bindings) (key : NodeKey) (x : NodeBinding) :
    b.write (.node key x) =
      (if (b.node? key).isSome then .error (.nodeBound key) else .ok (),
        { b with nodes := putNew b.nodes (key, x) }) := by
  cases h : b.node? key with
  | none =>
    rw [putNew_of_none h]
    simp [write, record, bindNode, h]
  | some y =>
    rw [putNew_of_some h]
    simp [write, record, bindNode, h]

/-- A connection is refused if there is one for the link, and the error names the link by its id. -/
lemma write_connection (b : Bindings) (level index : Nat) (link : Int) (id : String) :
    b.write (.connection level index link id) =
      (if (b.connection? level index).isSome then .error (.linkBound level link) else .ok (),
        { b with connections := putNew b.connections ((level, index), id) }) := by
  cases h : b.connection? level index with
  | none =>
    have hfree : b.connections.lookup (level, index) = none := h
    rw [putNew_of_none hfree]
    simp [write, record, bindConnection, h]
  | some y =>
    have htaken : b.connections.lookup (level, index) = some y := h
    rw [putNew_of_some htaken]
    simp [write, record, bindConnection, h]

/-- The bus of a level is never refused. -/
lemma write_levelBus (b : Bindings) (level : Nat) (id : String) :
    b.write (.levelBus level id) =
      (.ok (), { b with levelBuses := putNew b.levelBuses (level, id) }) := by
  cases h : b.levelBus? level with
  | none =>
    rw [putNew_of_none h]
    simp [write, record, bindLevelBus, h]
  | some y =>
    rw [putNew_of_some h]
    simp [write, record, bindLevelBus, h]

/-- Each table takes up what is written to it. -/
lemma write_snd (b : Bindings) (w : Write) :
    (b.write w).2 = ⟨w.node?.toList.foldl putNew b.nodes,
      w.connection?.toList.foldl putNew b.connections,
      w.levelBus?.toList.foldl putNew b.levelBuses⟩ := by
  cases w with
  | node key x => rw [write_node]; rfl
  | connection level index link id => rw [write_connection]; rfl
  | levelBus level id => rw [write_levelBus]; rfl

lemma write_snd_of_error {b : Bindings} {w : Write} {err : BindingError}
    (h : (b.write w).1 = .error err) : (b.write w).2 = b := by
  unfold write at h ⊢
  cases hw : record w b with
  | ok b' => rw [hw] at h; cases h
  | error err' => rfl

/-- A step of a compilation that records something answers as the write does, and changes nothing
but the bindings. -/
lemma run_bind?_record {σ : Type} (s : Session σ) (w : Write) :
    (Compiler.bind? (record w)).run s =
      ((s.bindings.write w).1.mapError .binding, { s with bindings := (s.bindings.write w).2 }) := by
  unfold write
  change ((proceed ((record w s.bindings).mapError .binding) : Compiler σ Bindings) >>=
    fun b => set { s with bindings := b }).run s = _
  cases h : record w s.bindings <;> rfl

/-! ### All writes -/

/-- Each table is filled with what is written to it. -/
lemma writeAll_eq (b : Bindings) (ws : List Write) :
    b.writeAll ws = ⟨(ws.filterMap Write.node?).foldl putNew b.nodes,
      (ws.filterMap Write.connection?).foldl putNew b.connections,
      (ws.filterMap Write.levelBus?).foldl putNew b.levelBuses⟩ := by
  induction ws generalizing b with
  | nil => rfl
  | cons w ws ih =>
    rw [writeAll, List.foldl_cons, ← writeAll, ih, write_snd]
    cases w <;> rfl

/-- The table of nodes has the keys that were not refused. -/
lemma map_fst_nodes_writeAll (b : Bindings) (ws : List Write) :
    (b.writeAll ws).nodes.map Prod.fst = (b.boundKeys ws).reverse ++ b.nodes.map Prod.fst := by
  induction ws generalizing b with
  | nil => rfl
  | cons w ws ih =>
    rw [writeAll, List.foldl_cons, ← writeAll, ih, boundKeys, boundKeys, answered]
    cases w with
    | node key x =>
      rw [write_node]
      cases h : b.node? key with
      | none => simp [putNew_of_none h, boundKey?]
      | some y => simp [putNew_of_some h, boundKey?, List.filterMap_cons]
    | connection level index link id => simp [write_connection, boundKey?, List.filterMap_cons]
    | levelBus level id => simp [write_levelBus, boundKey?, List.filterMap_cons]

/-! ### What a history leaves -/

/-- The tables that some writes leave hold what was written first, and the answer to a further write
is told from the writes before it. -/
structure KeepsFirst (ws : List Write) (b : Bindings) : Prop where
  /-- What is looked up is the first value that was written under its key, if any was. -/
  node?_eq : ∀ key, b.node? key = (ws.filterMap Write.node?).lookup key
  connection?_eq : ∀ level index,
    b.connection? level index = (ws.filterMap Write.connection?).lookup (level, index)
  levelBus?_eq : ∀ level, b.levelBus? level = (ws.filterMap Write.levelBus?).lookup level
  /-- A node or a connection is refused if and only if its key has been written to. -/
  refuses_node_iff : ∀ key x err, (b.write (.node key x)).1 = .error err ↔
    err = .nodeBound key ∧ ∃ y, .node key y ∈ ws
  refuses_connection_iff : ∀ level index link id err,
    (b.write (.connection level index link id)).1 = .error err ↔
      err = .linkBound level link ∧ ∃ link' id', .connection level index link' id' ∈ ws
  /-- The bus of a level is never refused. -/
  accepts_levelBus : ∀ level id, (b.write (.levelBus level id)).1 = .ok ()
  /-- A write that is refused changes nothing. -/
  unchanged_of_refused : ∀ w err, (b.write w).1 = .error err → (b.write w).2 = b
  /-- Neither does the bus of a level that has one. -/
  unchanged_of_levelBus : ∀ level id id', .levelBus level id' ∈ ws →
    (b.write (.levelBus level id)).2 = b
  /-- A table depends on what is written to it, and on nothing else. -/
  nodes_congr : ∀ ws' : List Write, ws'.filterMap Write.node? = ws.filterMap Write.node? →
    (writeAll {} ws').nodes = b.nodes
  connections_congr : ∀ ws' : List Write,
    ws'.filterMap Write.connection? = ws.filterMap Write.connection? →
      (writeAll {} ws').connections = b.connections
  levelBuses_congr : ∀ ws' : List Write,
    ws'.filterMap Write.levelBus? = ws.filterMap Write.levelBus? →
      (writeAll {} ws').levelBuses = b.levelBuses
  /-- The ids of links are nothing to the tables. -/
  relink : ∀ link, writeAll {} (ws.map (Write.relink link)) = b
  /-- The number of nodes is the number of keys that were not refused, which all differ. -/
  boundKeys_nodup : (boundKeys {} ws).Nodup
  nodeCount_eq : b.nodeCount = (boundKeys {} ws).toFinset.card
  /-- A compilation under way that records something is answered in the same way, and keeps all
  else that it holds. -/
  session : ∀ (σ : Type) (s : Session σ) w, s.bindings = b →
    (Compiler.bind? (record w)).run s =
      ((b.write w).1.mapError .binding, { s with bindings := (b.write w).2 })

/-- The first value that was written for a node is the one that counts. -/
lemma node?_writeAll (ws : List Write) (key : NodeKey) :
    (writeAll {} ws).node? key = (ws.filterMap Write.node?).lookup key := by
  rw [writeAll_eq]
  exact lookup_foldl_putNew

lemma connection?_writeAll (ws : List Write) (level index : Nat) :
    (writeAll {} ws).connection? level index =
      (ws.filterMap Write.connection?).lookup (level, index) := by
  rw [writeAll_eq]
  exact lookup_foldl_putNew

lemma levelBus?_writeAll (ws : List Write) (level : Nat) :
    (writeAll {} ws).levelBus? level = (ws.filterMap Write.levelBus?).lookup level := by
  rw [writeAll_eq]
  exact lookup_foldl_putNew

lemma node?_writeAll_isSome_iff {ws : List Write} {key : NodeKey} :
    ((writeAll {} ws).node? key).isSome ↔ ∃ x, .node key x ∈ ws := by
  simp [node?_writeAll]

lemma connection?_writeAll_isSome_iff {ws : List Write} {level index : Nat} :
    ((writeAll {} ws).connection? level index).isSome ↔
      ∃ link id, .connection level index link id ∈ ws := by
  rw [exists_comm]
  simp [connection?_writeAll]

lemma levelBus?_writeAll_isSome_iff {ws : List Write} {level : Nat} :
    ((writeAll {} ws).levelBus? level).isSome ↔ ∃ id, .levelBus level id ∈ ws := by
  simp [levelBus?_writeAll]

/-- A node is accepted once at most. -/
lemma boundKeys_nodup (ws : List Write) : (boundKeys {} ws).Nodup := by
  have hnodup : ((writeAll {} ws).nodes.map Prod.fst).Nodup := by
    rw [writeAll_eq]
    exact nodup_foldl_putNew List.nodup_nil
  rw [map_fst_nodes_writeAll] at hnodup
  simpa using hnodup

/-- The first value of each key is kept over every history. -/
theorem writeAll_keepsFirst (ws : List Write) : KeepsFirst ws (writeAll {} ws) where
  node?_eq := node?_writeAll ws
  connection?_eq := connection?_writeAll ws
  levelBus?_eq := levelBus?_writeAll ws
  refuses_node_iff key x err := by
    rw [write_node, ← node?_writeAll_isSome_iff]
    split_ifs with h <;> simp [h, eq_comm]
  refuses_connection_iff level index link id err := by
    rw [write_connection, ← connection?_writeAll_isSome_iff]
    split_ifs with h <;> simp [h, eq_comm]
  accepts_levelBus level id := by rw [write_levelBus]
  unchanged_of_refused w err := write_snd_of_error
  unchanged_of_levelBus level id id' h := by
    -- the level has a bus by now, be it that of the earlier write or one before it
    obtain ⟨bus, hbus⟩ :=
      Option.isSome_iff_exists.mp (levelBus?_writeAll_isSome_iff.mpr ⟨id', h⟩)
    rw [write_levelBus, putNew_of_some hbus]
  nodes_congr ws' h := by rw [writeAll_eq, writeAll_eq, h]
  connections_congr ws' h := by rw [writeAll_eq, writeAll_eq, h]
  levelBuses_congr ws' h := by rw [writeAll_eq, writeAll_eq, h]
  relink link := by
    rw [writeAll_eq, writeAll_eq]
    simp [List.filterMap_map]
  boundKeys_nodup := boundKeys_nodup ws
  nodeCount_eq := by
    have hlength := congrArg List.length (map_fst_nodes_writeAll {} ws)
    rw [nodeCount, List.toFinset_card_of_nodup (boundKeys_nodup ws)]
    simpa using hlength
  session σ s w h := h ▸ run_bind?_record s w

example :
    let b := writeAll {} [.node ⟨0, 3⟩ (.mains ["p"]), .connection 0 1 10 "c",
      .node ⟨0, 3⟩ (.mains ["q"]), .connection 0 1 11 "d"]
    b.node? ⟨0, 3⟩ = some (.mains ["p"]) ∧ b.connection? 0 1 = some "c" ∧ b.nodeCount = 1 :=
  ⟨rfl, rfl, rfl⟩

end Bindings

end Patchbay
