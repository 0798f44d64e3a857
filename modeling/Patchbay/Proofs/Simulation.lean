import Patchbay.Proofs.Supervision.Timeline
import Patchbay.Simulation

/-!
# What a simulated host tells

A system of processes keeps account of those that someone outside has started: no process that runs
takes one of them away or passes itself off as one. So a host that runs simulations tells the end of
each program that it has started, and of no other process.
-/

namespace Patchbay

/-- The numbers of the processes that someone outside has started. All processes have numbers of
their own, and none has that of who stands outside. -/
structure System.Account (tasks : List Task) (next : Nat) (ids : List Nat) : Prop where
  outside : (tasks.filter (·.parent = System.outside)).map Task.id = ids
  nodup : (tasks.map Task.id).Nodup
  bounds : ∀ t ∈ tasks, System.outside < t.id ∧ t.id < next
  next : System.outside < next

namespace Task

@[simp] lemma receive_id (t : Task) (signal : Nat) : (t.receive signal).id = t.id := by
  unfold receive
  dsimp only
  split_ifs <;> rfl

@[simp] lemma receive_parent (t : Task) (signal : Nat) : (t.receive signal).parent = t.parent := by
  unfold receive
  dsimp only
  split_ifs <;> rfl

end Task

variable {s s' : System} {t u : Task} {tasks : List Task} {next : Nat} {ids : List Nat}

namespace System

lemma first?_cases (s : System) (best : Option Task) (t : Task) :
    s.first? best t = some t ∨ s.first? best t = best := by
  unfold first?
  split_ifs with hgoes
  · cases best with
    | none => exact .inl rfl
    | some b => exact ite_eq_or_eq _ _ _
  · exact .inr rfl

lemma mem_of_foldl_first? {best : Option Task} (h : tasks.foldl s.first? best = some t) :
    t ∈ tasks ∨ best = some t := by
  induction tasks generalizing best with
  | nil => exact .inr h
  | cons u tasks ih =>
    rcases ih h with hmem | hfirst
    · exact .inl (List.mem_cons_of_mem _ hmem)
    · rcases s.first?_cases best u with hu | hbest
      · rw [hu] at hfirst
        exact .inl (Option.some.inj hfirst ▸ List.mem_cons_self)
      · exact .inr (hbest ▸ hfirst)

/-- The process that runs next is one of the system. -/
lemma mem_of_next? (h : s.next? = some t) : t ∈ s.tasks :=
  (mem_of_foldl_first? h).resolve_right nofun

end System

namespace System.Account

/-- Processes that change keep their numbers, and none comes to be or ceases to be one that was
started outside. -/
lemma map (h : Account tasks next ids) {f : Task → Task} (hid : ∀ t ∈ tasks, (f t).id = t.id)
    (hparent : ∀ t ∈ tasks, (f t).parent = System.outside ↔ t.parent = System.outside) :
    Account (tasks.map f) next ids := by
  refine ⟨?_, ?_, ?_, h.next⟩
  · have hsame : tasks.filter ((fun t => decide (t.parent = System.outside)) ∘ f)
        = tasks.filter (·.parent = System.outside) :=
      List.filter_congr fun t ht => by simp [hparent t ht]
    rw [List.filter_map, List.map_map, hsame, ← h.outside]
    exact List.map_congr_left fun t ht => hid t (List.mem_of_mem_filter ht)
  · have hids : (tasks.map f).map Task.id = tasks.map Task.id := by
      rw [List.map_map]
      exact List.map_congr_left hid
    exact hids ▸ h.nodup
  · intro u hu
    obtain ⟨t, ht, rfl⟩ := List.mem_map.mp hu
    exact hid t ht ▸ h.bounds t ht

/-- Processes that no one outside has started can go. -/
lemma filter (h : Account tasks next ids) {p : Task → Bool}
    (hp : ∀ t ∈ tasks, t.parent = System.outside → p t = true) :
    Account (tasks.filter p) next ids := by
  have houtside : (tasks.filter p).filter (·.parent = System.outside)
      = tasks.filter (·.parent = System.outside) := by
    rw [List.filter_filter]
    refine List.filter_congr fun t ht => ?_
    cases hparent : decide (t.parent = System.outside) with
    | false => rfl
    | true => simp [hp t ht (of_decide_eq_true hparent)]
  exact ⟨houtside ▸ h.outside, h.nodup.sublist (List.filter_sublist.map _),
    fun t ht => h.bounds t (List.mem_of_mem_filter ht), h.next⟩

/-- A process that is done with. -/
lemma drop (h : Account s.tasks s.nextId ids) (id : Nat) :
    Account (s.drop id).tasks (s.drop id).nextId (ids.filter (· ≠ id)) := by
  refine ⟨?_, h.nodup.sublist (List.filter_sublist.map _),
    fun t ht => h.bounds t (List.mem_of_mem_filter ht), h.next⟩
  rw [System.drop, ← h.outside, List.filter_filter, List.filter_map, List.filter_filter]
  refine congrArg _ (List.filter_congr fun t _ => ?_)
  simp [Bool.and_comm]

lemma drop_of_not_mem (h : Account s.tasks s.nextId ids) {id : Nat} (hid : id ∉ ids) :
    Account (s.drop id).tasks (s.drop id).nextId ids := by
  have hdrop := h.drop id
  rwa [List.filter_eq_self.mpr fun i hi => by simpa using ne_of_mem_of_not_mem hi hid] at hdrop

/-- Orphans are handed on, and those that nobody waits for are dropped. -/
lemma tidy (h : Account s.tasks s.nextId ids) :
    Account (System.tidy s).tasks (System.tidy s).nextId ids := by
  refine .filter (.map h (fun t ht => ?_) fun t ht => ?_) ?_
  · split_ifs <;> rfl
  · split_ifs with horphaned
    · -- Who stands outside is no process, so nothing that was started there is orphaned.
      simp only [Bool.and_eq_true, List.any_eq_true, decide_eq_true_iff] at horphaned
      obtain ⟨-, u, hu, hid, -⟩ := horphaned
      have hlt := (h.bounds u hu).1
      rw [hid] at hlt
      exact iff_of_false nofun hlt.ne'
    · exact Iff.rfl
  · intro t ht hparent
    simp [hparent, System.outside]

/-- A process is replaced by what has become of it. -/
lemma set (h : Account s.tasks s.nextId ids) (ht : t ∈ s.tasks) (hid : u.id = t.id)
    (hparent : u.parent = t.parent) : Account (s.set u).tasks (s.set u).nextId ids := by
  have hsame : ∀ v ∈ s.tasks, v.id = u.id → v = t := fun v hv hvu =>
    List.inj_on_of_nodup_map h.nodup hv ht (hvu.trans hid)
  refine h.map (fun v hv => ?_) fun v hv => ?_
  · split_ifs with hvu
    · exact hvu.symm
    · rfl
  · split_ifs with hvu
    · rw [hparent, hsame v hv hvu]
    · rfl

/-- A new process gets the next number. -/
lemma concat (h : Account tasks next ids) (hid : u.id = next) :
    Account (tasks ++ [u]) (next + 1)
      (ids ++ if u.parent = System.outside then [u.id] else []) := by
  have hnew : u.id ∉ tasks.map Task.id := by
    intro hmem
    obtain ⟨t, ht, hsame⟩ := List.mem_map.mp hmem
    exact (h.bounds t ht).2.ne (hsame.trans hid)
  refine ⟨?_, nodup_concat h.nodup hnew, fun t ht => ?_, h.next.trans (Nat.lt_succ_self _)⟩
  · rw [List.filter_append, List.map_append, h.outside]
    split_ifs with hparent <;> simp [hparent]
  · rcases List.mem_append.mp ht with ht | ht
    · exact ⟨(h.bounds t ht).1, (h.bounds t ht).2.trans (Nat.lt_succ_self _)⟩
    · obtain rfl := List.mem_singleton.mp ht
      exact ⟨hid ▸ h.next, hid ▸ Nat.lt_succ_self _⟩

lemma concat_of_outside (h : Account tasks next ids) (hid : u.id = next)
    (hparent : u.parent = System.outside) :
    Account (tasks ++ [u]) (next + 1) (ids ++ [next]) := by
  have hnew := h.concat hid
  rwa [if_pos hparent, hid] at hnew

lemma concat_of_inside (h : Account tasks next ids) (hid : u.id = next)
    (hparent : u.parent ≠ System.outside) : Account (tasks ++ [u]) (next + 1) ids := by
  have hnew := h.concat hid
  rwa [if_neg hparent, List.append_nil] at hnew

/-- A process sends signals, and all others stay what they are. -/
lemma send (h : Account s.tasks s.nextId ids) (target : Int) (signal : Nat) :
    Account (s.send t target signal).1.tasks (s.send t target signal).1.nextId ids := by
  refine h.map (fun u _ => ?_) fun u _ => ?_ <;> split_ifs <;> simp

/-- What a process has started was not started outside. -/
lemma not_mem_of_child? (h : Account s.tasks s.nextId ids) (ht : t ∈ s.tasks) {id : Nat}
    (hchild : s.child? t id = some u) : id ∉ ids := by
  unfold System.child? at hchild
  obtain ⟨rfl, hparent⟩ : u.id = id ∧ u.parent = t.id := by simpa using List.find?_some hchild
  rw [← h.outside]
  intro hmem
  obtain ⟨v, hv, hid⟩ := List.mem_map.mp hmem
  obtain ⟨hv, houtside⟩ := List.mem_filter.mp hv
  obtain rfl := List.inj_on_of_nodup_map h.nodup hv (List.mem_of_find?_eq_some hchild) hid
  rw [of_decide_eq_true houtside] at hparent
  exact (h.bounds t ht).1.ne hparent

/-- What a process does leaves the account as it is. -/
theorem step (h : Account s.tasks s.nextId ids) (ht : t ∈ s.tasks) :
    Account (s.step t).tasks (s.step t).nextId ids := by
  unfold System.step
  dsimp only
  split
  · exact h
  · split
    · exact .tidy (.set h ht rfl rfl)
    · exact .set h ht rfl rfl
  · exact .set h ht rfl rfl
  · exact .set h ht rfl rfl
  · -- a process that sends itself a signal may end by it
    split_ifs
    · exact .set h ht rfl rfl
    · exact .tidy (.set h ht (Task.receive_id _ _) (Task.receive_parent _ _))
  · exact .set h ht rfl rfl
  · exact .set h ht rfl rfl
  · exact .concat_of_inside (.set h ht rfl rfl) rfl (h.bounds t ht).1.ne'
  · split
    · rename_i status hstatus
      obtain ⟨u, hchild, -⟩ := Option.bind_eq_some_iff.mp hstatus
      refine .drop_of_not_mem ?_ (h.not_mem_of_child? ht hchild)
      exact .set h ht rfl rfl
    · exact .set h ht rfl rfl
  · refine .tidy (.send ?_ _ _)
    exact .set h ht rfl rfl
  · exact .set h ht rfl rfl
  · exact .set h ht rfl rfl

lemma settle (h : Account s.tasks s.nextId ids) :
    Account (System.settle s).tasks (System.settle s).nextId ids := by
  unfold System.settle
  split_ifs
  · refine .tidy (.map h (fun t _ => ?_) fun t _ => ?_) <;> split <;> rfl
  · exact h.tidy

lemma tellParents (h : Account s.tasks s.nextId ids) (before : System) :
    Account (System.tellParents before s).tasks (System.tellParents before s).nextId ids := by
  unfold System.tellParents
  split_ifs
  · refine .map h (fun t _ => ?_) fun t _ => ?_ <;> split_ifs <;> simp
  · exact h

/-- No step of the system loses a process that was started from outside. -/
lemma advance (h : Account s.tasks s.nextId ids) (hadvance : s.advance = some s') :
    Account s'.tasks s'.nextId ids := by
  obtain ⟨t, ht, rfl⟩ := Option.map_eq_some_iff.mp hadvance
  exact .tellParents (.settle (h.step (System.mem_of_next? ht))) _

/-- A process whose end someone outside is told of was started there, and is gone then. The
induction is on the steps up to this end. -/
lemma runToEnd {fuel id : Nat} {status : ExitStatus} (h : Account s.tasks s.nextId ids)
    (hend : s.runToEnd fuel = some (id, status, s')) :
    id ∈ ids ∧ Account s'.tasks s'.nextId (ids.filter (· ≠ id)) := by
  induction fuel generalizing s with
  | zero => cases hend
  | succ fuel ih =>
    unfold System.runToEnd at hend
    split at hend
    · rename_i id' status' hended
      cases hend
      obtain ⟨t, ht, hstatus⟩ := List.exists_of_findSome?_eq_some hended
      split_ifs at hstatus with hparent
      obtain ⟨_, -, heq⟩ := Option.map_eq_some_iff.mp hstatus
      cases heq
      refine ⟨?_, .tidy (h.drop _)⟩
      rw [← h.outside]
      exact List.mem_map_of_mem (List.mem_filter.mpr ⟨ht, by simpa using hparent⟩)
    · split at hend
      · rename_i hadvance
        exact ih (h.advance hadvance) hend
      · cases hend

end System.Account

namespace Simulation

/-- The programs that run in a simulation are the processes that were started from outside. -/
def Runs (m : Simulation) (ids : List Nat) : Prop :=
  System.Account m.system.tasks m.system.nextId ids

/-- A host that runs simulations keeps account of the programs. -/
theorem host_lawful : host.Lawful Runs where
  boot t entries := ⟨rfl, .nil, nofun, by simp [host, firstId, System.outside]⟩
  start_ok {m m' ids service id} hruns hstart := by
    have hids : ∀ i ∈ ids, i < m.system.nextId := by
      intro i hi
      rw [← hruns.outside] at hi
      obtain ⟨t, ht, rfl⟩ := List.mem_map.mp hi
      exact (hruns.bounds t (List.mem_of_mem_filter ht)).2
    simp only [host, start] at hstart
    split_ifs at hstart
    · cases hstart
    · split at hstart <;> cases hstart
      exact ⟨fun hmem => (hids _ hmem).ne rfl, hruns.concat_of_outside rfl rfl⟩
  start_error {m m' ids service e} hruns hstart := by
    simp only [host, start] at hstart
    split_ifs at hstart
    · cases hstart
      exact hruns
    · split at hstart <;> cases hstart
      exact hruns
  wait {m m' ids id status} hruns hwait := by
    obtain ⟨⟨id', status', system⟩, hend, heq⟩ := Option.map_eq_some_iff.mp hwait
    cases heq
    exact hruns.runToEnd hend

/-- A run of services on a simulated host leaves none of them unaccounted for, unless a program goes
on for ever. -/
theorem run_isOver (services : List Service) (shutdown : Bool) (t : FileTree)
    (entries : List (String × String)) :
    (Supervision.run host services shutdown (host.boot t entries)).1.isOver = true ∨
      Supervision.Stuck host Runs
        (Supervision.run host services shutdown (host.boot t entries)).2 :=
  Supervision.run_isOver host_lawful (host_lawful.boot t entries) services shutdown

end Simulation

end Patchbay
